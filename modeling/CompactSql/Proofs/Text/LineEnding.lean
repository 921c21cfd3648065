import CompactSql.Proofs.Lexeme.FoldRuns
import CompactSql.Proofs.Text.Cut

/-!
# Line ends

A line may end in a line feed alone, or in a carriage return and a line feed. What treats these two
characters alike finds the same runs and the same delimiters in a text however its lines end.

## Main definitions

* `Text.crlf` — a text with a carriage return in front of every line feed.

## Main statements

* `takeWhile_crlf`, `dropWhile_crlf`, `cutAt_crlf` — runs and cuts.
* `Comment.foldBlock_crlf` — the text of a block comment does not depend on the line ends in it.
* `Comment.foldLine_append` — nor does that of a line comment on spaces at its end.
-/

namespace CompactSql

namespace Text

variable {p : Char → Bool} {c q : Char} {d t u : Text}

/-- The text with a carriage return in front of every line feed. -/
def crlf : Text → Text
  | [] => []
  | c :: t => if c = '\n' then '\r' :: '\n' :: crlf t else c :: crlf t

@[simp] theorem crlf_nil : crlf [] = [] := rfl

@[simp] theorem crlf_newline (t : Text) : crlf ('\n' :: t) = '\r' :: '\n' :: crlf t := rfl

@[simp] theorem crlf_cons (hc : c ≠ '\n') (t : Text) : crlf (c :: t) = c :: crlf t := if_neg hc

@[simp] theorem crlf_append (t u : Text) : crlf (t ++ u) = crlf t ++ crlf u := by
  fun_induction crlf t <;> simp_all

theorem crlf_of_not_mem (h : '\n' ∉ t) : crlf t = t := by
  fun_induction crlf t <;> grind

/-- Only the end of a line begins with another character. -/
theorem head?_crlf (t : Text) :
    (crlf t).head? = t.head?.map fun c => if c = '\n' then '\r' else c := by
  fun_cases crlf t <;> simp_all

theorem head?_crlf_eq_some_iff (hr : q ≠ '\r') (hn : q ≠ '\n') (t : Text) :
    (crlf t).head? = some q ↔ t.head? = some q := by
  fun_cases crlf t <;> simp_all [eq_comm]

theorem drop_one_crlf (h : t.head? = some q) (hq : q ≠ '\n') :
    (crlf t).drop 1 = crlf (t.drop 1) := by
  obtain ⟨t, rfl⟩ := List.head?_eq_some_iff.1 h
  simp [hq]

@[simp] theorem isEmpty_crlf (t : Text) : (crlf t).isEmpty = t.isEmpty := by
  fun_cases crlf t <;> rfl

/-! ## Runs and cuts -/

theorem takeWhile_crlf (hp : p '\r' = p '\n') (t : Text) :
    (crlf t).takeWhile p = crlf (t.takeWhile p) := by
  fun_induction crlf t <;> grind [List.takeWhile_nil, List.takeWhile_cons, crlf]

theorem dropWhile_crlf (hp : p '\r' = p '\n') (t : Text) :
    (crlf t).dropWhile p = crlf (t.dropWhile p) := by
  fun_induction crlf t <;> grind [List.dropWhile_nil, List.dropWhile_cons, crlf]

/-- A run that a line end stops holds none. -/
theorem takeWhile_crlf_of_stop (hr : p '\r' = false) (hn : p '\n' = false) (t : Text) :
    (crlf t).takeWhile p = t.takeWhile p := by
  rw [takeWhile_crlf (hr.trans hn.symm)]
  refine crlf_of_not_mem fun hmem => ?_
  exact Bool.noConfusion (hn.symm.trans (List.mem_takeWhile_imp hmem))

theorem isPrefixOf_crlf (hr : '\r' ∉ d) (hn : '\n' ∉ d) (t : Text) :
    d.isPrefixOf (crlf t) = d.isPrefixOf t := by
  induction d generalizing t with
  | nil => simp
  | cons q d ih =>
    rw [List.mem_cons, not_or] at hr hn
    fun_cases crlf t with
    | case1 => rfl
    | case2 t =>
      have hq : (q == '\r') = false := by simpa using Ne.symm hr.1
      have hq' : (q == '\n') = false := by simpa using Ne.symm hn.1
      simp [List.isPrefixOf, hq, hq']
    | case3 c t => rw [List.isPrefixOf, List.isPrefixOf, ih hr.2 hn.2]

/-- A cut at a delimiter that holds no part of a line end. -/
theorem cutAt_crlf (hd : d ≠ []) (hr : '\r' ∉ d) (hn : '\n' ∉ d) (t : Text) :
    cutAt d (crlf t) = (cutAt d t).map fun (b, r) => (crlf b, crlf r) := by
  have hstop (c : Char) (hc : c ∉ d) (t : Text) : d.isPrefixOf (c :: t) = false := by
    obtain ⟨q, d, rfl⟩ := List.exists_cons_of_ne_nil hd
    have hq : (q == c) = false := by grind
    simp [List.isPrefixOf, hq]
  induction t with
  | nil => simp [cutAt, hd]
  | cons c t ih =>
    by_cases hc : c = '\n'
    · subst hc
      rw [crlf_newline, cutAt, cutAt, cutAt, hstop _ hr, hstop _ hn, hstop _ hn, ih]
      cases cutAt d t <;> simp
    · have hprefix := isPrefixOf_crlf hr hn (c :: t)
      rw [crlf_cons hc] at hprefix ⊢
      rw [cutAt, cutAt, hprefix, ih]
      split
      · rename_i hd
        obtain ⟨r, hr'⟩ := List.isPrefixOf_iff_prefix.1 hd
        have happend : c :: crlf t = d ++ crlf r := by
          rw [← crlf_cons hc, ← hr', crlf_append, crlf_of_not_mem hn]
        simp [happend, ← hr']
      · cases cutAt d t <;> simp [hc]

end Text

/-! ## The text of a comment -/

namespace Comment

open Text

variable {s : Text}

theorem trimEnd_append (t : Text) (hs : ∀ c ∈ s, isSpace c = true) :
    trimEnd (t ++ s) = trimEnd t := by
  have hall : ∀ c ∈ s.reverse, isSpace c = true := by simpa using hs
  rw [trimEnd, List.reverse_append, List.dropWhile_append_of_pos hall, trimEnd]

theorem trimEnd_concat {c : Char} (t : Text) (hc : isSpace c = false) :
    trimEnd (t ++ [c]) = t ++ [c] := by
  simp [trimEnd, hc]

theorem trim_append (t : Text) (hs : ∀ c ∈ s, isSpace c = true) : trim (t ++ s) = trim t := by
  rw [trim, List.dropWhile_append, trim]
  split
  · rename_i hall
    have hnil : s.dropWhile isSpace = [] := List.dropWhile_eq_nil_iff.2 hs
    rw [hnil, List.isEmpty_iff.1 hall]
  · exact trimEnd_append _ hs

/-- Spaces at the end of a line comment do not come into its text. -/
theorem foldLine_append (t : Text) (hs : ∀ c ∈ s, isSpace c = true) :
    foldLine (t ++ s) = foldLine t := by
  rw [foldLine, trim_append t hs, foldLine]

theorem isSpace_of_mem_crlf {c : Char} (hc : isSpace c = true) :
    ∀ e ∈ crlf [c], isSpace e = true := by
  by_cases h : c = '\n'
  · subst h
    exact List.all_eq_true.1 rfl
  · simpa [h] using hc

theorem trimEnd_crlf (t : Text) : trimEnd (crlf t) = crlf (trimEnd t) := by
  induction t using List.reverseRecOn with
  | nil => rfl
  | append_singleton t c ih =>
    rw [crlf_append]
    cases hc : isSpace c with
    | true =>
      have hone : ∀ e ∈ [c], isSpace e = true := by simpa using hc
      rw [trimEnd_append _ (isSpace_of_mem_crlf hc), ih, trimEnd_append _ hone]
    | false =>
      have hne : c ≠ '\n' := (ne_of_true_of_false (by decide) hc).symm
      rw [trimEnd_concat t hc, crlf_append, crlf_cons hne, crlf_nil, trimEnd_concat _ hc]

theorem trim_crlf (t : Text) : trim (crlf t) = crlf (trim t) := by
  rw [trim, dropWhile_crlf (by decide), trimEnd_crlf, trim]

theorem foldRuns_one_cons {c : Char} (hc : isSpace c = true) (t : Text) :
    foldRuns 1 (c :: t) = ' ' :: foldRuns 1 (t.dropWhile isSpace) := by
  rw [foldRuns, if_pos hc, foldRun, if_pos (by simp)]
  rfl

theorem foldRuns_one_crlf (t : Text) : foldRuns 1 (crlf t) = foldRuns 1 t := by
  fun_induction foldRuns 1 t with
  | case1 => simp [foldRuns]
  | case2 c t hc ih =>
    have hrest : foldRuns 1 ((crlf t).dropWhile isSpace) = foldRuns 1 (t.dropWhile isSpace) := by
      rw [dropWhile_crlf (by decide), ih]
    by_cases hline : c = '\n'
    · subst hline
      rw [crlf_newline, foldRuns_one_cons (by decide), List.dropWhile_cons_of_pos (by decide),
        hrest]
      simp [foldRun]
    · rw [crlf_cons hline, foldRuns_one_cons hc, hrest]
      simp [foldRun]
  | case3 c t hc ih =>
    have hne : c ≠ '\n' := (ne_of_true_of_false (by decide) (Bool.eq_false_iff.2 hc)).symm
    rw [crlf_cons hne, foldRuns, if_neg hc, ih]

/-- The line ends in a block comment are spaces like others, and folded like them. -/
theorem foldBlock_crlf (t : Text) : foldBlock (crlf t) = foldBlock t := by
  rw [foldBlock_eq_foldRuns, trim_crlf, foldRuns_one_crlf, foldBlock_eq_foldRuns]

end Comment

end CompactSql
