import CompactSql.Proofs.Lexeme.Comment
import CompactSql.Proofs.Text.LineEnding
import Mathlib.Data.List.Chain

/-!
# The text of a comment

What folding makes of a comment, said without the runs that it looks for. A block comment becomes a
row of words with single spaces between them; in a line comment no spaces are left at the ends or
side by side.

## Main definitions

* `Comment.words` — the maximal pieces of a text that hold no space.
* `Comment.Trimmed`, `Comment.Folded` — texts without spaces at their ends, or side by side.

## Main statements

* `foldBlock_eq` — the text of a block comment is made of its words.
* `folded_foldLine`, `ink_foldLine`, `mem_of_mem_foldLine` — what is known of the text of a line
  comment.
-/

namespace CompactSql.Comment

variable {n : Nat} {c : Char} {t u w r s : Text}

/-! ## Trimming -/

/-- A text without spaces at its ends. -/
structure Trimmed (t : Text) : Prop where
  first : ∀ c ∈ t.head?, isSpace c = false
  last : ∀ c ∈ t.getLast?, isSpace c = false

/-- The spaces at the end of a text are all that is missing from it when its end is trimmed. -/
theorem exists_trimEnd_append (t : Text) :
    ∃ s, trimEnd t ++ s = t ∧ ∀ c ∈ s, isSpace c = true := by
  refine ⟨(t.reverse.takeWhile isSpace).reverse, ?_, ?_⟩
  · rw [trimEnd, ← List.reverse_append, List.takeWhile_append_dropWhile, List.reverse_reverse]
  · intro c hc
    exact List.mem_takeWhile_imp (List.mem_reverse.1 hc)

theorem trimmed_trim (t : Text) : Trimmed (trim t) := by
  obtain ⟨s, hs, -⟩ := exists_trimEnd_append (t.dropWhile isSpace)
  constructor
  · intro c hc
    apply Text.head_dropWhile isSpace t
    rw [← hs, List.head?_append, ← trim, Option.mem_def.1 hc]
    rfl
  · intro c hc
    apply Text.head_dropWhile isSpace (t.dropWhile isSpace).reverse
    rwa [trim, trimEnd, List.getLast?_reverse] at hc

theorem trim_sublist (t : Text) : (trim t).Sublist t := by
  obtain ⟨s, hs, -⟩ := exists_trimEnd_append (t.dropWhile isSpace)
  have hprefix : trim t <+: t.dropWhile isSpace := ⟨s, hs⟩
  exact hprefix.sublist.trans (List.dropWhile_suffix _).sublist

/-! ## Words -/

/-- The maximal pieces of a text that hold no space. -/
def words (t : Text) : List Text := (t.splitOnP isSpace).filter (· ≠ [])

@[simp] theorem words_nil : words [] = [] := by simp [words]

/-- A space parts the words before it from those behind it. -/
theorem words_append_space (hc : isSpace c = true) (t u : Text) :
    words (t ++ c :: u) = words t ++ words u := by
  rw [words, List.splitOnP_append_cons t u hc, List.filter_append, words, words]

theorem words_space_cons (hc : isSpace c = true) (t : Text) : words (c :: t) = words t := by
  simpa using words_append_space hc [] t

theorem words_of_ink (hne : w ≠ []) (hw : ∀ c ∈ w, isSpace c = false) : words w = [w] := by
  rw [words, List.splitOnP_eq_singleton hw]
  simp [hne]

/-- A word in front of a space or of the end of a text. -/
theorem words_append (hne : w ≠ []) (hw : ∀ c ∈ w, isSpace c = false)
    (hr : ∀ c ∈ r.head?, isSpace c = true) : words (w ++ r) = w :: words r := by
  cases r with
  | nil => rw [List.append_nil, words_of_ink hne hw, words_nil]
  | cons c r =>
    have hc : isSpace c = true := hr c rfl
    rw [words_append_space hc, words_of_ink hne hw, words_space_cons hc, List.singleton_append]

@[simp] theorem words_dropWhile (t : Text) : words (t.dropWhile isSpace) = words t := by
  induction t with
  | nil => rfl
  | cons c t ih =>
    cases hc : isSpace c with
    | true => rw [List.dropWhile_cons_of_pos hc, words_space_cons hc, ih]
    | false => rw [List.dropWhile_cons_of_neg (by simp [hc])]

theorem words_append_spaces (t : Text) (hs : ∀ c ∈ s, isSpace c = true) :
    words (t ++ s) = words t := by
  cases s with
  | nil => rw [List.append_nil]
  | cons c s =>
    rw [List.forall_mem_cons] at hs
    have hnone : words s = [] := by
      rw [← words_dropWhile, List.dropWhile_eq_nil_iff.2 hs.2, words_nil]
    rw [words_append_space hs.1, hnone, List.append_nil]

@[simp] theorem words_trim (t : Text) : words (trim t) = words t := by
  obtain ⟨s, hs, hspaces⟩ := exists_trimEnd_append (t.dropWhile isSpace)
  rw [trim, ← words_append_spaces _ hspaces, hs, words_dropWhile]

/-! ## Texts as words and spaces -/

/-- A text that ends in no space and does not begin with one is empty or one word, or goes on behind
its first word with spaces and another such text. -/
theorem Trimmed.cases_words (h : Trimmed t) :
    t = [] ∨ ∃ w, w ≠ [] ∧ (∀ c ∈ w, isSpace c = false) ∧
      (t = w ∨ ∃ c r, t = w ++ c :: r ∧ isSpace c = true ∧ r.dropWhile isSpace ≠ [] ∧
        Trimmed (r.dropWhile isSpace)) := by
  obtain ⟨w, hw⟩ : ∃ w, t.takeWhile (!isSpace ·) = w := ⟨_, rfl⟩
  obtain ⟨r, hr⟩ : ∃ r, t.dropWhile (!isSpace ·) = r := ⟨_, rfl⟩
  obtain ⟨rfl, hink, hstop⟩ := Text.span_eq_iff.1 ⟨hw, hr⟩
  have hink' : ∀ c ∈ w, isSpace c = false := by simpa using hink
  cases r with
  | nil =>
    rw [List.append_nil]
    by_cases hne : w = []
    · exact .inl hne
    · exact .inr ⟨w, hne, hink', .inl rfl⟩
  | cons c r =>
    have hc : isSpace c = true := by simpa using hstop
    have hne : w ≠ [] := by
      rintro rfl
      exact Bool.noConfusion ((h.first c rfl).symm.trans hc)
    -- The text goes on behind the spaces, because it does not end in one.
    have hrest : r.dropWhile isSpace ≠ [] := by
      intro hnil
      have hall : ∀ e ∈ c :: r, isSpace e = true :=
        List.forall_mem_cons.2 ⟨hc, List.dropWhile_eq_nil_iff.1 hnil⟩
      obtain ⟨e, he⟩ : ∃ e, (c :: r).getLast? = some e :=
        ⟨_, List.getLast?_eq_some_getLast (List.cons_ne_nil c r)⟩
      have hlast : isSpace e = false := h.last e (by rw [List.getLast?_append, he]; rfl)
      exact Bool.noConfusion (hlast.symm.trans (hall e (List.mem_of_getLast? he)))
    refine .inr ⟨w, hne, hink', .inr ⟨c, r, rfl, hc, hrest, Text.head_dropWhile isSpace r, ?_⟩⟩
    intro e he
    apply h.last
    rw [← List.takeWhile_append_dropWhile (p := isSpace) (l := r), ← List.cons_append,
      ← List.append_assoc, List.getLast?_append, Option.mem_def.1 he]
    rfl

/-- Induction along the words of a text without spaces at its ends. -/
@[elab_as_elim]
theorem Trimmed.words_induction {P : Text → Prop} (nil : P [])
    (word : ∀ w, w ≠ [] → (∀ c ∈ w, isSpace c = false) → P w)
    (append : ∀ w c r, w ≠ [] → (∀ c ∈ w, isSpace c = false) → isSpace c = true →
      r.dropWhile isSpace ≠ [] → P (r.dropWhile isSpace) → P (w ++ c :: r))
    (h : Trimmed t) : P t := by
  induction hlen : t.length using Nat.strong_induction_on generalizing t with
  | _ m ih =>
    subst hlen
    obtain rfl | ⟨w, hne, hw, rfl | ⟨c, r, rfl, hc, hrest, htrimmed⟩⟩ := h.cases_words
    · exact nil
    · exact word t hne hw
    · have hlen : (r.dropWhile isSpace).length < (w ++ c :: r).length := by
        have := (List.dropWhile_suffix (l := r) isSpace).length_le
        rw [List.length_append, List.length_cons]
        omega
      exact append w c r hne hw hc hrest (ih _ hlen htrimmed rfl)

/-! ## Folding runs -/

theorem foldRuns_append_of_ink (n : Nat) (hw : ∀ c ∈ w, isSpace c = false) (r : Text) :
    foldRuns n (w ++ r) = w ++ foldRuns n r := by
  induction w with
  | nil => rfl
  | cons c w ih =>
    rw [List.forall_mem_cons] at hw
    rw [List.cons_append, foldRuns, if_neg (by simp [hw.1]), ih hw.2, List.cons_append]

theorem foldRuns_of_ink (n : Nat) (hw : ∀ c ∈ w, isSpace c = false) : foldRuns n w = w := by
  simpa [foldRuns] using foldRuns_append_of_ink n hw []

/-- If runs of two spaces are folded, one character is left of every run. -/
theorem exists_foldRuns_cons (hn : n ≤ 2) (hc : isSpace c = true) (t : Text) :
    ∃ e, foldRuns n (c :: t) = e :: foldRuns n (t.dropWhile isSpace) ∧ (e = ' ' ∨ e = c) := by
  rw [foldRuns, if_pos hc, foldRun]
  split
  · exact ⟨' ', rfl, .inl rfl⟩
  · rename_i hshort
    have hrun : t.takeWhile isSpace = [] := by
      rw [← List.length_eq_zero_iff]
      rw [List.length_cons] at hshort
      omega
    exact ⟨c, by rw [hrun, List.singleton_append], .inr rfl⟩

theorem foldRuns_ne_nil (hn : n ≤ 2) (h : t ≠ []) : foldRuns n t ≠ [] := by
  obtain ⟨c, t, rfl⟩ := List.exists_cons_of_ne_nil h
  cases hc : isSpace c with
  | true =>
    obtain ⟨e, hcons, -⟩ := exists_foldRuns_cons hn hc t
    rw [hcons]
    exact List.cons_ne_nil _ _
  | false =>
    rw [foldRuns, if_neg (by simp [hc])]
    exact List.cons_ne_nil _ _

/-- Folding brings in no characters but spaces. -/
theorem mem_of_mem_foldRuns (hn : n ≤ 2) (h : c ∈ foldRuns n t) : c = ' ' ∨ c ∈ t := by
  fun_induction foldRuns n t with
  | case1 => exact absurd h List.not_mem_nil
  | case2 d t hd ih =>
    obtain ⟨e, hcons, he⟩ := exists_foldRuns_cons hn hd t
    rw [foldRuns, if_pos hd] at hcons
    rw [hcons, List.mem_cons] at h
    obtain rfl | h := h
    · obtain rfl | rfl := he
      · exact .inl rfl
      · exact .inr List.mem_cons_self
    · exact (ih h).imp_right fun h => List.mem_cons_of_mem d ((List.dropWhile_suffix _).subset h)
  | case3 d t hd ih =>
    obtain rfl | h := List.mem_cons.1 h
    · exact .inr List.mem_cons_self
    · exact (ih h).imp_right (List.mem_cons_of_mem d)

/-! ## Block comments -/

/-- A text without spaces at its ends, with its runs of spaces folded, is made of its words. -/
theorem foldRuns_one_of_trimmed (h : Trimmed t) :
    foldRuns 1 t = [' '].intercalate (words t) ∧ (t ≠ [] → words t ≠ []) := by
  refine Trimmed.words_induction ?nil ?word ?append h
  case nil => simp [foldRuns]
  case word =>
    intro w hne hw
    simp [words_of_ink hne hw, foldRuns_of_ink 1 hw]
  case append =>
    intro w c r hne hw hc hrest ih
    have hstop : ∀ d ∈ (c :: r).head?, isSpace d = true := by simpa using hc
    rw [words_dropWhile] at ih
    obtain ⟨v, vs, hwords⟩ := List.exists_cons_of_ne_nil (ih.2 hrest)
    rw [foldRuns_append_of_ink 1 hw, foldRuns_one_cons hc, ih.1, words_append hne hw hstop,
      words_space_cons hc, hwords, List.intercalate_cons_cons]
    simp

/-- The text of a block comment is made of its words, with one space between two of them. -/
theorem foldBlock_eq (t : Text) : foldBlock t = [' '].intercalate (words t) := by
  rw [foldBlock_eq_foldRuns, (foldRuns_one_of_trimmed (trimmed_trim t)).1, words_trim]

/-! ## Line comments -/

/-- A text without spaces at its ends and without two of them side by side. -/
structure Folded (t : Text) : Prop extends Trimmed t where
  alone : t.IsChain fun a b => isSpace a = false ∨ isSpace b = false

theorem folded_of_ink (hw : ∀ c ∈ w, isSpace c = false) : Folded w where
  first c hc := hw c (List.mem_of_head? hc)
  last c hc := hw c (List.mem_of_getLast? hc)
  alone := List.Pairwise.isChain (List.pairwise_of_forall_mem_list fun a ha _ _ => .inl (hw a ha))

/-- A word, a space and a text with no spaces at its ends. -/
theorem Folded.append (h : Folded t) (ht : t ≠ []) (hne : w ≠ [])
    (hw : ∀ c ∈ w, isSpace c = false) (c : Char) : Folded (w ++ c :: t) where
  first d hd := by
    rw [List.head?_append_of_ne_nil _ hne] at hd
    exact hw d (List.mem_of_head? hd)
  last d hd := by
    apply h.last
    rwa [List.getLast?_append_of_ne_nil _ (List.cons_ne_nil c t), List.getLast?_cons_of_ne_nil ht]
      at hd
  alone := by
    rw [List.isChain_append, List.isChain_cons]
    exact ⟨(folded_of_ink hw).alone, ⟨fun d hd => .inr (h.first d hd), h.alone⟩,
      fun a ha _ _ => .inl (hw a (List.mem_of_getLast? ha))⟩

theorem Trimmed.folded_foldRuns (h : Trimmed t) (hn : n ≤ 2) : Folded (foldRuns n t) := by
  refine Trimmed.words_induction ?nil ?word ?append h
  case nil =>
    rw [foldRuns]
    exact folded_of_ink fun c hc => absurd hc List.not_mem_nil
  case word =>
    intro w hne hw
    rw [foldRuns_of_ink n hw]
    exact folded_of_ink hw
  case append =>
    intro w c r hne hw hc hrest ih
    obtain ⟨e, hcons, -⟩ := exists_foldRuns_cons hn hc r
    rw [foldRuns_append_of_ink n hw, hcons]
    exact ih.append (foldRuns_ne_nil hn hrest) hne hw e

theorem folded_foldLine (t : Text) : Folded (foldLine t) := by
  rw [foldLine_eq_foldRuns]
  exact (trimmed_trim t).folded_foldRuns (Nat.le_refl 2)

@[simp] theorem ink_foldLine (t : Text) : ink (foldLine t) = ink t := by
  simp [foldLine_eq_foldRuns]

theorem mem_of_mem_foldLine (h : c ∈ foldLine t) : c = ' ' ∨ c ∈ t := by
  rw [foldLine_eq_foldRuns] at h
  exact (mem_of_mem_foldRuns (Nat.le_refl 2) h).imp_right fun h => (trim_sublist t).subset h

end CompactSql.Comment
