import CompactSql.Proofs.Lexeme.Folding
import CompactSql.Proofs.Scan.Tokens

/-!
# Folding a comment again

Both ways of folding give a text that has no spaces at its ends or side by side, and both keep the
words of the comment. A text of that kind is left alone by the folding of line comments; and words
are all that the folding of block comments looks at. So what is folded once is folded for good, and
where both ways meet the text is that of a block comment.

Folding also keeps the mark that closes a block comment in its place between the words, neither
parting its characters nor bringing them together. So a line comment that is written as a block
comment is cut where a block comment with the same body would have been.

## Main statements

* `foldLine_of_folded` — a folded text is not changed by the folding of line comments.
* `words_foldRuns` — folding keeps the words.
* `foldLine_append_mark`, `closed_foldLine` — folding keeps the mark.
* `comment_folds_agree` — the two ways of folding, one behind the other and through a scan.
-/

namespace CompactSql.Comment

variable {n : Nat} {c : Char} {t u b : Text}

/-! ## Texts that are folded already -/

theorem trim_of_trimmed (h : Trimmed t) : trim t = t := by
  have hlast : ∀ c ∈ t.reverse.head?, isSpace c = false := by simpa using h.last
  rw [trim, trimEnd, Text.dropWhile_eq_self_of_head h.first,
    Text.dropWhile_eq_self_of_head hlast, List.reverse_reverse]

/-- A space that stands alone is a run too short to be folded in a line comment. -/
theorem foldRuns_two_of_alone
    (h : t.IsChain fun a b => isSpace a = false ∨ isSpace b = false) : foldRuns 2 t = t := by
  induction t with
  | nil => rw [foldRuns]
  | cons c t ih =>
    obtain ⟨hnext, htail⟩ := List.isChain_cons.1 h
    by_cases hc : isSpace c = true
    · have hend : ∀ d ∈ t.head?, isSpace d = false := fun d hd => by simpa [hc] using hnext d hd
      rw [foldRuns, if_pos hc, Text.takeWhile_eq_nil_of_head hend,
        Text.dropWhile_eq_self_of_head hend, ih htail]
      rfl
    · rw [foldRuns, if_neg hc, ih htail]

theorem foldLine_of_folded (h : Folded t) : foldLine t = t := by
  rw [foldLine_eq_foldRuns, trim_of_trimmed h.toTrimmed, foldRuns_two_of_alone h.alone]

theorem folded_foldBlock (t : Text) : Folded (foldBlock t) := by
  rw [foldBlock_eq_foldRuns]
  exact (trimmed_trim t).folded_foldRuns (Nat.le_succ 1)

/-! ## Words -/

theorem isSpace_of_fold {e : Char} (hc : isSpace c = true) (he : e = ' ' ∨ e = c) :
    isSpace e = true := by
  obtain rfl | rfl := he
  · decide
  · exact hc

/-- A run leaves a space between the words that it parted. The induction is along the runs, with the
characters before them put in front. -/
theorem words_append_foldRuns (hn : n ≤ 2) (t w : Text) :
    words (w ++ foldRuns n t) = words (w ++ t) := by
  fun_induction foldRuns n t generalizing w with
  | case1 => rfl
  | case2 c t hc ih =>
    obtain ⟨e, hcons, he⟩ := exists_foldRuns_cons hn hc t
    have hrest : words (foldRuns n (t.dropWhile isSpace)) = words t := by
      simpa using ih []
    rw [foldRuns, if_pos hc] at hcons
    rw [hcons, words_append_space (isSpace_of_fold hc he), words_append_space hc, hrest]
  | case3 c t hc ih => simpa using ih (w ++ [c])

theorem words_foldRuns (hn : n ≤ 2) (t : Text) : words (foldRuns n t) = words t :=
  words_append_foldRuns hn t []

@[simp] theorem words_foldLine (t : Text) : words (foldLine t) = words t := by
  rw [foldLine_eq_foldRuns, words_foldRuns (Nat.le_refl 2), words_trim]

@[simp] theorem words_foldBlock (t : Text) : words (foldBlock t) = words t := by
  rw [foldBlock_eq_foldRuns, words_foldRuns (Nat.le_succ 1), words_trim]

/-- The text of a block comment is known from the words of its body. -/
theorem foldBlock_eq_of_words (h : words t = words u) : foldBlock t = foldBlock u := by
  rw [foldBlock_eq, h, ← foldBlock_eq]

/-! ## Characters that are no spaces -/

theorem trim_append_ink (hc : isSpace c = false) (t u : Text) :
    trim (t ++ c :: u) = t.dropWhile isSpace ++ c :: trimEnd u := by
  rw [trim, dropWhile_append_ink hc, trimEnd, List.reverse_append, List.reverse_cons,
    List.append_assoc, List.singleton_append, dropWhile_append_ink hc, trimEnd]
  simp

/-! ## The closing mark -/

/-- The characters of the mark stay side by side. -/
theorem foldLine_append_mark (b u : Text) :
    foldLine (b ++ '*' :: '/' :: u) =
      foldRuns 2 (b.dropWhile isSpace) ++ '*' :: '/' :: foldRuns 2 (trimEnd u) := by
  have hstar : isSpace '*' = false := by decide
  have hslash : isSpace '/' = false := by decide
  have htrim := trim_append_ink hslash (b ++ ['*']) u
  rw [List.append_assoc, List.singleton_append, dropWhile_append_ink hstar, List.append_assoc,
    List.singleton_append] at htrim
  rw [foldLine_eq_foldRuns, htrim, foldRuns_append_ink 2 hstar, foldRuns, if_neg (by simp [hslash])]

/-- Folding does not bring the characters of the mark together. -/
theorem closed_foldRuns (hn : n ≤ 2) (h : Closed t) : Closed (foldRuns n t) := by
  fun_induction foldRuns n t with
  | case1 => exact h
  | case2 c t hc ih =>
    obtain ⟨e, hcons, he⟩ := exists_foldRuns_cons hn hc t
    rw [foldRuns, if_pos hc] at hcons
    rw [hcons, Closed, List.infix_cons_iff, not_or]
    have hspace := isSpace_of_fold hc he
    refine ⟨fun hstart => ?_, ih fun hinside => h ?_⟩
    · obtain ⟨rfl, -⟩ := List.cons_prefix_cons.1 hstart
      exact absurd hspace (by decide)
    · exact (hinside.trans (List.dropWhile_suffix _).isInfix).trans (List.suffix_cons c t).isInfix
  | case3 c t hc ih =>
    rw [Closed, List.infix_cons_iff, not_or]
    refine ⟨fun hstart => ?_, ih fun hinside => h (hinside.trans (List.suffix_cons c t).isInfix)⟩
    obtain ⟨rfl, hslash⟩ := List.cons_prefix_cons.1 hstart
    -- The text behind the star begins as it did before it was folded.
    cases t with
    | nil => simp [foldRuns] at hslash
    | cons d t =>
      by_cases hd : isSpace d = true
      · obtain ⟨e, hcons, he⟩ := exists_foldRuns_cons hn hd t
        rw [hcons] at hslash
        obtain ⟨rfl, -⟩ := List.cons_prefix_cons.1 hslash
        exact absurd (isSpace_of_fold hd he) (by decide)
      · rw [foldRuns, if_neg hd] at hslash
        obtain ⟨rfl, -⟩ := List.cons_prefix_cons.1 hslash
        exact h (List.prefix_append ['*', '/'] t).isInfix

theorem closed_foldLine (h : Closed t) : Closed (foldLine t) := by
  have htrim : trim t <:+: t := by
    obtain ⟨s, hs, -⟩ := exists_trimEnd_append (t.dropWhile isSpace)
    exact (List.IsPrefix.isInfix ⟨s, hs⟩).trans (List.dropWhile_suffix isSpace).isInfix
  rw [foldLine_eq_foldRuns]
  exact closed_foldRuns (Nat.le_refl 2) fun hmark => h (hmark.trans htrim)

/-- There is no mark before the first one. -/
theorem closed_of_cutAt {r : Text} (h : Text.cutAt ['*', '/'] t = some (b, r)) : Closed b := by
  rintro ⟨x, y, rfl⟩
  have hfirst := (Text.firstAt_of_cutAt h).first x (y ++ ['*', '/'] ++ r) (by
    simp only [← Text.eq_of_cutAt h, List.append_assoc])
  simp only [List.length_append, List.length_cons] at hfirst
  omega

theorem closed_dropWhile (h : Closed t) : Closed (t.dropWhile isSpace) := fun hmark =>
  h (hmark.trans (List.dropWhile_suffix isSpace).isInfix)

/-- The first mark stays the first one, and the words before it are the same. -/
theorem exists_cutAt_foldLine {r : Text} (h : Text.cutAt ['*', '/'] t = some (b, r)) :
    ∃ b' r', Text.cutAt ['*', '/'] (foldLine t) = some (b', r') ∧ words b' = words b := by
  have ht : b ++ '*' :: '/' :: r = t := by simpa using Text.eq_of_cutAt h
  have hclosed := closed_foldRuns (Nat.le_refl 2) (closed_dropWhile (closed_of_cutAt h))
  have hcut := cutAt_of_closed hclosed (foldRuns 2 (trimEnd r))
  rw [← foldLine_append_mark, ht] at hcut
  exact ⟨_, _, hcut, by rw [words_foldRuns (Nat.le_refl 2), words_dropWhile]⟩

/-! ## Reading a comment again -/

/-- The part of a text that is the body of a block comment opened in front of it: where the text
holds the closing mark, the comment ends at the first one. -/
def blockBody (t : Text) : Text :=
  ((Text.cutAt ['*', '/'] t).map Prod.fst).getD t

theorem blockBody_of_cutAt {r : Text} (h : Text.cutAt ['*', '/'] t = some (b, r)) :
    blockBody t = b := by
  rw [blockBody, h, Option.map_some, Option.getD_some]

theorem blockBody_of_closed (h : Closed t) : blockBody t = t := by
  cases hcut : Text.cutAt ['*', '/'] t with
  | none => rw [blockBody, hcut, Option.map_none, Option.getD_none]
  | some p => exact absurd ⟨p.1, p.2, Text.eq_of_cutAt hcut⟩ h

/-- What is read of a line comment that is written as a block comment, and of a block comment that
has the same body. -/
theorem exists_readBlock (t r : Text) :
    (∃ r', readBlock (' ' :: foldLine t ++ [' ', '*', '/'] ++ r) =
        .ofText .comment (foldBlock (blockBody t)) r') ∧
      ∃ r', readBlock (t ++ ['*', '/'] ++ r) = .ofText .comment (foldBlock (blockBody t)) r' := by
  by_cases hclosed : Closed t
  · rw [blockBody_of_closed hclosed]
    refine ⟨⟨r, ?_⟩, r, ?_⟩
    · rw [readBlock_of_closed (closed_foldLine hclosed), foldBlock_eq_of_words (words_foldLine t)]
    · have hcut := cutAt_of_closed hclosed r
      rw [readBlock, List.append_assoc, List.cons_append, List.singleton_append, hcut]
  · obtain ⟨b, s, hcut⟩ := exists_cutAt_of_not_closed hclosed
    obtain ⟨b', s', hcut', hwords⟩ := exists_cutAt_foldLine hcut
    rw [blockBody_of_cutAt hcut]
    refine ⟨⟨s' ++ [' ', '*', '/'] ++ r, ?_⟩, s ++ ['*', '/'] ++ r, ?_⟩
    · have hspaced : words (' ' :: b') = words b := by
        rw [words_space_cons (by decide), hwords]
      rw [readBlock_of_cutAt hcut', foldBlock_eq_of_words hspaced]
    · have hlong := Text.cutAt_append hcut (s ++ ['*', '/'] ++ r)
      have ht : b ++ ['*', '/'] ++ (s ++ ['*', '/'] ++ r) = t ++ ['*', '/'] ++ r := by
        simp only [← Text.eq_of_cutAt hcut, List.append_assoc]
      rw [readBlock, ← ht, hlong]

theorem head?_scan_of_readBlock {ks : Keywords} {text r : Text}
    (h : readBlock t = .ofText .comment text r) :
    (scan ks ('/' :: '*' :: t)).head? = some (.ofText .comment text) := by
  have hstep : step ks '/' ('*' :: t) = readBlock t :=
    step_of_opens (f := .blockComment) ⟨rfl, rfl⟩ nofun
  rw [scan_of_token (hstep.trans h) nofun, List.head?_cons]

/-- Folding again, in the same way or in the other one, gives the result of the first folding if the
two are alike, and the text of a block comment if they are not. So a line comment that is written as
a block comment is scanned as the comment that a block comment with the same body would have been,
whatever stands behind it. -/
theorem comment_folds_agree (t : Text) :
    foldBlock (foldBlock t) = foldBlock t ∧ foldLine (foldLine t) = foldLine t ∧
      foldBlock (foldLine t) = foldBlock t ∧ foldLine (foldBlock t) = foldBlock t ∧
      ∀ ks r,
        (scan ks ((Token.ofText .comment (foldLine t)).written ++ r)).head? =
            some (.ofText .comment (foldBlock (blockBody t))) ∧
          (scan ks ('/' :: '*' :: t ++ ['*', '/'] ++ r)).head? =
            some (.ofText .comment (foldBlock (blockBody t))) := by
  refine ⟨foldBlock_eq_of_words (words_foldBlock t), foldLine_of_folded (folded_foldLine t),
    foldBlock_eq_of_words (words_foldLine t), foldLine_of_folded (folded_foldBlock t), ?_⟩
  intro ks r
  obtain ⟨⟨r₁, hline⟩, r₂, hblock⟩ := exists_readBlock t r
  refine ⟨?_, head?_scan_of_readBlock hblock⟩
  have hwritten : (Token.ofText .comment (foldLine t)).written ++ r =
      '/' :: '*' :: (' ' :: foldLine t ++ [' ', '*', '/'] ++ r) := by
    simp [Token.written, Token.lexeme]
  rw [hwritten]
  exact head?_scan_of_readBlock hline

end CompactSql.Comment
