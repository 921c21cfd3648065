import CompactSql.Proofs.Lexeme.FoldRuns
import CompactSql.Proofs.Text.Cut

/-!
# Comments, read and written

A comment is written between comment marks with a space inside each. Whether it is read back whole
depends on its text alone: the text must not hold the closing mark.

## Main definitions

* `Comment.Closed` — a text that holds no closing mark.
* `Comment.ink` — the characters of a text that are no spaces, which folding keeps.

## Main statements

* `readBlock_of_closed` — a text without the closing mark is read back, folded.
* `readBlock_of_cutAt`, `foldBlock_ne_of_cutAt` — otherwise the comment ends at the mark, and ink is
  missing from its text.
-/

namespace CompactSql

open Text

variable {b r t : Text}

/-! ## The closing mark -/

namespace Comment

/-- Whether the text can stand in a block comment: it does not hold the mark that closes one. -/
def Closed (t : Text) : Prop := ¬['*', '/'] <:+: t

instance (t : Text) : Decidable (Closed t) := inferInstanceAs (Decidable ¬_)

theorem closed_spaced_iff : Closed (' ' :: t ++ [' ']) ↔ Closed t := by
  have hend : ∀ s, ¬['*', '/'] = s ++ [' '] := by
    intro s hs
    simpa using congrArg List.getLast? hs
  have hinfix : ['*', '/'] <:+: ' ' :: t ++ [' '] ↔ ['*', '/'] <:+: t := by
    simp [List.infix_concat_iff, List.infix_cons_iff, List.suffix_concat_iff,
      List.cons_prefix_cons, hend]
  exact not_congr hinfix

/-- The two characters of the mark differ, so no mark begins at the end of the text and ends in
the mark behind it. -/
theorem cutAt_of_closed (h : Closed b) (r : Text) :
    cutAt ['*', '/'] (b ++ '*' :: '/' :: r) = some (b, r) := by
  induction b with
  | nil => exact cutAt_self ['*', '/'] r
  | cons c b ih =>
    have htail : Closed b := fun hb => h (hb.trans (List.suffix_cons c b).isInfix)
    have hno : ['*', '/'].isPrefixOf (c :: (b ++ '*' :: '/' :: r)) = false := by
      rw [Bool.eq_false_iff]
      intro hp
      apply h
      obtain ⟨rfl, hb⟩ : '*' = c ∧ ['/'] <+: b ++ '*' :: '/' :: r := by
        simpa [List.cons_prefix_cons] using hp
      cases b with
      | nil => simp at hb
      | cons e b =>
        obtain rfl : '/' = e := by simpa [List.cons_prefix_cons] using hb
        exact (List.prefix_append ['*', '/'] b).isInfix
    rw [List.cons_append, cutAt, hno, ih htail]
    rfl

/-! ## Folding -/

theorem trimEnd_append_space (t : Text) : trimEnd (t ++ [' ']) = trimEnd t := by
  have hspace : isSpace ' ' = true := by decide
  simp [trimEnd, hspace]

theorem trim_spaced (t : Text) : trim (' ' :: t ++ [' ']) = trim t := by
  have hspace : isSpace ' ' = true := by decide
  have hfirst : (' ' :: t ++ [' ']).dropWhile isSpace = (t ++ [' ']).dropWhile isSpace := by
    simp [hspace]
  rw [trim, hfirst, trim, List.dropWhile_append]
  split
  · rename_i hall
    rw [List.isEmpty_iff.1 hall]
    simp [hspace]
  · exact trimEnd_append_space _

/-- The characters of a text that are no spaces. -/
def ink (t : Text) : Text := t.filter (!isSpace ·)

@[simp] theorem ink_append (s t : Text) : ink (s ++ t) = ink s ++ ink t := List.filter_append ..

@[simp] theorem ink_space_cons (t : Text) : ink (' ' :: t) = ink t :=
  List.filter_cons_of_neg (by decide)

theorem ink_eq_nil (h : ∀ c ∈ t, isSpace c = true) : ink t = [] := by
  simpa [ink, List.filter_eq_nil_iff] using h

@[simp] theorem ink_reverse (t : Text) : ink t.reverse = (ink t).reverse := List.filter_reverse

@[simp] theorem ink_dropWhile (t : Text) : ink (t.dropWhile isSpace) = ink t := by
  conv_rhs => rw [← List.takeWhile_append_dropWhile (p := isSpace) (l := t), ink_append,
    ink_eq_nil fun _ => List.mem_takeWhile_imp, List.nil_append]

@[simp] theorem ink_trim (t : Text) : ink (trim t) = ink t := by simp [trim, trimEnd]

theorem ink_foldRun {n : Nat} (h : ∀ c ∈ t, isSpace c = true) : ink (foldRun n t) = [] := by
  unfold foldRun
  split
  · decide
  · exact ink_eq_nil h

@[simp] theorem ink_foldRuns (n : Nat) (t : Text) : ink (foldRuns n t) = ink t := by
  fun_induction foldRuns n t with
  | case1 => rfl
  | case2 c t hc ih =>
    have hrun : ∀ d ∈ c :: t.takeWhile isSpace, isSpace d = true :=
      List.forall_mem_cons.2 ⟨hc, fun _ => List.mem_takeWhile_imp⟩
    rw [ink_append, ink_foldRun hrun, ih, ink_dropWhile]
    simp [ink, hc]
  | case3 c t hc ih => simpa [ink, hc] using ih

@[simp] theorem ink_foldBlock (t : Text) : ink (foldBlock t) = ink t := by
  simp [foldBlock_eq_foldRuns]

/-! ## Reading back -/

theorem readBlock_of_closed (h : Closed t) (r : Text) :
    readBlock (' ' :: t ++ [' ', '*', '/'] ++ r) = .ofText .comment (foldBlock t) r := by
  have hcut := cutAt_of_closed (closed_spaced_iff.2 h) r
  have hfold : foldBlock (' ' :: t ++ [' ']) = foldBlock t := by
    rw [foldBlock, trim_spaced, foldBlock]
  simp only [List.append_assoc, List.cons_append, List.nil_append] at hcut hfold ⊢
  rw [readBlock, hcut, ← hfold]

/-- A comment whose text holds the closing mark ends there. -/
theorem readBlock_of_cutAt {behind : Text} (h : cutAt ['*', '/'] t = some (b, behind)) (r : Text) :
    readBlock (' ' :: t ++ [' ', '*', '/'] ++ r) =
      .ofText .comment (foldBlock (' ' :: b)) (behind ++ [' ', '*', '/'] ++ r) := by
  have hcut := cutAt_append h (behind ++ [' ', '*', '/'] ++ r)
  have hcut' : cutAt ['*', '/'] (' ' :: (b ++ ['*', '/'] ++ (behind ++ [' ', '*', '/'] ++ r))) =
      some (' ' :: b, behind ++ [' ', '*', '/'] ++ r) := by
    rw [cutAt, hcut]
    rfl
  rw [← eq_of_cutAt h]
  simp only [List.append_assoc, List.cons_append, List.nil_append] at hcut' ⊢
  rw [readBlock, hcut']

/-- The two characters of the mark are missing from the text of a comment that ends at them. -/
theorem foldBlock_ne_of_cutAt {behind : Text} (h : cutAt ['*', '/'] t = some (b, behind)) :
    foldBlock (' ' :: b) ≠ foldBlock t := by
  intro heq
  have hstar : isSpace '*' = false := by decide
  have hslash : isSpace '/' = false := by decide
  have hall : ink b ++ '*' :: '/' :: ink behind = ink t := by
    simpa [ink, hstar, hslash] using congrArg ink (eq_of_cutAt h)
  have hlost : ink b = ink t := by simpa using congrArg ink heq
  have hlen := congrArg List.length (hlost ▸ hall)
  simp only [List.length_append, List.length_cons] at hlen
  omega

/-- A text that is not closed can be cut at the mark. -/
theorem exists_cutAt_of_not_closed (h : ¬Closed t) :
    ∃ before behind, cutAt ['*', '/'] t = some (before, behind) :=
  exists_cutAt_of_isInfix (List.cons_ne_nil _ _) (not_not.1 h)

end Comment

end CompactSql
