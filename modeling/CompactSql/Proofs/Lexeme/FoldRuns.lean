import CompactSql.Lexeme.Comment
import Mathlib.Data.List.TakeWhile

/-!
# Folding, run by run

The folding of a comment goes through its characters and keeps the run of spaces that it is in. Here
the same is said in one step for each run: a run that has not come to its end when a character that
is no space follows is folded as if it stood alone.

## Main definitions

* `Comment.foldRun`, `Comment.foldRuns` — what becomes of a run of spaces, and of all runs of a text.

## Main statements

* `foldRuns_append_ink` — a run ends in front of a character that is no space.
* `foldFrom_eq` — what a folding has still to write, at any character.
* `foldBlock_eq_foldRuns`, `foldLine_eq_foldRuns` — the two ways of folding, run by run.
-/

namespace CompactSql.Comment

variable {c : Char} {run : Text}

/-! ## Runs of spaces -/

/-- What becomes of a run of spaces: one space, if it has `shortest` characters or more. -/
def foldRun (shortest : Nat) (run : Text) : Text :=
  if shortest ≤ run.length then [' '] else run

/-- The text with every run of `shortest` spaces or more folded into one space, run by run. -/
def foldRuns (shortest : Nat) : Text → Text
  | [] => []
  | c :: t =>
    if isSpace c then
      foldRun shortest (c :: t.takeWhile isSpace) ++ foldRuns shortest (t.dropWhile isSpace)
    else c :: foldRuns shortest t
termination_by t => t.length
decreasing_by
  · exact Nat.lt_succ_of_le (List.dropWhile_suffix _).length_le
  · exact Nat.lt_succ_self _

theorem takeWhile_append_ink (hc : isSpace c = false) (t u : Text) :
    (t ++ c :: u).takeWhile isSpace = t.takeWhile isSpace := by
  induction t <;> grind [List.takeWhile_nil, List.takeWhile_cons]

theorem dropWhile_append_ink (hc : isSpace c = false) (t u : Text) :
    (t ++ c :: u).dropWhile isSpace = t.dropWhile isSpace ++ c :: u := by
  induction t <;> grind [List.dropWhile_nil, List.dropWhile_cons]

/-- A run ends in front of a character that is no space. -/
theorem foldRuns_append_ink (n : Nat) (hc : isSpace c = false) (t u : Text) :
    foldRuns n (t ++ c :: u) = foldRuns n t ++ c :: foldRuns n u := by
  fun_induction foldRuns n t with
  | case1 => rw [List.nil_append, foldRuns, if_neg (by simp [hc]), List.nil_append]
  | case2 d t hd ih =>
    rw [List.cons_append, foldRuns, if_pos hd, takeWhile_append_ink hc, dropWhile_append_ink hc, ih,
      List.append_assoc]
  | case3 d t hd ih => rw [List.cons_append, foldRuns, if_neg hd, ih, List.cons_append]

/-! ## The folding of a comment -/

/-- A run on its own is folded as a whole. -/
theorem flush_eq (n : Nat) (out : Text) (hrun : ∀ c ∈ run, isSpace c = true) :
    flush n out run = out ++ foldRuns n run := by
  cases run with
  | nil => simp [flush, foldRuns]
  | cons c r =>
    obtain ⟨hc, hr⟩ := List.forall_mem_cons.1 hrun
    have hall : r.takeWhile isSpace = r := List.takeWhile_eq_self_iff.2 hr
    have hnone : r.dropWhile isSpace = [] := List.dropWhile_eq_nil_iff.2 hr
    rw [foldRuns, if_pos hc, hall, hnone, foldRuns, List.append_nil, flush, if_neg (by simp),
      foldRun, apply_ite (out ++ ·)]

/-- What a folding has still to write is the folding of the run behind it and of what follows. -/
theorem foldFrom_eq (n : Nat) (out : Text) (hrun : ∀ c ∈ run, isSpace c = true) (t : Text) :
    foldFrom n out run t = out ++ foldRuns n (run ++ t) := by
  induction t generalizing out run with
  | nil => rw [foldFrom, flush_eq n out hrun, List.append_nil]
  | cons c t ih =>
    by_cases hc : isSpace c = true
    · have hrun' : ∀ d ∈ run ++ [c], isSpace d = true := by grind
      rw [foldFrom, if_pos hc, ih out hrun', List.append_assoc, List.singleton_append]
    · have hempty : ∀ d ∈ ([] : Text), isSpace d = true := by simp
      rw [foldFrom, if_neg hc, ih _ hempty, flush_eq n out hrun,
        foldRuns_append_ink n (by simpa using hc)]
      simp

/-- Folding goes run by run. -/
theorem fold_eq_foldRuns (n : Nat) (t : Text) : fold n t = foldRuns n t := by
  rw [fold, foldFrom_eq n [] (by simp), List.nil_append, List.nil_append]

theorem foldBlock_eq_foldRuns (t : Text) : foldBlock t = foldRuns 1 (trim t) :=
  fold_eq_foldRuns 1 (trim t)

theorem foldLine_eq_foldRuns (t : Text) : foldLine t = foldRuns 2 (trim t) :=
  fold_eq_foldRuns 2 (trim t)

end CompactSql.Comment
