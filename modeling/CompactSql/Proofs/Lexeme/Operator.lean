import CompactSql.Lexeme.Operator
import CompactSql.Proofs.Text.Cut

/-!
# Operators, by their whole run

The reader of operators takes a run character by character. Here the run is taken as a whole and
looked into afterwards: the first mark of a comment in it, what stands behind it, the sign at its
end. Both are the same where the run does not begin with a mark, because the reader does not compare
the first character of a run with the second one.

## Main definitions

* `Operator.commentIn` — the place inside a run where a comment begins.
* `Operator.isAmbiguous` — whether a run ends in a sign without need.
* `Operator.rule` — the reading of an operator by its whole run.

## Main statements

* `commentIn_append_mark`, `commentIn_concat` — a run of which one more character is taken.
* `commentIn_eq_some_iff` — what the search for a mark finds.
* `collect_eq` — the run that the reader finds, at any character behind the first one.
* `read_eq_rule` — the reading of an operator.
-/

namespace CompactSql.Operator

variable {c d : Char} {t value : Text}

/-! ## The rule -/

/-- The run up to and with the first character of the first `--` or `/*` in it, and what follows
that pair. -/
def commentIn : Text → Option (Text × Text)
  | '-' :: '-' :: r => some (['-'], r)
  | '/' :: '*' :: r => some (['/'], r)
  | c :: r => (commentIn r).map fun (before, behind) => (c :: before, behind)
  | [] => none

/-- Whether a run ends in a sign without need. -/
def isAmbiguous (run : Text) : Bool :=
  1 < run.length && (run.getLast? == some '+' || run.getLast? == some '-') &&
    !run.any isNonArithmetic

/-- The reading of an operator that begins with `first`, by its whole run. -/
def rule (first : Char) (t : Text) : Reading :=
  let run := first :: t.takeWhile isRunChar
  let behind := t.dropWhile isRunChar
  match commentIn run with
  | some (before, r) => .dropped (.unterminatedOperator before) (r ++ behind)
  | none =>
    if behind.isEmpty then .dropped (.unterminatedOperator run) behind
    else if isAmbiguous run then .dropped (.ambiguousOperator run) behind
    else .ofText .operator run behind

/-! ## Marks in a run -/

theorem commentIn_singleton (c : Char) : commentIn [c] = none := by
  simp [commentIn]

theorem commentIn_cons_cons (c d : Char) (t : Text) :
    commentIn (c :: d :: t) =
      if beginsComment (some c) d then some ([c], t)
      else (commentIn (d :: t)).map fun (before, behind) => (c :: before, behind) := by
  split
  · rename_i h
    obtain ⟨rfl, rfl⟩ | ⟨rfl, rfl⟩ : d = '-' ∧ c = '-' ∨ d = '*' ∧ c = '/' := by
      simpa [beginsComment] using h
    · rfl
    · rfl
  · rename_i h
    rw [commentIn.eq_3]
    · rintro r rfl hr
      cases hr
      exact h rfl
    · rintro r rfl hr
      cases hr
      exact h rfl

/-- A run of two characters or more holds no mark if it does not begin with one and none follows. -/
theorem commentIn_cons_cons_eq_none_iff :
    commentIn (c :: d :: t) = none ↔
      beginsComment (some c) d = false ∧ commentIn (d :: t) = none := by
  rw [commentIn_cons_cons]
  split <;> simp_all

/-- What stands before a character that makes a mark with the last one of a run is that run. -/
theorem commentIn_append_mark (hno : commentIn value = none)
    (hc : beginsComment value.getLast? c = true) (t : Text) :
    commentIn (value ++ c :: t) = some (value, t) := by
  induction value with
  | nil => simp [beginsComment] at hc
  | cons a value ih =>
    cases value with
    | nil =>
      rw [List.getLast?_singleton] at hc
      rw [List.singleton_append, commentIn_cons_cons, if_pos hc]
    | cons b value =>
      obtain ⟨hfront, hrest⟩ := commentIn_cons_cons_eq_none_iff.1 hno
      rw [List.getLast?_cons_cons] at hc
      rw [List.cons_append, List.cons_append, commentIn_cons_cons, if_neg (by simp [hfront]),
        ← List.cons_append, ih hrest hc]
      rfl

/-- What the search finds is the longest beginning of a run without a mark, and a character that
makes one with the last of it. -/
theorem commentIn_eq_some_iff {run before behind : Text} :
    commentIn run = some (before, behind) ↔
      ∃ c, run = before ++ c :: behind ∧ commentIn before = none ∧
        beginsComment before.getLast? c = true := by
  constructor
  · intro h
    induction run generalizing before with
    | nil => cases h
    | cons a run ih =>
      cases run with
      | nil => cases (commentIn_singleton a).symm.trans h
      | cons b run =>
        rw [commentIn_cons_cons] at h
        split at h
        · rename_i hmark
          cases h
          exact ⟨b, rfl, commentIn_singleton a, hmark⟩
        · rename_i hmark
          obtain ⟨before, hbefore, rfl⟩ := Text.exists_of_map_before h
          obtain ⟨c, hrun, hno, hc⟩ := ih hbefore
          cases before with
          | nil => simp [beginsComment] at hc
          | cons d before =>
            obtain ⟨rfl, rfl⟩ := List.cons.inj hrun
            exact ⟨c, rfl, commentIn_cons_cons_eq_none_iff.2 ⟨by simpa using hmark, hno⟩,
              by rwa [List.getLast?_cons_cons]⟩
  · rintro ⟨c, rfl, hno, hc⟩
    exact commentIn_append_mark hno hc behind

/-- Two characters at least lie before what follows a comment's beginning. -/
theorem exists_of_commentIn {run before behind : Text} (h : commentIn run = some (before, behind)) :
    ∃ a w c, before = a :: w ∧ run = a :: w ++ c :: behind := by
  obtain ⟨c, rfl, -, hc⟩ := commentIn_eq_some_iff.1 h
  cases before with
  | nil => simp [beginsComment] at hc
  | cons a w => exact ⟨a, w, c, rfl, rfl⟩

/-- Any other character may be taken. -/
theorem commentIn_concat (hno : commentIn value = none)
    (hc : beginsComment value.getLast? c = false) : commentIn (value ++ [c]) = none := by
  induction value with
  | nil => exact commentIn_singleton c
  | cons a value ih =>
    cases value with
    | nil => exact commentIn_cons_cons_eq_none_iff.2 ⟨hc, commentIn_singleton c⟩
    | cons b value =>
      obtain ⟨hfront, hrest⟩ := commentIn_cons_cons_eq_none_iff.1 hno
      rw [List.getLast?_cons_cons] at hc
      exact commentIn_cons_cons_eq_none_iff.2 ⟨hfront, ih hrest hc⟩

/-! ## The reader -/

/-- Both characters of a mark belong to a run. -/
theorem isRunChar_of_beginsComment {last : Option Char} (h : beginsComment last c = true) :
    isRunChar c = true := by
  obtain ⟨rfl, -⟩ | ⟨rfl, -⟩ : c = '-' ∧ last = some '-' ∨ c = '*' ∧ last = some '/' := by
    simpa [beginsComment] using h
  · decide
  · decide

/-- The run that the reader finds behind `value` is the whole one, or its part in front of the first
mark. The characters that it has taken are a run without a mark, and `last` is the last of them. -/
theorem collect_eq (hno : commentIn value = none) (t : Text) :
    collect value value.getLast? t =
      match commentIn (value ++ t.takeWhile isRunChar) with
      | some (before, r) => ⟨false, before, before.getLast?, r ++ t.dropWhile isRunChar⟩
      | none =>
        ⟨!(t.dropWhile isRunChar).isEmpty, value ++ t.takeWhile isRunChar,
          (value ++ t.takeWhile isRunChar).getLast?, t.dropWhile isRunChar⟩ := by
  induction t generalizing value with
  | nil => simp [collect, hno]
  | cons c t ih =>
    rw [collect]
    by_cases hmark : beginsComment value.getLast? c = true
    · have hc := isRunChar_of_beginsComment hmark
      simp only [if_pos hmark, List.takeWhile_cons_of_pos hc, List.dropWhile_cons_of_pos hc,
        commentIn_append_mark hno hmark]
      rw [List.takeWhile_append_dropWhile]
    · rw [if_neg hmark]
      by_cases hc : isRunChar c = true
      · have htaken := ih (commentIn_concat hno (by simpa using hmark))
        rw [List.getLast?_concat, List.append_assoc, List.singleton_append] at htaken
        rw [if_pos hc, htaken, List.takeWhile_cons_of_pos hc, List.dropWhile_cons_of_pos hc]
      · simp [if_neg hc, List.takeWhile_cons_of_neg hc, List.dropWhile_cons_of_neg hc, hno]

/-- An operator is read by its whole run where that does not begin with a mark. -/
theorem read_eq_rule (h : ∀ d ∈ t.head?, beginsComment (some c) d = false) :
    read c t = rule c t := by
  cases t with
  | nil => simp [read, rule, collect, commentIn_singleton]
  | cons d t =>
    have hfirst : beginsComment none d = false := by simp [beginsComment]
    by_cases hd : isRunChar d = true
    · have hno : commentIn [c, d] = none :=
        commentIn_cons_cons_eq_none_iff.2 ⟨h d rfl, commentIn_singleton d⟩
      -- From its second character on a run is compared whole.
      have hrun : collect [c] none (d :: t) = collect [c, d] [c, d].getLast? t := by
        simp [collect, hfirst, hd]
      simp only [read, rule, hrun, collect_eq hno, List.takeWhile_cons_of_pos hd,
        List.dropWhile_cons_of_pos hd, List.cons_append, List.nil_append]
      split
      · rfl
      · simp [Run.isAmbiguous, isAmbiguous]
    · simp [read, rule, collect, hfirst, hd, commentIn_singleton, Run.isAmbiguous, isAmbiguous]

/-- Where the two first characters of a run are a mark, the reader does not see it. -/
example : read '-' "-~ 1".toList = .ofText .operator "--~".toList " 1".toList ∧
    rule '-' "-~ 1".toList = .dropped (.unterminatedOperator ['-']) "~ 1".toList := by decide

end CompactSql.Operator
