import CompactSql.Proofs.Scan.Tokens

/-!
# Operators

An operator is the longest run of operator characters, provided that something stands behind it,
that no comment begins inside it, and that it does not end in a sign without need. What becomes of
each run is said here without the reader.

## Main definitions

* `Operator.HoldsMark` — whether a comment begins somewhere in a run.
* `Operator.FirstMark` — the first place in a run where one begins.
* `Operator.EndsInNeedlessSign` — whether a run ends in a sign without need.
* `Operator.Reads` — the readings of a run, by what stands behind it.

## Main statements

* `commentIn_cases` — the place that the search finds is the first one.
* `reads_rule`, `Reads.unique` — every run has one reading.
* `operator_is_longest_run` — the readings for a step of the scan, and the operators of a statement.
-/

namespace CompactSql.Operator

variable {c : Char} {run before mark behind rest t : Text} {out : Reading}

/-! ## Comments inside a run -/

/-- The marks with which a comment begins. -/
def commentMarks : List Text := [['-', '-'], ['/', '*']]

/-- Whether a comment begins somewhere in a run. -/
def HoldsMark (run : Text) : Prop := ∃ mark ∈ commentMarks, mark <:+: run

/-- The run holds `mark` between `before` and `behind`, and no mark further to the front. -/
structure FirstMark (run before mark behind : Text) : Prop where
  mem : mark ∈ commentMarks
  append_eq : run = before ++ mark ++ behind
  first : ∀ b m r, m ∈ commentMarks → run = b ++ m ++ r → before.length ≤ b.length

theorem length_of_mem_commentMarks (h : mark ∈ commentMarks) : mark.length = 2 := by
  revert mark
  decide

theorem commentIn_mark_append (h : mark ∈ commentMarks) (r : Text) :
    commentIn (mark ++ r) = some (mark.take 1, r) := by
  simp only [commentMarks, List.mem_cons, List.not_mem_nil, or_false] at h
  rcases h with rfl | rfl <;> rfl

theorem commentIn_cons (h : ∀ mark ∈ commentMarks, ¬mark <+: c :: t) :
    commentIn (c :: t) = (commentIn t).map fun (b, r) => (c :: b, r) := by
  rw [commentIn.eq_3]
  · rintro r rfl rfl
    exact h ['-', '-'] (by decide) ⟨r, rfl⟩
  · rintro r rfl rfl
    exact h ['/', '*'] (by decide) ⟨r, rfl⟩

theorem FirstMark.holdsMark (h : FirstMark run before mark behind) : HoldsMark run :=
  ⟨mark, h.mem, before, behind, h.append_eq.symm⟩

theorem FirstMark.cons (h : FirstMark run before mark behind)
    (hfront : ∀ m ∈ commentMarks, ¬m <+: c :: run) :
    FirstMark (c :: run) (c :: before) mark behind := by
  refine ⟨h.mem, by simp [h.append_eq], fun b m r hm heq => ?_⟩
  cases b with
  | nil => exact absurd ⟨r, heq.symm⟩ (hfront m hm)
  | cons d b => exact Nat.succ_le_succ (h.first b m r hm (List.cons.inj heq).2)

/-- The first place is one place, and one mark stands there. -/
theorem FirstMark.unique {before' mark' behind' : Text} (h : FirstMark run before mark behind)
    (h' : FirstMark run before' mark' behind') :
    before = before' ∧ mark = mark' ∧ behind = behind' := by
  have hlen : before.length = before'.length :=
    Nat.le_antisymm (h.first _ _ _ h'.mem h'.append_eq) (h'.first _ _ _ h.mem h.append_eq)
  have heq : before ++ (mark ++ behind) = before' ++ (mark' ++ behind') := by
    simpa using h.append_eq.symm.trans h'.append_eq
  obtain ⟨hbefore, hrest⟩ := List.append_inj heq hlen
  have hmark : mark.length = mark'.length := by
    rw [length_of_mem_commentMarks h.mem, length_of_mem_commentMarks h'.mem]
  exact ⟨hbefore, List.append_inj hrest hmark⟩

/-- The search for a comment ends behind the first character of the first mark. -/
theorem commentIn_cases (run : Text) :
    (∃ before mark behind, FirstMark run before mark behind ∧
      commentIn run = some (before ++ mark.take 1, behind)) ∨
    ¬HoldsMark run ∧ commentIn run = none := by
  induction run with
  | nil => exact .inr ⟨by simp [HoldsMark, commentMarks], rfl⟩
  | cons c run ih =>
    by_cases hfront : ∃ mark ∈ commentMarks, mark <+: c :: run
    · obtain ⟨mark, hmark, behind, heq⟩ := hfront
      left
      refine ⟨[], mark, behind, ⟨hmark, heq.symm, fun _ _ _ _ _ => Nat.zero_le _⟩, ?_⟩
      rw [← heq, commentIn_mark_append hmark]
      rfl
    · push Not at hfront
      rw [commentIn_cons hfront]
      obtain ⟨before, mark, behind, hfirst, heq⟩ | ⟨hno, heq⟩ := ih
      · exact .inl ⟨c :: before, mark, behind, hfirst.cons hfront, by rw [heq]; rfl⟩
      · refine .inr ⟨?_, by rw [heq]; rfl⟩
        rintro ⟨mark, hmark, hinfix⟩
        obtain hstart | hinfix := List.infix_cons_iff.1 hinfix
        · exact hfront mark hmark hstart
        · exact hno ⟨mark, hmark, hinfix⟩

theorem not_holdsMark_of_commentIn (h : commentIn run = none) : ¬HoldsMark run := by
  obtain ⟨before, mark, behind, -, heq⟩ | ⟨hno, -⟩ := commentIn_cases run
  · cases h.symm.trans heq
  · exact hno

/-! ## Readings -/

/-- Whether a run ends in a sign without need: it has more than one character, the last of which is
`+` or `-`, and no symbol in it is foreign to arithmetic. -/
def EndsInNeedlessSign (run : Text) : Prop :=
  1 < run.length ∧ (run.getLast? = some '+' ∨ run.getLast? = some '-') ∧
    ∀ d ∈ run, d ∉ ['~', '!', '@', '#', '%', '^', '&', '|', '\x60', '?']

theorem isAmbiguous_iff : isAmbiguous run = true ↔ EndsInNeedlessSign run := by
  simp [isAmbiguous, EndsInNeedlessSign, isNonArithmetic, and_assoc]

/-- What is read of a run in front of `rest`. -/
inductive Reads (run rest : Text) : Reading → Prop where
  /-- A comment begins in the run, which is given up behind the mark. -/
  | comment {before mark behind : Text} (hfirst : FirstMark run before mark behind) :
    Reads run rest (.dropped (.unterminatedOperator (before ++ mark.take 1)) (behind ++ rest))
  /-- Nothing stands behind the run. -/
  | unfinished (hno : ¬HoldsMark run) (hrest : rest = []) :
    Reads run rest (.dropped (.unterminatedOperator run) [])
  | ambiguous (hno : ¬HoldsMark run) (hrest : rest ≠ []) (hsign : EndsInNeedlessSign run) :
    Reads run rest (.dropped (.ambiguousOperator run) rest)
  | token (hno : ¬HoldsMark run) (hrest : rest ≠ []) (hsign : ¬EndsInNeedlessSign run) :
    Reads run rest (.ofText .operator run rest)

/-- Every run is read in one of the ways. -/
theorem reads_rule (c : Char) (t : Text) :
    Reads (c :: t.takeWhile isRunChar) (t.dropWhile isRunChar) (rule c t) := by
  simp only [rule]
  obtain ⟨before, mark, behind, hfirst, heq⟩ | ⟨hno, heq⟩ := commentIn_cases _
  · rw [heq]
    exact .comment hfirst
  · rw [heq]
    simp only [List.isEmpty_iff]
    split
    · rename_i hrest
      rw [hrest]
      exact .unfinished hno rfl
    · rename_i hrest
      split
      · rename_i hsign
        exact .ambiguous hno hrest (isAmbiguous_iff.1 hsign)
      · rename_i hsign
        exact .token hno hrest fun h => hsign (isAmbiguous_iff.2 h)

/-- The ways exclude each other. -/
theorem Reads.unique {out' : Reading} (h : Reads run rest out) (h' : Reads run rest out') :
    out = out' := by
  cases h with
  | comment hfirst =>
    cases h' with
    | comment hfirst' =>
      obtain ⟨rfl, rfl, rfl⟩ := hfirst.unique hfirst'
      rfl
    | unfinished hno | ambiguous hno | token hno => exact absurd hfirst.holdsMark hno
  | unfinished hno hrest | ambiguous hno hrest hsign | token hno hrest hsign =>
    cases h' with
    | comment hfirst' => exact absurd hfirst'.holdsMark hno
    | unfinished | ambiguous | token => first | rfl | contradiction

/-! ## Steps and statements -/

/-- An operator is the longest run of its characters, unless a comment begins in the run, nothing
stands behind it, or it ends in a sign without need: then it is left out, in the first case up to
the mark of the comment. So no operator holds such a mark. -/
theorem operator_is_longest_run (ks : Keywords) :
    (∀ (c : Char) (t : Text), Form.ofChars c t.head? = .operator →
      ∃ run rest, Text.Longest (fun w => ∀ d ∈ w, isRunChar d = true) (c :: t) run rest ∧
        ∀ out, step ks c t = out ↔ Reads run rest out) ∧
    ∀ (t : Text), ∀ tok ∈ scan ks t, tok.kind = .operator → ¬HoldsMark tok.lexeme := by
  constructor
  · intro c t hform
    have hc : isRunChar c = true := by
      have hopens := Form.opens_ofChars c t.head?
      rw [hform] at hopens
      exact hopens.1
    have hstep : step ks c t = rule c t := by rw [step_eq_rule, hform, Form.rule]
    have hrun := Text.longest_run isRunChar (c :: t)
    rw [List.takeWhile_cons_of_pos hc, List.dropWhile_cons_of_pos hc] at hrun
    refine ⟨_, _, hrun, fun out => ?_⟩
    rw [hstep]
    constructor
    · rintro rfl
      exact reads_rule c t
    · exact (reads_rule c t).unique
  · intro t tok htok hk
    obtain ⟨c, w, rfl, -, hcomment⟩ := (lexical_of_mem_scan tok htok).exists_of_operator hk
    exact not_holdsMark_of_commentIn hcomment

/-- A run with a comment in it that begins behind its first character, and an operator with a sign
at its end. -/
theorem operator_is_longest_run_signs :
    Form.ofChars '+' "--1".toList.head? = .operator ∧
      (∃ run rest,
        Text.Longest (fun w => ∀ d ∈ w, isRunChar d = true) "+--1".toList run rest ∧
          ∀ out, step .empty '+' "--1".toList = out ↔ Reads run rest out) ∧
      .ofText .operator "@-".toList ∈ scan .empty "1@-2".toList ∧
      ¬HoldsMark (Token.ofText .operator "@-".toList).lexeme := by
  have hform : Form.ofChars '+' "--1".toList.head? = .operator := by decide
  have hmem : .ofText .operator "@-".toList ∈ scan .empty "1@-2".toList := by decide +kernel
  exact ⟨hform, (operator_is_longest_run .empty).1 '+' "--1".toList hform, hmem,
    (operator_is_longest_run .empty).2 _ _ hmem rfl⟩

end CompactSql.Operator
