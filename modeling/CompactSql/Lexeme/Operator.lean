import CompactSql.Lexeme.Reading

/-!
# Operators

An operator is the longest run of operator characters, provided that something follows it, that no
comment begins inside it, and that it does not end in a sign without need: a run of two or more
characters may end in `+` or `-` only if it holds a symbol that is not arithmetic.

The reader takes one character after the other and keeps the last one that it took. The character
that the run begins with does not count as taken: what follows it has been looked at before.

## Main definitions

* `Operator.isRunChar`, `Operator.isNonArithmetic` — the characters of a run, and those that make a
  sign at its end acceptable.
* `Operator.beginsComment` — whether two characters are a mark with which a comment begins.
* `Operator.Run`, `Operator.collect` — a run, and the one that goes on with what has been taken.
* `Operator.Run.isAmbiguous` — whether a run ends in a sign without need.
* `Operator.read` — the reading of an operator.
-/

namespace CompactSql.Operator

/-- The characters that a run is made of. -/
def isRunChar (c : Char) : Bool :=
  c ∈ ['+', '-', '*', '/', '<', '>', '=', '~', '!', '@', '#', '%', '^', '&', '|', '\x60', '?']

/-- The symbols that are not used in arithmetic or comparison. -/
def isNonArithmetic (c : Char) : Bool :=
  c ∈ ['~', '!', '@', '#', '%', '^', '&', '|', '\x60', '?']

/-- Whether `c` makes the mark of a comment with the character before it, if there is one. -/
def beginsComment (last : Option Char) (c : Char) : Bool :=
  (c = '-' && last = some '-') || (c = '*' && last = some '/')

/-! ## Runs -/

/-- A run of operator characters at the place where it was given up or ended. -/
structure Run where
  /-- Whether a character stands behind the run that does not go on with it. -/
  terminated : Bool
  /-- The characters of the run. -/
  value : Text
  /-- The last of them, unless that is the first one. -/
  last : Option Char
  /-- What is left to be read. -/
  rest : Text
  deriving DecidableEq, Repr

/-- The run that goes on with `value`, of which `last` was taken last. It is given up at the second
character of a mark. -/
def collect (value : Text) (last : Option Char) : Text → Run
  | [] => ⟨false, value, last, []⟩
  | c :: t =>
    if beginsComment last c then ⟨false, value, last, t⟩
    else if isRunChar c then collect (value ++ [c]) (some c) t
    else ⟨true, value, last, c :: t⟩

/-- Whether a run ends in a sign without need. -/
def Run.isAmbiguous (run : Run) : Bool :=
  1 < run.value.length && (run.last == some '+' || run.last == some '-') &&
    !run.value.any isNonArithmetic

/-- Reads an operator that begins with `first`. -/
def read (first : Char) (t : Text) : Reading :=
  let run := collect [first] none t
  if !run.terminated then .dropped (.unterminatedOperator run.value) run.rest
  else if run.isAmbiguous then .dropped (.ambiguousOperator run.value) run.rest
  else .ofText .operator run.value run.rest

/-! ## What is left to be read -/

theorem suffix_collect (value : Text) (last : Option Char) (t : Text) :
    (collect value last t).rest <:+ t := by
  fun_induction collect value last t with
  | case1 | case4 => exact List.suffix_refl _
  | case2 => exact List.suffix_cons _ _
  | case3 _ _ c t _ _ ih => exact ih.trans (List.suffix_cons c t)

theorem suffix_read (first : Char) (t : Text) : (read first t).rest <:+ t := by
  have h := suffix_collect [first] none t
  simp only [read]
  repeat' split
  all_goals exact h

end CompactSql.Operator
