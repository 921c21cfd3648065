/-!
# Character classes

A property of characters that a standard gives by ranges of code points.

## Main definitions

* `CharClass` — the closed ranges of code points that make up a class.
* `CharClass.hasCode`, `CharClass.has` — membership of a code point, of a character.
-/

namespace CompactSql

/-- A class of characters, as closed ranges `(first, last)` of code points. -/
structure CharClass where
  /-- The ranges of the class. -/
  ranges : List (Nat × Nat)
  deriving Repr

namespace CharClass

/-- Whether the code point `n` lies in one of the ranges. -/
def hasCode (k : CharClass) (n : Nat) : Bool :=
  k.ranges.any fun r => r.1 ≤ n && n ≤ r.2

/-- Whether the character `c` belongs to the class. -/
def has (k : CharClass) (c : Char) : Bool := k.hasCode c.toNat

theorem hasCode_eq_true_iff {k : CharClass} {n : Nat} :
    k.hasCode n = true ↔ ∃ r ∈ k.ranges, r.1 ≤ n ∧ n ≤ r.2 := by
  simp [hasCode]

end CharClass

end CompactSql
