import CompactSql.Numeric.Binary64
import CompactSql.Text.Basic

/-!
# The shortest decimal

A number of the binary format is written with the fewest digits that round to it, and of these with
the ones nearest to it, of two the even one.

## Main definitions

* `Binary64.roundsTo` — whether a decimal is nearer to a number than to its neighbours.
* `Binary64.shortest` — the fewest digits that do.
* `Binary64.text` — the number as it is written, with a point or with an exponent.
-/

namespace CompactSql.Binary64

/-! ## Digits -/

/-- The decimal `d * 10 ^ k`, as a numerator and a denominator. -/
def decimal (d : Nat) (k : Int) : Nat × Nat :=
  if 0 ≤ k then (d * Nat.pow 10 k.toNat, 1) else (d, Nat.pow 10 (-k).toNat)

/-- The bounds between which everything rounds to the number, in quarters of its last place. Below a
power of two the numbers lie twice as close. -/
def bounds (x : Binary64) : Nat × Nat :=
  let s := 4 * x.significand
  (if x.significand = fullPrecision && minExponent < x.exponent then s - 1 else s - 2, s + 2)

/-- Whether `d * 10 ^ k` rounds to the number. The bounds themselves do if it is even. -/
def roundsTo (x : Binary64) (d : Nat) (k : Int) : Bool :=
  let (low, high) := x.bounds
  let (dn, dd) := decimal d k
  let (n, u) := shifted 1 1 (x.exponent - 2)
  let even := x.significand % 2 = 0
  let above := low * n * dd < dn * u || (even && low * n * dd = dn * u)
  let below := dn * u < high * n * dd || (even && dn * u = high * n * dd)
  above && below

/-- The exponent of the first digit of the number in decimal. -/
def leadingExponent (x : Binary64) : Int :=
  let (n, d) := shifted x.significand 1 x.exponent
  let places : Nat := 400
  ((Nat.toDigits 10 (n * Nat.pow 10 places / d)).length : Int) - 1 - places

/-- The best decimal with `count` digits, if one rounds to the number. -/
def withDigits (x : Binary64) (count : Nat) : Option (Nat × Int) :=
  let k := x.leadingExponent + 1 - count
  let (n, d) := shifted x.significand 1 x.exponent
  let (p, u) := decimal 1 k
  let (n, d) := (n * u, d * p)
  let nearest := roundQuotient n d
  let other := if nearest = n / d then nearest + 1 else n / d
  if x.roundsTo nearest k then some (nearest, k)
  else if x.roundsTo other k then some (other, k)
  else none

/-- A decimal without zeros at its end. -/
def dropZeros (d : Nat) (k : Int) : Nat × Int :=
  if h : 0 < d ∧ d % 10 = 0 then dropZeros (d / 10) (k + 1) else (d, k)
termination_by d
decreasing_by exact Nat.div_lt_self h.1 (by decide)

/-- The digits of the number and the exponent of the last of them. Seventeen digits are always
enough. -/
def shortest (x : Binary64) : Nat × Int :=
  match ((List.range 17).map (· + 1)).findSome? x.withDigits with
  | some (d, k) => dropZeros d k
  | none => (0, 0)

/-! ## Text -/

/-- An integer with its sign, which is written if it is positive too. -/
def signedText (i : Int) : Text :=
  (if i < 0 then '-' else '+') :: Nat.toDigits 10 i.natAbs

/-- The number as it is written: with a point, if the first digit stands no further than sixteen
places before it or five behind it, and otherwise with an exponent. -/
def text (x : Binary64) : Text :=
  if x.significand = 0 then ['0', '.', '0']
  else
    let (d, k) := x.shortest
    let digits := Nat.toDigits 10 d
    let point := digits.length + k
    if 0 ≤ k && point ≤ 16 then digits ++ List.replicate k.toNat '0' ++ ['.', '0']
    else if 0 < point && point ≤ 16 then
      digits.take point.toNat ++ '.' :: digits.drop point.toNat
    else if -5 < point && point ≤ 0 then
      ['0', '.'] ++ List.replicate (-point).toNat '0' ++ digits
    else
      let fraction := if digits.length = 1 then [] else '.' :: digits.drop 1
      digits.take 1 ++ fraction ++ 'e' :: signedText (point - 1)

end CompactSql.Binary64
