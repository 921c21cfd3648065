/-!
# Binary floating point

The non-negative finite numbers of the binary format with 53 bits of precision, and rounding to
them. All arithmetic is exact until the one rounding at its end.

## Main definitions

* `Binary64` — a number of the format, as a multiple of a power of two.
* `Binary64.ofRatio` — the nearest number to a fraction, of two the even one.
* `Binary64.mul`, `Binary64.div` — products and quotients, rounded.
* `Binary64.scaleByTen` — a number times a power of ten, where the power is itself rounded first.
-/

namespace CompactSql

/-- The number `significand * 2 ^ exponent`. -/
structure Binary64 where
  significand : Nat
  exponent : Int
  deriving DecidableEq, Repr

namespace Binary64

/-- The quotient of two natural numbers, rounded to the nearest one, a half to the even one. -/
def roundQuotient (num den : Nat) : Nat :=
  let q := num / den
  let r := num % den
  if 2 * r < den then q
  else if den < 2 * r then q + 1
  else if q % 2 = 0 then q else q + 1

/-- The fraction `num / den * 2 ^ e`, as a numerator and a denominator. -/
def shifted (num den : Nat) (e : Int) : Nat × Nat :=
  if 0 ≤ e then (num <<< e.toNat, den) else (num, den <<< (-e).toNat)

/-- Zero. -/
def zero : Binary64 := ⟨0, 0⟩

/-- The least significand with all the bits of the precision. -/
def fullPrecision : Nat := 0x10000000000000

/-- The least exponent of the format. -/
def minExponent : Int := -1074

/-- The greatest exponent of the format. -/
def maxExponent : Int := 971

/-- The number nearest to `num / den`, unless that is too large for the format. -/
def ofRatio (num den : Nat) : Option Binary64 :=
  if num = 0 then some zero
  else
    let magnitude : Int := (num.log2 : Int) - (den.log2 : Int)
    let (n, d) := shifted num den (-magnitude)
    let e := max minExponent (if d ≤ n then magnitude - 52 else magnitude - 53)
    let (n, d) := shifted num den (-e)
    let s := roundQuotient n d
    let x : Binary64 := if s = 2 * fullPrecision then ⟨fullPrecision, e + 1⟩ else ⟨s, e⟩
    if maxExponent < x.exponent then none else some x

/-- The nearest number to a product. -/
def mul (x y : Binary64) : Option Binary64 :=
  let (n, d) := shifted (x.significand * y.significand) 1 (x.exponent + y.exponent)
  ofRatio n d

/-- The nearest number to a quotient. -/
def div (x y : Binary64) : Option Binary64 :=
  let (n, d) := shifted x.significand y.significand (x.exponent - y.exponent)
  ofRatio n d

/-- The nearest number to a power of ten. -/
def powerOfTen (k : Nat) : Option Binary64 := ofRatio (Nat.pow 10 k) 1

/-- The number divided `times` times by the greatest power of ten of the format, or until nothing is
left of it. -/
def shrink : Nat → Binary64 → Option Binary64
  | 0, x => some x
  | times + 1, x =>
    if x.significand = 0 then some x
    else ((powerOfTen 308).bind x.div).bind (shrink times)

/-- The number times `10 ^ k`, unless that is too large. One multiplication or division by a rounded
power of ten does it, after divisions by the greatest such power where `k` is very small. -/
def scaleByTen (x : Binary64) (k : Int) : Option Binary64 :=
  if x.significand = 0 then some zero
  else if 0 ≤ k then
    if k ≤ 308 then (powerOfTen k.toNat).bind x.mul else none
  else
    let times := ((-k).toNat - 1) / 308
    (shrink times x).bind fun y =>
      if y.significand = 0 then some zero
      else (powerOfTen ((-k).toNat - 308 * times)).bind y.div

end Binary64

end CompactSql
