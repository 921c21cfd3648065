import CompactSql.Lexeme.Reading
import CompactSql.Text.Letter

/-!
# Numeric constants

A numeric constant is made of digits with at most one dot among them, and perhaps an exponent: `e`,
a sign if there is one, and digits. A dot or a letter right behind it spoils the whole constant and
is left out with it.

The reader takes one character after the other and keeps whether a dot, a digit and the mark of an
exponent have been among them. Behind that mark it looks for the first digit at once.

## Main definitions

* `Number.collect` — the constant that goes on with what has been taken.
* `Number.conclude`, `Number.read` — the reading of a constant.
-/

namespace CompactSql.Number

/-- The constant that goes on with `value`, or nothing if it is spoiled, and what is left to be
read. -/
def collect (value : Text) (seenDot seenDigit seenExponent : Bool) : Text → Option Text × Text
  | [] => (some value, [])
  | c :: t =>
    if c.isDigit then collect (value ++ [c]) seenDot true seenExponent t
    else if c = '.' then
      if seenDot || seenExponent then (none, t)
      else collect (value ++ [c]) true seenDigit seenExponent t
    else if c = 'e' || c = 'E' then
      if seenExponent || !seenDigit then (none, t)
      else
        match t with
        | [] => (none, [])
        | d :: r =>
          if d.isDigit then collect (value ++ [c, d]) seenDot seenDigit true r
          else if d = '+' || d = '-' then
            if r.head?.any Char.isDigit then collect (value ++ [c, d]) seenDot seenDigit true r
            else (none, r)
          else (none, d :: r)
    else if isLetter c then (none, t)
    else (some value, c :: t)

/-- The reading of a constant that has been collected or spoiled. -/
def conclude : Option Text × Text → Reading
  | (some value, rest) => .ofText .numeric value rest
  | (none, rest) => .dropped .malformedNumber rest

/-- Reads a constant that begins with `first`, a digit or a dot before a digit. -/
def read (first : Char) (t : Text) : Reading :=
  conclude (collect [first] (first = '.') first.isDigit false t)

/-! ## What is left to be read -/

theorem suffix_collect (value : Text) (seenDot seenDigit seenExponent : Bool) (t : Text) :
    (collect value seenDot seenDigit seenExponent t).2 <:+ t := by
  fun_induction collect value seenDot seenDigit seenExponent t <;>
    grind [List.suffix_refl, List.suffix_cons, List.IsSuffix.trans]

theorem suffix_read (first : Char) (t : Text) : (read first t).rest <:+ t := by
  have h := suffix_collect [first] (first = '.') first.isDigit false t
  unfold read conclude
  split <;> rename_i heq <;> simpa [heq] using h

end CompactSql.Number
