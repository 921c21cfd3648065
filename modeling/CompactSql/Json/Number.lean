import CompactSql.Json.Scalar

/-!
# Reading numbers

A number is an integer as long as it has no fraction and no exponent and fits into 64 bits; every
other number is a binary fraction. Digits that do not fit into 64 bits any more only count for the
size of the number. Minus zero is a binary fraction too.

## Main definitions

* `Json.absorb` — digits that are added to a number while it stays below a limit.
* `Json.readExponent`, `Json.readFraction` — what may follow the digits of an integer.
* `Json.readNumber` — reads a number.
-/

namespace CompactSql.Json

/-- The greatest integer of 64 bits. -/
def maxInteger : Nat := 0xFFFFFFFFFFFFFFFF

/-- The greatest magnitude of a negative integer of 64 bits. -/
def maxNegative : Nat := 0x8000000000000000

/-- The greatest exponent. -/
def maxExponent : Nat := 0x7FFFFFFF

/-- The number `n` with digits added to it as long as it does not exceed `limit`, and the digits
that were not added. -/
def absorb (limit n : Nat) : Text → Nat × Text
  | [] => (n, [])
  | c :: t =>
    let next := 10 * n + (c.toNat - '0'.toNat)
    if next ≤ limit then absorb limit next t else (n, c :: t)

/-- The binary fraction nearest to `n * 10 ^ k`, with `rest` still to be read. -/
def scaled (negative : Bool) (n : Nat) (k : Int) (rest : Text) : Result Found :=
  match (Binary64.ofRatio n 1).bind (·.scaleByTen k) with
  | some x => .ok (.float negative x, rest)
  | none => .error (.before .numberTooLarge rest)

/-- Reads the exponent of the number `n * 10 ^ k`, whose mark has been passed. -/
def readExponent (negative : Bool) (n : Nat) (k : Int) (t : Text) : Result Found :=
  let (down, t) := match t with
    | '+' :: r => (false, r)
    | '-' :: r => (true, r)
    | r => (false, r)
  let behind := t.dropWhile Char.isDigit
  match t.takeWhile Char.isDigit with
  | [] => .error (if t.isEmpty then .before .endInValue [] else .atFirst .invalidNumber t)
  | d :: ds =>
    match absorb maxExponent 0 (d :: ds) with
    | (e, []) => scaled negative n (if down then k - e else k + e) behind
    | (_, _ :: unread) =>
      if n ≠ 0 && !down then .error (.before .numberTooLarge (unread ++ behind))
      else .ok (.float negative .zero, behind)

/-- Reads what follows the digits of the number `n * 10 ^ k`, unless it is an integer. -/
def readScale (negative : Bool) (n : Nat) (k : Int) : Text → Result Found
  | [] => scaled negative n k []
  | c :: t =>
    if c = 'e' || c = 'E' then readExponent negative n k t else scaled negative n k (c :: t)

/-- Reads the fraction of the number `n * 10 ^ k`, whose point has been passed. -/
def readFraction (negative : Bool) (n : Nat) (k : Int) (t : Text) : Result Found :=
  match t.takeWhile Char.isDigit with
  | [] => .error (if t.isEmpty then .before .endInValue [] else .atFirst .invalidNumber t)
  | d :: ds =>
    let (n', unread) := absorb maxInteger n (d :: ds)
    let places : Nat := (d :: ds).length - unread.length
    readScale negative n' (k - places) (t.dropWhile Char.isDigit)

/-- The integer `n`, with `rest` still to be read. -/
def integer (negative : Bool) (n : Nat) (rest : Text) : Result Found :=
  if !negative then .ok (.integer n, rest)
  else if n = 0 || maxNegative < n then scaled true n 0 rest
  else .ok (.integer (-n), rest)

/-- Reads what follows the digits of an integer: `n` is the value of those that fit, and `unread`
the number of those that do not. -/
def readBehindDigits (negative : Bool) (n unread : Nat) (t : Text) : Result Found :=
  if t.head? = some '.' then readFraction negative n unread (t.drop 1)
  else if unread ≠ 0 || t.head? = some 'e' || t.head? = some 'E' then
    readScale negative n unread t
  else integer negative n t

/-- Reads a number behind its sign. -/
def readMagnitude (negative : Bool) : Text → Result Found
  | [] => .error (.before .endInValue [])
  | '0' :: t =>
    if t.head?.any Char.isDigit then .error (.atFirst .invalidNumber t)
    else readBehindDigits negative 0 0 t
  | t =>
    match t.takeWhile Char.isDigit with
    | [] => .error (.atFirst .invalidNumber t)
    | d :: ds =>
      let (n, unread) := absorb maxInteger 0 (d :: ds)
      readBehindDigits negative n unread.length (t.dropWhile Char.isDigit)

/-- Reads a number. -/
def readNumber : Text → Result Found
  | '-' :: t => readMagnitude true t
  | t => readMagnitude false t

end CompactSql.Json
