import CompactSql.Lexeme.Reading
import CompactSql.Text.Letter

/-!
# Dollar-quoted strings

A dollar-quoted string begins with a delimiter, `$` followed by a tag and another `$`, and ends
where that delimiter stands again for the first time. The tag is empty, or a letter followed by
word characters; nothing inside the string is special.

The reader takes one character after the other. It collects the delimiter up to its second `$`, and
keeps from there on how far the characters last taken repeat it. At every `$` the comparison begins
anew.

## Main definitions

* `DollarQuotation.Search` — what has been taken, the delimiter, and how far it is repeated.
* `DollarQuotation.Search.breaksAt`, `DollarQuotation.Search.closesAt` — the characters that end the
  search.
* `DollarQuotation.Search.next` — the search behind any other character.
* `DollarQuotation.readFrom`, `DollarQuotation.read` — the reading of a dollar-quoted string.
-/

namespace CompactSql.DollarQuotation

/-! ## The search -/

/-- A search for the end of a string. -/
structure Search where
  /-- The characters that have been taken, the first `$` included. -/
  value : Text
  /-- The delimiter, as far as it has been collected. -/
  opening : Text
  /-- Whether the second `$` of the delimiter has been taken. -/
  opened : Bool
  /-- The place in the delimiter of the character last taken, if the characters from the last `$` on
  repeat the delimiter up to there. -/
  repeated : Option Nat
  deriving DecidableEq, Repr

namespace Search

/-- The search behind the first `$`. -/
def start : Search := ⟨['$'], ['$'], false, none⟩

/-- Whether the delimiter breaks off at `c`: no tag begins with it, or none goes on with it. -/
def breaksAt (s : Search) (c : Char) : Bool :=
  (s.value.length == 1 && !isLetter c && c != '$') || !(s.opened || isWordChar c)

/-- The search with `c` taken, before `c` is compared. -/
def push (s : Search) (c : Char) : Search :=
  { s with
    value := s.value ++ [c]
    opening := if s.opened then s.opening else s.opening ++ [c] }

/-- Whether the string ends with `c`: it is the `$` that was missing from a repetition of the
delimiter. -/
def closesAt (s : Search) (c : Char) : Bool :=
  c == '$' && (s.push c).repeated.any fun i => i + 2 == (s.push c).opening.length

/-- The search behind `c`. -/
def next (s : Search) (c : Char) : Search :=
  let taken := s.push c
  if c = '$' then
    if taken.opened then { taken with repeated := some 0 } else { taken with opened := true }
  else
    { taken with
      repeated := taken.repeated.bind fun i =>
        if taken.opening[i + 1]? = some c then some (i + 1) else none }

end Search

/-! ## Reading -/

/-- Goes on with a search. Where the string does not end, what was taken is left out, the character
at which the delimiter breaks off with it. -/
def readFrom (s : Search) : Text → Reading
  | [] => .dropped .unterminatedDollarQuote []
  | c :: t =>
    if s.breaksAt c then .dropped .unterminatedDollarQuote t
    else if s.closesAt c then .ofText .string (s.value ++ [c]) t
    else readFrom (s.next c) t

/-- Reads a dollar-quoted string whose first `$` has been passed. -/
def read (t : Text) : Reading := readFrom .start t

theorem suffix_readFrom (s : Search) (t : Text) : (readFrom s t).rest <:+ t := by
  fun_induction readFrom s t with
  | case1 => exact List.suffix_refl _
  | case2 | case3 => exact List.suffix_cons _ _
  | case4 s c t _ _ ih => exact ih.trans (List.suffix_cons c t)

theorem suffix_read (t : Text) : (read t).rest <:+ t := suffix_readFrom _ t

end CompactSql.DollarQuotation
