import CompactSql.Keywords
import CompactSql.Lexeme.Reading
import CompactSql.Text.Letter

/-!
# Words and parameters

A word begins with a letter or `_` and goes on with word characters. It is a keyword if the keyword
set holds it, and an identifier otherwise; its text keeps the case in which it was written.

## Main definitions

* `beginsWord` — whether a character begins a word.
* `readWord` — the reading of a word.
* `readParameter` — the reading of a positional parameter.
-/

namespace CompactSql

/-- Whether a word begins with `c`. -/
def beginsWord (c : Char) : Bool := isLetter c || c == '_'

/-- The kind of a word with respect to a keyword set. -/
def wordKind (ks : Keywords) (w : Text) : Kind :=
  if ks.contains w then .keyword else .identifier

/-- Reads a word that begins with `first`. -/
def readWord (ks : Keywords) (first : Char) (t : Text) : Reading :=
  let w := first :: t.takeWhile isWordChar
  .ofText (wordKind ks w) w (t.dropWhile isWordChar)

/-- Reads a parameter whose `$` has been passed. -/
def readParameter (t : Text) : Reading :=
  .ofText .parameter ('$' :: t.takeWhile Char.isDigit) (t.dropWhile Char.isDigit)

theorem suffix_readWord (ks : Keywords) (first : Char) (t : Text) :
    (readWord ks first t).rest <:+ t := List.dropWhile_suffix _

theorem suffix_readParameter (t : Text) : (readParameter t).rest <:+ t := List.dropWhile_suffix _

end CompactSql
