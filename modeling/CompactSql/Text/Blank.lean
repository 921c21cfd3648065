import CompactSql.Text.Basic
import CompactSql.Text.CharClass

/-!
# Blanks

A blank is a character of the Unicode property `White_Space`. Blanks part the words of a word list,
and a text of blanks only holds no word.

## Main definitions

* `blanks`, `isBlank` — the class of the blanks.
* `Text.words` — the maximal pieces of a text that hold no blank.
* `Text.allBlank` — whether a text holds blanks only.
-/

namespace CompactSql

/-- The characters of the property `White_Space`. -/
def blanks : CharClass := .mk [
    (0x9, 0xD), (0x20, 0x20), (0x85, 0x85), (0xA0, 0xA0), (0x1680, 0x1680), (0x2000, 0x200A),
    (0x2028, 0x2029), (0x202F, 0x202F), (0x205F, 0x205F), (0x3000, 0x3000)
  ]

/-- Whether `c` is a blank. -/
def isBlank (c : Char) : Bool := blanks.has c

namespace Text

/-- Whether the text holds blanks only. -/
def allBlank (t : Text) : Bool := t.all isBlank

/-- The pieces of a text between its blanks, with an empty piece wherever two blanks meet. -/
def fields : Text → List Text
  | [] => [[]]
  | c :: cs =>
    if isBlank c then [] :: fields cs
    else
      match fields cs with
      | [] => [[c]]
      | field :: others => (c :: field) :: others

/-- The words of a text: its maximal pieces without a blank. -/
def words (t : Text) : List Text := (fields t).filter (!·.isEmpty)

end Text

end CompactSql
