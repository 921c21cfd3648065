import CompactSql.Text.Basic
import CompactSql.Text.Unseen

/-!
# Quoted text

How a message shows a character or a text that it speaks of: between quotes, on one line, and with
every character that could not be told apart from the others written as an escape.

## Main definitions

* `Text.escapeIn` — one character as it stands between quotes of a given kind.
* `Text.quoted` — a text between double quotes.
* `Text.quotedChar` — a character between single quotes.
-/

namespace CompactSql.Text

/-- The escape that names `c` by its code point: `\u` and the hexadecimal digits in braces. -/
def codePointEscape (c : Char) : Text :=
  ['\\', 'u', '\x7b'] ++ Nat.toDigits 16 c.toNat ++ ['\x7d']

/-- The character `c` as it is written between two `quote` characters. -/
def escapeIn (quote : Char) (c : Char) : Text :=
  if c = '\x00' then ['\\', '0']
  else if c = '\t' then ['\\', 't']
  else if c = '\n' then ['\\', 'n']
  else if c = '\r' then ['\\', 'r']
  else if c = '\\' || c = quote then ['\\', c]
  else if isUnseen c then codePointEscape c
  else [c]

/-- The text between double quotes. -/
def quoted (t : Text) : Text := '"' :: t.flatMap (escapeIn '"') ++ ['"']

/-- The character between single quotes. -/
def quotedChar (c : Char) : Text := '\'' :: escapeIn '\'' c ++ ['\'']

end CompactSql.Text
