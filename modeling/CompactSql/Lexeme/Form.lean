import CompactSql.Lexeme.Operator
import CompactSql.Lexeme.Quotation
import CompactSql.Lexeme.Word

/-!
# The forms of lexemes

The form of a lexeme is decided by its first character and the one behind it.

## Main definitions

* `Form`, `Form.ofChars` — the forms of lexemes, and the one that begins at a place.
* `Form.Opens` — the first character of a lexeme of a form, and the one behind it.

`opens_ofChars` says that the characters at a place are those of the form that is found there. A
reader of the form may rely on them.
-/

namespace CompactSql

/-! ## Forms -/

/-- What begins at a place. -/
inductive Form where
  | blank
  | bare (k : Kind)
  | double (k : Kind)
  | quotedIdentifier
  | string
  | parameter
  | dollarQuoted
  | lineComment
  | blockComment
  | operator
  | number
  | bitString (form : BitForm)
  | escapeString
  | unicodeLead
  | word
  | unexpected
  deriving DecidableEq, Repr

namespace Form

/-- The form that begins with a dot. -/
def ofDot (next? : Option Char) : Form :=
  if next?.any Char.isDigit then number
  else if next? = some '.' then double .doubleDot
  else bare .dot

/-- The form that begins with a letter, `_` or a character that begins nothing. -/
def ofWordChar (c : Char) (next? : Option Char) : Form :=
  if (c = 'b' || c = 'B') && next? = some '\'' then bitString .binary
  else if (c = 'x' || c = 'X') && next? = some '\'' then bitString .hexadecimal
  else if (c = 'e' || c = 'E') && next? = some '\'' then escapeString
  else if (c = 'u' || c = 'U') && next? = some '&' then unicodeLead
  else if beginsWord c then word
  else unexpected

/-- The form that begins with `c`, where `next?` is the character behind it. -/
def ofChars (c : Char) (next? : Option Char) : Form :=
  if c = ' ' || c = '\t' || c = '\n' then blank
  else if c = '(' then bare .leftParen
  else if c = ')' then bare .rightParen
  else if c = '[' then bare .leftBracket
  else if c = ']' then bare .rightBracket
  else if c = ',' then bare .comma
  else if c = ';' then bare .semicolon
  else if c = '"' then quotedIdentifier
  else if c = '\'' then string
  else if c = '$' then if next?.any Char.isDigit then parameter else dollarQuoted
  else if c = '-' && next? = some '-' then lineComment
  else if c = '/' && next? = some '*' then blockComment
  else if Operator.isRunChar c then operator
  else if c.isDigit then number
  else if c = '.' then ofDot next?
  else if c = ':' then if next? = some ':' then double .doubleColon else bare .colon
  else ofWordChar c next?

/-! ## How each form begins -/

/-- Whether a lexeme of the form begins with `c`, where `next?` is the character behind it. A word
is what begins with a letter or `_` unless that is the mark of a literal. -/
def Opens (c : Char) (next? : Option Char) : Form → Prop
  | blank => c = ' ' ∨ c = '\t' ∨ c = '\n'
  | bare k =>
    k.isBare = true ∧ k.mark? = some [c] ∧
      (k = .dot → next?.any Char.isDigit = false ∧ next? ≠ some '.') ∧
      (k = .colon → next? ≠ some ':')
  | double k => (k = .doubleDot ∧ c = '.' ∨ k = .doubleColon ∧ c = ':') ∧ next? = some c
  | quotedIdentifier => c = '"'
  | string => c = '\''
  | parameter => c = '$' ∧ next?.any Char.isDigit = true
  | dollarQuoted => c = '$' ∧ next?.any Char.isDigit = false
  | lineComment => c = '-' ∧ next? = some '-'
  | blockComment => c = '/' ∧ next? = some '*'
  | operator =>
    Operator.isRunChar c = true ∧ ¬(c = '-' ∧ next? = some '-') ∧ ¬(c = '/' ∧ next? = some '*')
  | number => c.isDigit = true ∨ c = '.' ∧ next?.any Char.isDigit = true
  | bitString .binary => (c = 'b' ∨ c = 'B') ∧ next? = some '\''
  | bitString .hexadecimal => (c = 'x' ∨ c = 'X') ∧ next? = some '\''
  | escapeString => (c = 'e' ∨ c = 'E') ∧ next? = some '\''
  | unicodeLead => (c = 'u' ∨ c = 'U') ∧ next? = some '&'
  | word =>
    beginsWord c = true ∧
      ¬((c = 'b' ∨ c = 'B' ∨ c = 'x' ∨ c = 'X' ∨ c = 'e' ∨ c = 'E') ∧ next? = some '\'') ∧
      ¬((c = 'u' ∨ c = 'U') ∧ next? = some '&')
  | unexpected => beginsWord c = false

theorem next_of_opens_bitString {form : BitForm} {c : Char} {next? : Option Char}
    (h : (bitString form).Opens c next?) : next? = some '\'' := by
  cases form <;> exact h.2

theorem opens_ofWordChar (c : Char) (next? : Option Char) : (ofWordChar c next?).Opens c next? := by
  fun_cases ofWordChar c next? <;> grind [Opens]

theorem opens_ofChars (c : Char) (next? : Option Char) : (ofChars c next?).Opens c next? := by
  have hw := opens_ofWordChar c next?
  fun_cases ofChars c next? <;> grind [Opens, ofDot, Kind.isBare, Kind.mark?]

end Form

end CompactSql
