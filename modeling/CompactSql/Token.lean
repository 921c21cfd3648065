import CompactSql.Text.Basic

/-!
# Tokens

A statement is a sequence of tokens. A token has a kind and, unless it is one of the punctuation
characters, the text that was read for it.

## Main definitions

* `Kind` — what a token is.
* `Kind.mark?` — the one way in which a punctuation kind is written.
* `Kind.code`, `Kind.name`, `Kind.ofName?` — the short and the long name of a kind.
* `Token`, `Token.lexeme` — a token, and the text that stands for it in a statement.
-/

namespace CompactSql

/-! ## Kinds -/

/-- What a token is. `unknown` is the kind of no token: it stands before the first one. -/
inductive Kind where
  | unknown
  | leftParen
  | rightParen
  | leftBracket
  | rightBracket
  | comma
  | semicolon
  | dot
  | doubleDot
  | colon
  | doubleColon
  | keyword
  | identifier
  | quotedIdentifier
  | string
  | numeric
  | parameter
  | binaryBitString
  | hexBitString
  | operator
  | comment
  deriving DecidableEq, Repr, Inhabited

namespace Kind

/-- Every kind, in the order of the declaration. -/
def all : List Kind := [
  unknown, leftParen, rightParen, leftBracket, rightBracket, comma, semicolon, dot, doubleDot,
  colon, doubleColon, keyword, identifier, quotedIdentifier, string, numeric, parameter,
  binaryBitString, hexBitString, operator, comment]

theorem mem_all (k : Kind) : k ∈ all := by cases k <;> decide

/-- How a punctuation kind is written; the other kinds have no fixed text. -/
def mark? : Kind → Option Text
  | leftParen => some ['(']
  | rightParen => some [')']
  | leftBracket => some ['[']
  | rightBracket => some [']']
  | comma => some [',']
  | semicolon => some [';']
  | dot => some ['.']
  | doubleDot => some ['.', '.']
  | colon => some [':']
  | doubleColon => some [':', ':']
  | _ => none

/-- The code of a kind in a token listing: punctuation stands for itself, a class of lexemes has
one character, and `unknown` has none. -/
def code : Kind → Text
  | unknown => []
  | leftParen => ['(']
  | rightParen => [')']
  | leftBracket => ['[']
  | rightBracket => [']']
  | comma => [',']
  | semicolon => [';']
  | dot => ['.']
  | doubleDot => ['.', '.']
  | colon => [':']
  | doubleColon => [':', ':']
  | keyword => ['k']
  | identifier => ['i']
  | quotedIdentifier => ['"']
  | string => ['\'']
  | numeric => ['0']
  | parameter => ['$']
  | binaryBitString => ['b']
  | hexBitString => ['x']
  | operator => ['o']
  | comment => ['c']

/-- Whether a token of the kind is a single punctuation character, which needs no text. -/
def isBare : Kind → Bool
  | leftParen | rightParen | leftBracket | rightBracket | comma | semicolon | dot | colon => true
  | _ => false

/-- The name of a kind in JSON. -/
def name : Kind → String
  | unknown => "unknown"
  | leftParen => "left_paren"
  | rightParen => "right_paren"
  | leftBracket => "left_bracket"
  | rightBracket => "right_bracket"
  | comma => "comma"
  | semicolon => "semicolon"
  | dot => "dot"
  | doubleDot => "double_dot"
  | colon => "colon"
  | doubleColon => "double_colon"
  | keyword => "keyword"
  | identifier => "identifier"
  | quotedIdentifier => "quoted_identifier"
  | string => "string"
  | numeric => "numeric"
  | parameter => "parameter"
  | binaryBitString => "binary_bit_string"
  | hexBitString => "hex_bit_string"
  | operator => "operator"
  | comment => "comment"

/-- The kind of a given name. -/
def ofName? (s : String) : Option Kind := all.find? (·.name == s)

@[simp] theorem ofName?_name (k : Kind) : ofName? k.name = some k := by cases k <;> decide

end Kind

/-! ## Tokens -/

/-- A token: its kind, and the text that was read for it. -/
structure Token where
  kind : Kind
  text? : Option Text
  deriving DecidableEq, Repr, Inhabited

namespace Token

/-- A punctuation token, which has no text. -/
def bare (k : Kind) : Token := ⟨k, none⟩

/-- A token with its text. -/
def ofText (k : Kind) (t : Text) : Token := ⟨k, some t⟩

@[simp] theorem kind_bare (k : Kind) : (bare k).kind = k := rfl
@[simp] theorem text?_bare (k : Kind) : (bare k).text? = none := rfl
@[simp] theorem kind_ofText (k : Kind) (t : Text) : (ofText k t).kind = k := rfl
@[simp] theorem text?_ofText (k : Kind) (t : Text) : (ofText k t).text? = some t := rfl

/-- The text that stands for a token: its own, else the mark of its kind, else nothing. -/
def lexeme (t : Token) : Text := (t.text? <|> t.kind.mark?).getD []

end Token

end CompactSql
