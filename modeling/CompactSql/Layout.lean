import CompactSql.Options
import CompactSql.Text.Lowercase
import CompactSql.Token

/-!
# The compact form of a statement

The tokens of a statement are written on one line, with a space before a token only where the kind
of the token before it asks for one. Words are written in lowercase, all other tokens as they were
read.

## Main definitions

* `Kind.attachesNext`, `Kind.spacesParen`, `Kind.attaches` — the rules of spacing.
* `segment` — a token as it is written, with the space before it.
* `segments`, `layout` — the segments of a statement, and its compact form.
-/

namespace CompactSql

/-! ## Spacing -/

namespace Kind

/-- Whether a word, a literal or `[` is written without a space behind a token of this kind. -/
def attachesNext : Kind → Bool
  | unknown | leftParen | leftBracket | doubleColon | colon | dot => true
  | _ => false

/-- Whether `(` is written with a space behind a token of this kind. Behind any other it reads as
the beginning of an argument list. -/
def spacesParen : Kind → Bool
  | keyword | operator | comma => true
  | _ => false

/-- Whether a token of this kind is written without a space before it, whatever that is. -/
def attaches : Kind → Bool
  | rightParen | rightBracket | semicolon | comma | doubleColon | colon | dot => true
  | _ => false

/-- Whether tokens of this kind are words, which are written in lowercase. -/
def isWord : Kind → Bool
  | keyword | identifier => true
  | _ => false

end Kind

/-! ## Segments -/

/-- The token as it is written behind a space: a word in lowercase, a comment between comment marks,
two dots and an opening parenthesis always alike. -/
def Token.written (t : Token) : Text :=
  match t.kind with
  | .comment => ['/', '*', ' '] ++ t.lexeme ++ [' ', '*', '/']
  | .doubleDot => ['.', '.']
  | .leftParen => ['(']
  | .keyword | .identifier => lowercase t.lexeme
  | _ => t.lexeme

/-- Whether a space is written before a token of the kind `k` that follows one of the kind
`prev`. -/
def spaceBetween (prev k : Kind) : Bool :=
  match k with
  | .comment | .doubleDot => true
  | .leftParen => prev.spacesParen
  | _ => !k.attaches && !prev.attachesNext

/-- The token as it is written behind a token of the kind `prev`. -/
def segment (prev : Kind) (t : Token) : Text :=
  (if spaceBetween prev t.kind then [' '] else []) ++ t.written

/-- The segments of the tokens of a statement, of which the first follows one of the kind `prev`. A
comment that is not to be written has an empty segment, but the token behind it follows a comment
all the same; a semicolon that is not to be written has none, and leaves no trace. -/
def segments (comments semicolon : Bool) (prev : Kind) : List Token → List Text
  | [] => []
  | t :: ts =>
    if t.kind = .comment && !comments then [] :: segments comments semicolon .comment ts
    else if t.kind = .semicolon && !semicolon then segments comments semicolon prev ts
    else segment prev t :: segments comments semicolon t.kind ts

/-- The compact form of a statement of the given tokens. A semicolon that is the whole statement is
always written. -/
def layout (o : Options) (ts : List Token) : Text :=
  (segments o.comments (o.semicolon || ts.length ≤ 1) .unknown ts).flatten

end CompactSql
