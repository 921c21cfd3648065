import CompactSql.Text.Basic

/-!
# JSON values and their text

The values that a program writes as JSON, without numbers, and the two ways of writing them: in one
line without spaces, and with one member or element a line.

## Main definitions

* `Json.Value` — the values.
* `Json.escape`, `Json.encode` — a character and a text inside a JSON string.
* `Json.Value.compact`, `Json.Value.pretty` — the two ways of writing a value.
-/

namespace CompactSql.Json

/-! ## Strings -/

/-- A character inside a JSON string. Only quotes, backslashes and control characters below the
space are escaped, those with a short escape by it and the others by their code. -/
def escape (c : Char) : Text :=
  if c = '"' then ['\\', '"']
  else if c = '\\' then ['\\', '\\']
  else if c = '\x08' then ['\\', 'b']
  else if c = '\x0c' then ['\\', 'f']
  else if c = '\n' then ['\\', 'n']
  else if c = '\r' then ['\\', 'r']
  else if c = '\t' then ['\\', 't']
  else if c.toNat < 0x20 then
    ['\\', 'u', '0', '0', Nat.digitChar (c.toNat / 16), Nat.digitChar (c.toNat % 16)]
  else [c]

/-- The JSON string for a text. -/
def encode (t : Text) : Text := '"' :: t.flatMap escape ++ ['"']

/-! ## Values -/

/-- A JSON value that is not a number. -/
inductive Value where
  | null
  | bool (b : Bool)
  | string (t : Text)
  | array (elements : List Value)
  | object (members : List (Text × Value))
  deriving Repr, Inhabited

namespace Value

/-- The text of a boolean. -/
def boolText (b : Bool) : Text := (if b then "true" else "false").toList

mutual

/-- The value in one line. -/
def compact : Value → Text
  | null => "null".toList
  | bool b => boolText b
  | string t => encode t
  | array vs => '[' :: compactElements vs ++ [']']
  | object ms => '\x7b' :: compactMembers ms ++ ['\x7d']

/-- The elements of an array in one line. -/
def compactElements : List Value → Text
  | [] => []
  | [v] => v.compact
  | v :: w :: vs => v.compact ++ ',' :: compactElements (w :: vs)

/-- The members of an object in one line. -/
def compactMembers : List (Text × Value) → Text
  | [] => []
  | [(k, v)] => encode k ++ ':' :: v.compact
  | (k, v) :: m :: ms => encode k ++ ':' :: v.compact ++ ',' :: compactMembers (m :: ms)

end

/-- The end of a line, and the blanks at the beginning of one that is nested `depth` deep. -/
def newline (depth : Nat) : Text := '\n' :: List.replicate (2 * depth) ' '

mutual

/-- The value over several lines, nested `depth` deep. Without elements or members, an array or
object takes no line of its own. -/
def prettyAt (depth : Nat) : Value → Text
  | null => "null".toList
  | bool b => boolText b
  | string t => encode t
  | array [] => ['[', ']']
  | array (v :: vs) => '[' :: prettyElements (depth + 1) (v :: vs) ++ newline depth ++ [']']
  | object [] => ['\x7b', '\x7d']
  | object (m :: ms) =>
    '\x7b' :: prettyMembers (depth + 1) (m :: ms) ++ newline depth ++ ['\x7d']

/-- The elements of an array, each in a line that is nested `depth` deep. -/
def prettyElements (depth : Nat) : List Value → Text
  | [] => []
  | [v] => newline depth ++ v.prettyAt depth
  | v :: w :: vs => newline depth ++ v.prettyAt depth ++ ',' :: prettyElements depth (w :: vs)

/-- The members of an object, each in a line that is nested `depth` deep. -/
def prettyMembers (depth : Nat) : List (Text × Value) → Text
  | [] => []
  | [(k, v)] => newline depth ++ encode k ++ [':', ' '] ++ v.prettyAt depth
  | (k, v) :: m :: ms =>
    newline depth ++ encode k ++ [':', ' '] ++ v.prettyAt depth ++ ',' ::
      prettyMembers depth (m :: ms)

end

/-- The value over several lines. -/
def pretty (v : Value) : Text := v.prettyAt 0

end Value

end CompactSql.Json
