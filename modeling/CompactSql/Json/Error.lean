import CompactSql.Numeric.Shortest
import CompactSql.Text.Quoted

/-!
# Errors in JSON texts

Reading a JSON text stops at the first thing that is wrong. The error names the cause and the place
where reading stopped: the line, and the number of bytes that were taken from it.

## Main definitions

* `Json.Found` — what stands where a value of another type was wanted.
* `Json.Cause`, `Json.Cause.message` — what is wrong, and how that is put into words.
* `Json.Failure` — a cause, and how much of the text was left when it was found.
* `Json.Failure.message` — the cause and the place in words.
-/

namespace CompactSql

/-- The number of bytes of a text in UTF-8. -/
def Text.byteSize : Text → Nat
  | [] => 0
  | c :: t => c.utf8Size + byteSize t

@[simp] theorem Text.byteSize_nil : Text.byteSize [] = 0 := rfl

namespace Json

/-! ## Causes -/

/-- What stands at a place. An array or object is not read any further. -/
inductive Found where
  | null
  | boolean (b : Bool)
  | integer (i : Int)
  | float (negative : Bool) (magnitude : Binary64)
  | string (t : Text)
  | array
  | object
  deriving DecidableEq, Repr

/-- What stands at a place, in words. -/
def Found.description : Found → String
  | null => "null"
  | boolean b => "boolean \x60" ++ (if b then "true" else "false") ++ "\x60"
  | integer i => "integer \x60" ++ toString i ++ "\x60"
  | float negative x =>
    "floating point \x60" ++ (if negative then "-" else "") ++ String.ofList x.text ++ "\x60"
  | string t => "string " ++ String.ofList (Text.quoted t)
  | array => "sequence"
  | object => "map"

/-- What is wrong with a JSON text. -/
inductive Cause where
  | endInValue
  | endInObject
  | endInArray
  | endInString
  | expectedValue
  | expectedName
  | expectedColon
  | expectedArrayEnd
  | expectedObjectEnd
  | keyNotString
  | trailingComma
  | trailingCharacters
  | invalidNumber
  | numberTooLarge
  | invalidEscape
  | endOfEscape
  | loneSurrogate
  | controlCharacter
  | mistyped (found : Found) (wanted : String)
  | unknownField (name : Text) (known : List String)
  | duplicateField (name : String)
  deriving DecidableEq, Repr

/-- A name between backquotes. -/
def backquoted (s : String) : String := "\x60" ++ s ++ "\x60"

/-- The cause in words. -/
def Cause.message : Cause → String
  | endInValue => "EOF while parsing a value"
  | endInObject => "EOF while parsing an object"
  | endInArray => "EOF while parsing a list"
  | endInString => "EOF while parsing a string"
  | expectedValue => "expected value"
  | expectedName => "expected ident"
  | expectedColon => "expected " ++ backquoted ":"
  | expectedArrayEnd => "expected " ++ backquoted "," ++ " or " ++ backquoted "]"
  | expectedObjectEnd => "expected " ++ backquoted "," ++ " or " ++ backquoted "\x7d"
  | keyNotString => "key must be a string"
  | trailingComma => "trailing comma"
  | trailingCharacters => "trailing characters"
  | invalidNumber => "invalid number"
  | numberTooLarge => "number out of range"
  | invalidEscape => "invalid escape"
  | endOfEscape => "unexpected end of hex escape"
  | loneSurrogate => "lone leading surrogate in hex escape"
  | controlCharacter => "control character (\\u0000-\\u001F) found while parsing a string"
  | mistyped found wanted => "invalid type: " ++ found.description ++ ", expected " ++ wanted
  | unknownField name known =>
    "unknown field " ++ backquoted (String.ofList name) ++ ", expected one of " ++
      ", ".intercalate (known.map backquoted)
  | duplicateField name => "duplicate field " ++ backquoted name

/-! ## Places -/

/-- A place in a text: the line, from one, and the bytes before it in that line. -/
structure Place where
  line : Nat
  column : Nat
  deriving DecidableEq, Repr

/-- The place that lies `bytes` bytes behind the place `p`, where the text `t` begins. -/
def Place.advance (p : Place) (bytes : Nat) : Text → Place
  | [] => p
  | c :: t =>
    if c.utf8Size ≤ bytes then
      let next := if c = '\n' then ⟨p.line + 1, 0⟩ else ⟨p.line, p.column + c.utf8Size⟩
      Place.advance next (bytes - c.utf8Size) t
    else ⟨p.line, p.column + bytes⟩

/-- A cause, and the number of bytes that were left to be read when it was found. -/
structure Failure where
  cause : Cause
  left : Nat
  deriving DecidableEq, Repr

namespace Failure

/-- A failure in front of the text `t`. -/
def before (cause : Cause) (t : Text) : Failure := ⟨cause, t.byteSize⟩

/-- A failure at the first byte of the text `t`, or at the end if there is none. -/
def atFirst (cause : Cause) (t : Text) : Failure := ⟨cause, t.byteSize - 1⟩

/-- The place of a failure in the whole text. -/
def place (f : Failure) (whole : Text) : Place :=
  Place.advance ⟨1, 0⟩ (whole.byteSize - f.left) whole

/-- The failure in words. -/
def message (f : Failure) (whole : Text) : String :=
  let p := f.place whole
  f.cause.message ++ " at line " ++ toString p.line ++ " column " ++ toString p.column

end Failure

/-- What comes of reading at the beginning of a text: something and the rest of the text, or a
failure. -/
abbrev Result (α : Type) := Except Failure (α × Text)

end Json

end CompactSql
