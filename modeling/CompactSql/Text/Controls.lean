import CompactSql.Text.Basic

/-!
# Control sequences

A text that is shown where no styles are wanted loses its control sequences, each from the escape
character to the character that ends it, and all other control characters but tabs and the ends of
lines and pages. Such a character is shown inside a control sequence too, unless that carries a
string, and so is all that follows it up to the next control character.

## Main definitions

* `Control` — how far a control sequence has been read.
* `Control.after` — how far it has been read behind one more character.
* `Control.shows` — whether a character is shown at a given place.
* `Text.withoutControls` — what is shown of a text.
-/

namespace CompactSql

/-- How far a control sequence has been read. -/
inductive Control where
  /-- No control sequence has begun. -/
  | ground
  /-- The escape character has been read. -/
  | escape
  /-- Intermediate characters have been read behind the escape character. -/
  | intermediate
  /-- The parameters of a control sequence are read, behind `[`. -/
  | sequence
  /-- A device control string has begun. -/
  | device
  /-- The parameters of a device control string are read. -/
  | deviceParameters
  /-- The intermediate characters of a device control string are read. -/
  | deviceIntermediate
  /-- A string is read that ends before a string terminator. -/
  | string
  /-- The string of an operating system command is read. -/
  | command
  deriving DecidableEq, Repr

namespace Control

/-! ## Characters -/

/-- Whether the code point `n` is an intermediate character. -/
def isIntermediate (n : Nat) : Bool := 0x20 ≤ n && n ≤ 0x2F

/-- Whether the code point `n` may be a parameter. -/
def isParameter (n : Nat) : Bool := 0x30 ≤ n && n ≤ 0x3F

/-- Whether the code point `n` ends a control sequence. -/
def isFinal (n : Nat) : Bool := 0x40 ≤ n && n ≤ 0x7E

/-- Whether `c` is shown outside of control sequences because it has a picture. -/
def isGraphic (c : Char) : Bool := 0x20 ≤ c.toNat && c.toNat ≠ 0x7F

/-- Whether `c` is a control character that moves on in the text: a tab, or the end of a line or
page. -/
def isLayout (c : Char) : Bool := c == '\t' || c == '\n' || c == '\x0c' || c == '\r'

/-- Whether the string terminator is among the bytes of `c` in UTF-8. -/
def hasTerminator (c : Char) : Bool := (String.utf8EncodeChar c).contains 0x9C

/-! ## Reading a control sequence -/

/-- What follows the escape character and the code point `n`. -/
def afterEscape (n : Nat) : Control :=
  if isIntermediate n then .intermediate
  else if n = '['.toNat then .sequence
  else if n = ']'.toNat then .command
  else if n = 'P'.toNat then .device
  else if n = 'X'.toNat || n = '^'.toNat || n = '_'.toNat then .string
  else if isParameter n || isFinal n then .ground
  else .escape

/-- What follows the code point `n` in front of the string of a device control string. -/
def afterDevice (s : Control) (n : Nat) : Control :=
  if isIntermediate n then .deviceIntermediate
  else if isFinal n then .string
  else if isParameter n then
    if s = .device || s = .deviceParameters && n ≤ ';'.toNat then .deviceParameters else .string
  else s

/-- How far a control sequence has been read behind the character `c`. Two control characters give
up whatever has been read, and the escape character begins anew. -/
def after (s : Control) (c : Char) : Control :=
  if c = '\x18' || c = '\x1a' then .ground
  else if c = '\x1b' then .escape
  else
    match s with
    | .ground => .ground
    | .escape => afterEscape c.toNat
    | .intermediate => if isParameter c.toNat || isFinal c.toNat then .ground else .intermediate
    | .sequence => if isFinal c.toNat then .ground else .sequence
    | .string => if hasTerminator c then .ground else .string
    | .command => if c = '\x07' then .ground else .command
    | s => afterDevice s c.toNat

/-- Whether `c` is shown at a place up to which a control sequence has been read. -/
def shows (s : Control) (c : Char) : Bool :=
  match s with
  | .ground => isGraphic c || isLayout c
  | .escape | .intermediate | .sequence => isLayout c
  | _ => false

end Control

/-! ## Texts -/

namespace Text

/-- What is shown of a text behind the beginning of a control sequence. While characters are shown,
what has been read of it is kept, until a character beyond ASCII is shown. -/
def shownFrom (s : Control) (showing : Bool) : Text → Text
  | [] => []
  | c :: t =>
    if s.shows c || showing && Control.ground.shows c then
      c :: shownFrom (if c.toNat < 0x80 then s else .ground) true t
    else shownFrom (s.after c) false t

/-- What is shown of a text where no styles are wanted. -/
def withoutControls (t : Text) : Text := shownFrom .ground true t

end Text

end CompactSql
