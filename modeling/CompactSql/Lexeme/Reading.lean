import CompactSql.Text.Quoted
import CompactSql.Token

/-!
# Readings

A scan goes through a statement in steps. A step takes some characters and makes one token of them,
or passes over a blank, or leaves the characters out because no token can be made of them.

## Main definitions

* `Fault`, `Fault.message` — why characters were left out, and how that is put into words.
* `Outcome` — what a step made of the characters that it took.
* `Reading` — the outcome of a step and the text that is still to be read.
-/

namespace CompactSql

/-! ## Faults -/

/-- Why a step left characters out. Those that name a text carry what had been read of the
lexeme. -/
inductive Fault where
  | unexpectedCharacter (c : Char)
  | strayUnicodePrefix
  | emptyQuotedIdentifier
  | unterminatedQuotedIdentifier
  | unterminatedString
  | unterminatedDollarQuote
  | malformedBitString (collected : Text)
  | malformedNumber
  | unterminatedOperator (collected : Text)
  | ambiguousOperator (collected : Text)
  | unterminatedBlockComment
  deriving DecidableEq, Repr

namespace Fault

/-- The fault in words. -/
def message : Fault → String
  | unexpectedCharacter c =>
    "skipping unexpected character " ++ String.ofList (Text.quotedChar c)
  | strayUnicodePrefix => "dropping \x60u\x60 before \x60&\x60"
  | emptyQuotedIdentifier => "rejected empty quoted identifier"
  | unterminatedQuotedIdentifier => "unterminated quoted identifier"
  | unterminatedString => "unterminated string constant"
  | unterminatedDollarQuote => "unterminated dollar-quoted string"
  | malformedBitString t => "malformed bit-string " ++ String.ofList (Text.quoted t)
  | malformedNumber => "malformed numeric constant"
  | unterminatedOperator t =>
    "discarding unterminated operator " ++ String.ofList (Text.quoted t)
  | ambiguousOperator t => "discarding ambiguous operator " ++ String.ofList (Text.quoted t)
  | unterminatedBlockComment => "unterminated block comment"

/-- The position that a fault is reported at, for a step that took the characters from `start` up
to `stop`: a character that begins nothing is named where it stands, any other fault where the step
gave up. -/
def position (start stop : Nat) : Fault → Nat
  | unexpectedCharacter _ => start
  | _ => stop

end Fault

/-! ## Outcomes and readings -/

/-- What a step made of the characters that it took. -/
inductive Outcome where
  | blank
  | token (t : Token)
  | dropped (f : Fault)
  deriving DecidableEq, Repr

namespace Outcome

/-- The token that was made, if any. -/
def token? : Outcome → Option Token
  | token t => some t
  | _ => none

/-- Whether the step ends the statement. -/
def isTerminator : Outcome → Bool
  | token t => t.kind == .semicolon
  | _ => false

end Outcome

/-- The outcome of a step, and the text that it left to be read. -/
structure Reading where
  outcome : Outcome
  rest : Text
  deriving DecidableEq, Repr

namespace Reading

/-- A reading of a token with its text. -/
def ofText (k : Kind) (t : Text) (rest : Text) : Reading := ⟨.token (.ofText k t), rest⟩

/-- A reading of a punctuation token. -/
def bare (k : Kind) (rest : Text) : Reading := ⟨.token (.bare k), rest⟩

/-- A reading that leaves out what it took. -/
def dropped (f : Fault) (rest : Text) : Reading := ⟨.dropped f, rest⟩

@[simp] theorem rest_ofText (k : Kind) (t rest : Text) : (ofText k t rest).rest = rest := rfl
@[simp] theorem rest_bare (k : Kind) (rest : Text) : (bare k rest).rest = rest := rfl
@[simp] theorem rest_dropped (f : Fault) (rest : Text) : (dropped f rest).rest = rest := rfl

end Reading

end CompactSql
