import CompactSql.Lexeme.Comment
import CompactSql.Lexeme.DollarQuotation
import CompactSql.Lexeme.Form
import CompactSql.Lexeme.Number

/-!
# Scanning a statement

A scan cuts a statement into pieces, each of which is a blank, a token or left out, and stops behind
the first semicolon that is a token.

## Main definitions

* `Form.read` — the reading of a lexeme of a form, where one begins.
* `step` — the reading of one piece.
* `Piece`, `pieces` — a statement cut into pieces.
* `scan` — the tokens of a statement.
* `faults` — what was left out, with the positions at which that is reported.

`suffix_step` says that a step leaves an end of the text to be read, so that a scan comes to its
end.
-/

namespace CompactSql

/-! ## One step -/

/-- The reading behind `u&`, whose `u` has been passed: a string constant, a quoted identifier, or
nothing, in which case the `u` is left out and the `&` is read next. -/
def readUnicode (t : Text) : Reading :=
  match t with
  | '&' :: '"' :: r => readQuotedIdentifier ['u', '&'] r
  | '&' :: '\'' :: r => readString .unicode r
  | _ => .dropped .strayUnicodePrefix t

/-- The reading of a lexeme of a given form that begins with `c`, where `t` is the text behind
`c`. The readers of the forms that have a second mark pass over it. -/
def Form.read (ks : Keywords) (c : Char) (t : Text) : (f : Form) → f.Opens c t.head? → Reading
  | blank, _ => ⟨.blank, t⟩
  | bare k, _ => .bare k t
  | double k, h => .ofText k [c, c] (t.behind h.2)
  | quotedIdentifier, _ => readQuotedIdentifier [] t
  | string, _ => readString .plain t
  | parameter, _ => readParameter t
  | dollarQuoted, _ => DollarQuotation.read t
  | lineComment, h => Comment.readLine (t.behind h.2)
  | blockComment, h => Comment.readBlock (t.behind h.2)
  | operator, _ => Operator.read c t
  | number, _ => Number.read c t
  | bitString form, h => readBitString form (t.behind (next_of_opens_bitString h))
  | escapeString, h => readString .escape (t.behind h.2)
  | unicodeLead, _ => readUnicode t
  | word, _ => readWord ks c t
  | unexpected, _ => .dropped (.unexpectedCharacter c) t

/-- Reads one piece of the text `c :: t`. -/
def step (ks : Keywords) (c : Char) (t : Text) : Reading :=
  (Form.ofChars c t.head?).read ks c t (Form.opens_ofChars c t.head?)

theorem suffix_readUnicode (t : Text) : (readUnicode t).rest <:+ t := by
  unfold readUnicode
  split
  · rename_i r
    exact (suffix_readQuotedIdentifier _ r).trans ⟨['&', '"'], rfl⟩
  · rename_i r
    exact (suffix_readString _ r).trans ⟨['&', '\''], rfl⟩
  · exact List.suffix_refl _

theorem Form.suffix_read (ks : Keywords) {c : Char} {t : Text} :
    ∀ {f : Form} (h : f.Opens c t.head?), (f.read ks c t h).rest <:+ t
  | blank, _ | bare _, _ | unexpected, _ => List.suffix_refl _
  | double _, h => t.suffix_behind h.2
  | quotedIdentifier, _ => suffix_readQuotedIdentifier _ _
  | string, _ => suffix_readString _ _
  | parameter, _ => suffix_readParameter _
  | dollarQuoted, _ => DollarQuotation.suffix_read _
  | lineComment, h => (Comment.suffix_readLine _).trans (t.suffix_behind h.2)
  | blockComment, h => (Comment.suffix_readBlock _).trans (t.suffix_behind h.2)
  | operator, _ => Operator.suffix_read _ _
  | number, _ => Number.suffix_read _ _
  | bitString _, h =>
    (suffix_readBitString _ _).trans (t.suffix_behind (next_of_opens_bitString h))
  | escapeString, h => (suffix_readString _ _).trans (t.suffix_behind h.2)
  | unicodeLead, _ => suffix_readUnicode _
  | word, _ => suffix_readWord _ _ _

/-- A step leaves an end of the text behind its first character. -/
theorem suffix_step (ks : Keywords) (c : Char) (t : Text) : (step ks c t).rest <:+ t :=
  Form.suffix_read ks (Form.opens_ofChars c t.head?)

theorem length_step_le (ks : Keywords) (c : Char) (t : Text) :
    (step ks c t).rest.length ≤ t.length := (suffix_step ks c t).length_le

/-! ## A whole statement -/

/-- A piece of a statement: the characters that a step took, and what it made of them. -/
structure Piece where
  slice : Text
  outcome : Outcome
  deriving DecidableEq, Repr

/-- A statement cut into pieces, up to its end or the first semicolon that is a token. -/
def pieces (ks : Keywords) : Text → List Piece
  | [] => []
  | c :: t =>
    let r := step ks c t
    let piece : Piece := ⟨(c :: t).take (t.length + 1 - r.rest.length), r.outcome⟩
    if r.outcome.isTerminator then [piece] else piece :: pieces ks r.rest
termination_by t => t.length
decreasing_by exact Nat.lt_succ_of_le (length_step_le ks c t)

/-- The tokens of a statement. -/
def scan (ks : Keywords) (t : Text) : List Token :=
  (pieces ks t).filterMap (·.outcome.token?)

/-- The faults among pieces of which the first begins at the position `start`, with the positions
at which they are reported. -/
def faultsFrom (start : Nat) : List Piece → List (Nat × Fault)
  | [] => []
  | p :: ps =>
    let stop := start + p.slice.length
    match p.outcome with
    | .dropped f => (f.position start stop, f) :: faultsFrom stop ps
    | _ => faultsFrom stop ps

/-- What the scan of a statement leaves out. -/
def faults (ks : Keywords) (t : Text) : List (Nat × Fault) := faultsFrom 0 (pieces ks t)

end CompactSql
