import CompactSql.Proofs.Lexeme.Delimiter
import CompactSql.Proofs.Lexeme.Number
import CompactSql.Proofs.Lexeme.Opening
import CompactSql.Proofs.Lexeme.Operator
import CompactSql.Scan

/-!
# A step, by the rules of the forms

The readers of dollar-quoted strings, operators and numeric constants go through a text character by
character, and those of forms with a second mark pass over it. A step reads the same as the rules of
these forms, which take a lexeme as a whole and ask nothing of the character behind the first one.

## Main definitions

* `Form.rule` — the reading of a lexeme of a form by its rule.

## Main statements

* `Form.read_eq_rule`, `step_eq_rule` — a step is the reading by the rule of the form that begins
  there.
* `step_of_opens` — the same for a form that is known.
* `exists_cons_of_read_drop` — the readers of forms with a second mark.
-/

namespace CompactSql

variable {ks : Keywords} {c : Char} {t : Text} {f : Form}

/-- The reading of a lexeme of a given form that begins with `c` by the rule of the form, where `t`
is the text behind `c`. -/
def Form.rule (ks : Keywords) (c : Char) (t : Text) : Form → Reading
  | blank => ⟨.blank, t⟩
  | bare k => .bare k t
  | double k => .ofText k [c, c] (t.drop 1)
  | quotedIdentifier => readQuotedIdentifier [] t
  | string => readString .plain t
  | parameter => readParameter t
  | dollarQuoted => DollarQuotation.rule t
  | lineComment => Comment.readLine (t.drop 1)
  | blockComment => Comment.readBlock (t.drop 1)
  | operator => Operator.rule c t
  | number => Number.rule c t
  | bitString form => readBitString form (t.drop 1)
  | escapeString => readString .escape (t.drop 1)
  | unicodeLead => readUnicode t
  | word => readWord ks c t
  | unexpected => .dropped (.unexpectedCharacter c) t

theorem Text.behind_eq_drop {q : Char} (t : Text) (h : t.head? = some q) :
    t.behind h = t.drop 1 := by
  cases t with
  | nil => cases h
  | cons d t => rfl

/-- An operator does not begin with the mark of a comment. -/
theorem Form.beginsComment_of_opens (h : Form.operator.Opens c t.head?) :
    ∀ d ∈ t.head?, Operator.beginsComment (some c) d = false := by
  obtain ⟨-, hline, hblock⟩ := h
  intro d hd
  rw [Option.mem_def] at hd
  rw [hd] at hline hblock
  grind [Operator.beginsComment]

/-- The reader of a form reads by its rule what begins like a lexeme of the form. -/
theorem Form.read_eq_rule (h : f.Opens c t.head?) : f.read ks c t h = f.rule ks c t := by
  cases f with
  | double | lineComment | blockComment | bitString | escapeString =>
    simp only [read, rule, Text.behind_eq_drop]
  | dollarQuoted => exact DollarQuotation.read_eq_rule t
  | operator => exact Operator.read_eq_rule (beginsComment_of_opens h)
  | number => exact Number.read_eq_rule h
  | _ => rfl

theorem step_eq_rule (ks : Keywords) (c : Char) (t : Text) :
    step ks c t = (Form.ofChars c t.head?).rule ks c t :=
  Form.read_eq_rule (Form.opens_ofChars c t.head?)

/-- What is read at a place is a lexeme of the form that begins there. -/
theorem step_of_opens (h : f.Opens c t.head?) (hf : f ≠ .unexpected) :
    step ks c t = f.rule ks c t := by
  rw [step_eq_rule, Form.ofChars_eq_of_opens h hf]

/-! ## The second character -/

/-- A reader that is given a text without its first character has taken that character. -/
theorem exists_cons_of_read_drop {f : Text → Reading} (hsuffix : ∀ t, (f t).rest <:+ t)
    {u r : Text} {q : Char} {out : Outcome} (h : f ((u ++ r).drop 1) = ⟨out, r⟩)
    (hnext : (u ++ r).head? = some q) : ∃ u', u = q :: u' ∧ f (u' ++ r) = ⟨out, r⟩ := by
  cases u with
  | nil =>
    obtain ⟨r', rfl⟩ := List.head?_eq_some_iff.1 hnext
    have hread : f r' = ⟨out, q :: r'⟩ := h
    have hrest : q :: r' <:+ r' := by simpa [hread] using hsuffix r'
    exact absurd hrest.length_le (by simp)
  | cons e u =>
    obtain rfl : e = q := Option.some.inj hnext
    exact ⟨u, rfl, h⟩

end CompactSql
