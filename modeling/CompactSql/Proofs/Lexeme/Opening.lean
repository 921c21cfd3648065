import CompactSql.Lexeme.Form
import CompactSql.Proofs.Text.Cut

/-!
# How lexemes begin

The form of a lexeme is fixed by its first character and the one behind it. Here is said once what
these two are for each form, so that nothing else has to look into the order in which the forms are
tried.

`ofChars_eq_of_opens` says that the characters at a place decide the form that begins there, as
`opens_ofChars` says that they are those of the form.
-/

namespace CompactSql

/-! ## Characters -/

section

variable {p : Char → Bool} {c : Char} {l : Text}

theorem ne_of_all (hl : l.all (!p ·) = true) (hc : p c = true) : ∀ d ∈ l, c ≠ d := by
  intro d hd
  have hnot : p d = false := by simpa using List.all_eq_true.1 hl d hd
  exact Text.ne_of_true_of_false hc hnot

/-- The digits are ten characters, so what none of them is can be decided. -/
theorem eq_false_of_isDigit
    (hp : (['0', '1', '2', '3', '4', '5', '6', '7', '8', '9'].all (!p ·)) = true)
    (h : c.isDigit = true) : p c = false := by
  have hall : ∀ n < 58, 48 ≤ n →
      Char.ofNat n ∈ ['0', '1', '2', '3', '4', '5', '6', '7', '8', '9'] := by decide
  obtain ⟨h₁, h₂⟩ := Char.isDigit_iff_toNat.1 h
  have hlt : c.toNat < 58 := Nat.lt_succ_of_le h₂
  have hmem := hall c.toNat hlt h₁
  rw [Char.ofNat_toNat] at hmem
  simpa using List.all_eq_true.1 hp c hmem

/-- The same for the characters of operators. -/
theorem eq_false_of_isRunChar
    (hp : (['+', '-', '*', '/', '<', '>', '=', '~', '!', '@', '#', '%', '^', '&', '|', '\x60',
      '?'].all (!p ·)) = true)
    (h : Operator.isRunChar c = true) : p c = false := by
  simpa using List.all_eq_true.1 hp c (of_decide_eq_true h)

theorem beginsWord_eq_false_of_isDigit (h : c.isDigit = true) : beginsWord c = false :=
  eq_false_of_isDigit (by decide) h

theorem isRunChar_eq_false_of_isDigit (h : c.isDigit = true) : Operator.isRunChar c = false :=
  eq_false_of_isDigit (by decide) h

theorem isDigit_eq_false_of_beginsWord (hc : beginsWord c = true) : c.isDigit = false := by
  rw [Bool.eq_false_iff]
  intro hdigit
  exact Bool.noConfusion ((beginsWord_eq_false_of_isDigit hdigit).symm.trans hc)

theorem isRunChar_eq_false_of_beginsWord (hc : beginsWord c = true) :
    Operator.isRunChar c = false := by
  rw [Bool.eq_false_iff]
  intro hrun
  have hnot : beginsWord c = false := eq_false_of_isRunChar (by decide) hrun
  exact Bool.noConfusion (hnot.symm.trans hc)

end

/-! ## Forms -/

namespace Form

/-- What begins like a word is none of the other forms but those with a mark. -/
theorem ofChars_of_beginsWord {c : Char} (hc : beginsWord c = true) (next? : Option Char) :
    ofChars c next? = ofWordChar c next? := by
  have hne := ne_of_all (l := [' ', '\t', '\n', '(', ')', '[', ']', ',', ';', '"', '\'', '$', '-',
    '/', '.', ':']) (by decide) hc
  simp only [List.forall_mem_cons] at hne
  simp [ofChars, isDigit_eq_false_of_beginsWord hc, isRunChar_eq_false_of_beginsWord hc, hne]

theorem ofChars_of_isRunChar {c : Char} {next? : Option Char} (hc : Operator.isRunChar c = true)
    (hline : ¬(c = '-' ∧ next? = some '-')) (hblock : ¬(c = '/' ∧ next? = some '*')) :
    ofChars c next? = operator := by
  have hne := ne_of_all (l := [' ', '\t', '\n', '(', ')', '[', ']', ',', ';', '"', '\'', '$'])
    (by decide) hc
  simp only [List.forall_mem_cons] at hne
  simp [ofChars, hc, hline, hblock, hne]

theorem ofChars_of_isDigit {c : Char} (hc : c.isDigit = true) (next? : Option Char) :
    ofChars c next? = number := by
  have hne := ne_of_all (l := [' ', '\t', '\n', '(', ')', '[', ']', ',', ';', '"', '\'', '$', '-',
    '/']) (by decide) hc
  simp only [List.forall_mem_cons] at hne
  simp [ofChars, hc, isRunChar_eq_false_of_isDigit hc, hne]

/-- The characters at the beginning of a lexeme decide its form. -/
theorem ofChars_eq_of_opens {f : Form} {c : Char} {next? : Option Char} (h : f.Opens c next?)
    (hf : f ≠ unexpected) : ofChars c next? = f := by
  cases f with
  | blank =>
    rcases h with rfl | rfl | rfl <;> rfl
  | bare k =>
    obtain ⟨hbare, hmark, hdot, hcolon⟩ := h
    cases k <;> simp_all [Kind.isBare, Kind.mark?] <;> subst hmark <;>
      simp_all [ofChars, ofDot] <;> decide
  | double k =>
    obtain ⟨⟨rfl, rfl⟩ | ⟨rfl, rfl⟩, rfl⟩ := h <;> rfl
  | quotedIdentifier | string =>
    obtain rfl := h
    rfl
  | parameter | dollarQuoted =>
    obtain ⟨rfl, hnext⟩ := h
    simp [ofChars, hnext]
  | lineComment | blockComment =>
    obtain ⟨rfl, rfl⟩ := h
    rfl
  | operator => exact ofChars_of_isRunChar h.1 h.2.1 h.2.2
  | number =>
    rcases h with hc | ⟨rfl, hnext⟩
    · exact ofChars_of_isDigit hc next?
    · simp [ofChars, ofDot, hnext]
      decide
  | bitString form =>
    cases form <;> obtain ⟨rfl | rfl, rfl⟩ := h <;> decide
  | escapeString | unicodeLead =>
    obtain ⟨rfl | rfl, rfl⟩ := h <;> decide
  | word =>
    obtain ⟨hc, hmark, hlead⟩ := h
    rw [ofChars_of_beginsWord hc, ofWordChar]
    grind
  | unexpected => exact absurd rfl hf

end Form

end CompactSql
