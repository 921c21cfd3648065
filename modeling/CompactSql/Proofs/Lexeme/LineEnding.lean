import CompactSql.Proofs.Lexeme.Outlook
import CompactSql.Proofs.Text.LineEnding

/-!
# Lexemes and line ends

What is read of a text without quotes and dollar signs is the same whatever its lines end in. A
carriage return ends a word, a number or an operator just as a line feed does, and inside a comment
both are spaces.

## Main definitions

* `Reading.crlf` — what is read, with a carriage return before every line feed that is left.
* `Text.Unquoted` — the texts in which no quotation begins.

## Main statements

* `readWord_crlf`, … — the readers of lexemes.
* `ofChars_crlf` — the form of a lexeme does not depend on line ends.
* `step_crlf` — a step from anything but a line feed.
-/

namespace CompactSql

open Text (crlf)

variable {ks : Keywords} {c : Char}

/-- The reading, with the line ends of what is left written in full. -/
def Reading.crlf (r : Reading) : Reading := ⟨r.outcome, Text.crlf r.rest⟩

@[simp] theorem Reading.crlf_ofText (k : Kind) (w r : Text) :
    (ofText k w r).crlf = ofText k w (Text.crlf r) := rfl

@[simp] theorem Reading.crlf_dropped (f : Fault) (r : Text) :
    (dropped f r).crlf = dropped f (Text.crlf r) := rfl

namespace Text

/-- Whether a text holds no quotes and no dollar signs, so that no quotation begins in it. -/
def Unquoted (t : Text) : Prop := ∀ c ∈ t, c ≠ '\'' ∧ c ≠ '"' ∧ c ≠ '$'

instance (t : Text) : Decidable (Unquoted t) := List.decidableBAll _ t

theorem unquoted_crlf {t : Text} (h : Unquoted t) : Unquoted (crlf t) := by
  unfold Unquoted at h ⊢
  fun_induction crlf t <;> simp_all

end Text

/-! ## Words and operators -/

theorem readWord_crlf (ks : Keywords) (c : Char) (t : Text) :
    readWord ks c (crlf t) = (readWord ks c t).crlf := by
  simp only [readWord, Text.takeWhile_crlf_of_stop (p := isWordChar) (by decide)
    (by decide), Text.dropWhile_crlf (p := isWordChar) (by decide),
    Reading.crlf_ofText]

namespace Operator

theorem rule_crlf (c : Char) (t : Text) : rule c (crlf t) = (rule c t).crlf := by
  obtain ⟨run, hrun⟩ : ∃ run, t.takeWhile isRunChar = run := ⟨_, rfl⟩
  simp only [rule, Text.takeWhile_crlf_of_stop (p := isRunChar) (by decide) (by decide),
    Text.dropWhile_crlf (p := isRunChar) (by decide), hrun, Text.isEmpty_crlf]
  cases hcomment : commentIn (c :: run) with
  | none =>
    simp only
    split
    · rfl
    · split <;> rfl
  | some b =>
    obtain ⟨before, r⟩ := b
    -- What stands behind the comment mark is still a part of the run.
    have hr : '\n' ∉ r := by
      obtain ⟨a, w, e, -, hrun'⟩ := exists_of_commentIn hcomment
      intro hmem
      have hmem' : '\n' ∈ run := by
        rw [(List.cons.inj hrun').2]
        simp [hmem]
      exact absurd (List.mem_takeWhile_imp (hrun ▸ hmem')) (by decide)
    simp [Text.crlf_of_not_mem hr]

end Operator

/-! ## Numeric constants -/

namespace Number

theorem digits_crlf (t : Text) : digits (crlf t) = ((digits t).1, crlf (digits t).2) := by
  rw [digits, Text.takeWhile_crlf_of_stop (by decide) (by decide), Text.dropWhile_crlf (by decide)]
  rfl

theorem mantissa_crlf (c : Char) (t : Text) :
    mantissa c (crlf t) = ((mantissa c t).1, crlf (mantissa c t).2) := by
  have hdigits := digits_crlf t
  by_cases hc : c = '.'
  · subst hc
    simp [mantissa, hdigits]
  obtain ⟨w, r, hwhole⟩ : ∃ w r, digits t = (w, r) := ⟨_, _, rfl⟩
  rw [hwhole] at hdigits
  by_cases hr : r.head? = some '.'
  · obtain ⟨r, rfl⟩ := List.head?_eq_some_iff.1 hr
    have hdigits' : digits (crlf t) = (w, '.' :: crlf r) := by simpa using hdigits
    rw [mantissa_of_dot hc hdigits', mantissa_of_dot hc hwhole, digits_crlf]
  · have hr' : (crlf r).head? ≠ some '.' := by
      rwa [Ne, Text.head?_crlf_eq_some_iff (by decide) (by decide)]
    rw [mantissa_of_not_dot hc hdigits hr', mantissa_of_not_dot hc hwhole hr]

theorem sign_crlf (t : Text) : sign (crlf t) = ((sign t).1, crlf (sign t).2) := by
  fun_cases sign t with
  | case1 r | case2 r => rfl
  | case3 t hplus hminus =>
    have hself : sign t = ([], t) := sign.eq_3 t hplus hminus
    rw [sign_eq_self_iff] at hself ⊢
    rwa [Ne, Ne, Text.head?_crlf_eq_some_iff (by decide) (by decide),
      Text.head?_crlf_eq_some_iff (by decide) (by decide)]

/-- The exponent, with the line ends of what is left written in full. -/
def Exponent.crlf : Exponent → Exponent
  | absent => absent
  | broken r => broken (Text.crlf r)
  | complete e r => complete e (Text.crlf r)

theorem exponent_crlf (t : Text) : exponent (crlf t) = (exponent t).crlf := by
  cases t with
  | nil => rfl
  | cons e t =>
    by_cases he : e = 'e' ∨ e = 'E'
    · have hline : e ≠ '\n' := by rcases he with rfl | rfl <;> decide
      obtain ⟨s, r, hsign⟩ : ∃ s r, sign t = (s, r) := ⟨_, _, rfl⟩
      obtain ⟨ds, r', hdigits⟩ : ∃ ds r', digits r = (ds, r') := ⟨_, _, rfl⟩
      have hsign' := sign_crlf t
      rw [hsign] at hsign'
      have hdigits' := digits_crlf r
      rw [hdigits] at hdigits'
      rw [Text.crlf_cons hline, exponent_of_mark he hsign' hdigits',
        exponent_of_mark he hsign hdigits]
      split <;> rfl
    · by_cases hline : e = '\n'
      · subst hline
        rfl
      · rw [Text.crlf_cons hline, exponent_of_not_mark he, exponent_of_not_mark he]
        rfl

theorem complete_crlf (v t : Text) : complete v (crlf t) = (complete v t).crlf := by
  cases t with
  | nil => rfl
  | cons c t =>
    by_cases hc : c = '\n'
    · subst hc
      have hr : isLetter '\r' = false := by decide
      have hn : isLetter '\n' = false := by decide
      simp [complete, hr, hn]
    · rw [Text.crlf_cons hc, complete, complete]
      split <;> simp [hc]

theorem rule_crlf (c : Char) (t : Text) : rule c (crlf t) = (rule c t).crlf := by
  simp only [rule, mantissa_crlf, exponent_crlf]
  cases exponent (mantissa c t).2 with
  | absent | complete => exact complete_crlf _ _
  | broken r => rfl

end Number

/-! ## Comments -/

namespace Comment

variable {b r : Text}

/-- A line comment goes up to the end of its line or of the text. -/
theorem readLine_append (hb : '\n' ∉ b) (hr : ∀ c ∈ r.head?, c = '\n') :
    readLine (b ++ r) = .ofText .comment (foldLine b) (r.drop 1) := by
  have hline : ∀ c ∈ b, (c != '\n') = true := by
    intro c hc
    simpa using ne_of_mem_of_not_mem hc hb
  have hend : ∀ c ∈ r.head?, (c != '\n') = false := by simpa using hr
  obtain ⟨htake, hdrop⟩ := Text.span_eq_iff.2 ⟨rfl, hline, hend⟩
  rw [readLine, htake, hdrop]

/-- The carriage return at the end of a line comment does not come into its text. -/
theorem readLine_crlf (t : Text) : readLine (crlf t) = (readLine t).crlf := by
  by_cases hline : '\n' ∈ t
  · obtain ⟨b, r, rfl, hb⟩ := List.eq_append_cons_of_mem hline
    have hb' : '\n' ∉ b ++ ['\r'] := by simpa using hb
    have hcrlf : crlf (b ++ '\n' :: r) = b ++ ['\r'] ++ '\n' :: crlf r := by
      simp [Text.crlf_of_not_mem hb]
    rw [hcrlf, readLine_append hb' (by simp), readLine_append hb (by simp),
      foldLine_append b (List.all_eq_true.1 rfl)]
    rfl
  · have hlast : readLine t = .ofText .comment (foldLine t) [] := by
      simpa using readLine_append (r := []) hline (by simp)
    rw [Text.crlf_of_not_mem hline, hlast]
    rfl

theorem readBlock_crlf (t : Text) : readBlock (crlf t) = (readBlock t).crlf := by
  rw [readBlock, Text.cutAt_crlf (by decide) (by decide) (by decide), readBlock]
  cases Text.cutAt ['*', '/'] t with
  | none => rfl
  | some b => simp [foldBlock_crlf]

end Comment

/-! ## Steps -/

/-- A line feed and a carriage return behind a character make the same form of it. -/
theorem ofChars_crlf (c : Char) (t : Text) :
    Form.ofChars c (crlf t).head? = Form.ofChars c t.head? := by
  rw [Text.head?_crlf]
  cases t with
  | nil => rfl
  | cons e t =>
    by_cases he : e = '\n'
    · subst he
      simp [Form.ofChars, Form.ofDot, Form.ofWordChar]
    · simp [he]

/-- A `u` that a quotation does not follow is left out. -/
theorem readUnicode_of_unquoted {t : Text} (h : Text.Unquoted t) :
    readUnicode t = .dropped .strayUnicodePrefix t := by
  unfold readUnicode
  split
  · exact absurd rfl (h '"' (by simp)).2.1
  · exact absurd rfl (h '\'' (by simp)).1
  · rfl

theorem Form.rule_crlf {f : Form} {t : Text} (hf : f.Opens c t.head?) (h : Text.Unquoted (c :: t))
    (ks : Keywords) : f.rule ks c (crlf t) = (f.rule ks c t).crlf := by
  obtain ⟨hc, ht⟩ := List.forall_mem_cons.1 h
  have hnext : t.head? ≠ some '\'' := fun hq => (ht _ (List.mem_of_mem_head? hq)).1 rfl
  cases f with
  | blank | bare | unexpected => rfl
  | double k =>
    have hline : c ≠ '\n' := by
      rintro rfl
      exact absurd hf.1 (by simp)
    rw [Form.rule, Form.rule, Text.drop_one_crlf hf.2 hline]
    rfl
  | quotedIdentifier => exact absurd hf hc.2.1
  | string => exact absurd hf hc.1
  | parameter | dollarQuoted => exact absurd hf.1 hc.2.2
  | lineComment =>
    rw [Form.rule, Form.rule, Text.drop_one_crlf hf.2 (by decide), Comment.readLine_crlf]
  | blockComment =>
    rw [Form.rule, Form.rule, Text.drop_one_crlf hf.2 (by decide), Comment.readBlock_crlf]
  | operator => exact Operator.rule_crlf c t
  | number => exact Number.rule_crlf c t
  | bitString form => cases form <;> exact absurd hf.2 hnext
  | escapeString => exact absurd hf.2 hnext
  | unicodeLead =>
    have ht' : Text.Unquoted (crlf t) := Text.unquoted_crlf ht
    rw [Form.rule, readUnicode_of_unquoted ht', Form.rule, readUnicode_of_unquoted ht]
    rfl
  | word => exact readWord_crlf ks c t

/-- A step that does not begin at a line feed. -/
theorem step_crlf {t : Text} (h : Text.Unquoted (c :: t)) (ks : Keywords) :
    step ks c (crlf t) = (step ks c t).crlf := by
  rw [step_eq_rule, ofChars_crlf, step_eq_rule]
  exact Form.rule_crlf (Form.opens_ofChars c t.head?) h ks

end CompactSql
