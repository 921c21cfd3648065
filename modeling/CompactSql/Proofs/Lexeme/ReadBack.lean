import CompactSql.Proofs.Lexeme.Grammar

/-!
# Lexemes are read back

The lexeme of a token, in front of something that does not go on with it, is read as that token,
whatever stood around it where it was found. Comments are left out: their lexeme has no comment
marks.

## Main definitions

* `Kind.endsBefore` — whether a lexeme of a kind ends where a given character follows it.

`exists_step` is the statement for all tokens of the language, put together from one statement for
each form of lexeme; `step_operator_of_end` is the one case in which a lexeme is not read back.
-/

namespace CompactSql

/-- Whether a lexeme of the kind ends where `next?` stands behind it. A single letter is a word in
front of a quote or `&` only if it is not the mark of a literal, so no word counts as ended there;
an operator needs a character that ends it. -/
def Kind.endsBefore : Kind → Option Char → Bool
  | keyword, next? | identifier, next? =>
    next?.all fun d => !isWordChar d && d != '\'' && d != '&'
  | string, next? => next?.all fun d => d != '\''
  | numeric, next? => next?.all fun d => !d.isDigit && d != '.' && !isLetter d
  | parameter, next? => next?.all fun d => !d.isDigit
  | operator, next? => next?.any fun d => !Operator.isRunChar d
  | dot, next? => next?.all fun d => !d.isDigit && d != '.'
  | colon, next? => next?.all fun d => d != ':'
  | _, _ => true

theorem endsBefore_space (k : Kind) : k.endsBefore (some ' ') = true := by
  have hall : ∀ k ∈ Kind.all, k.endsBefore (some ' ') = true := by decide
  exact hall k k.mem_all

theorem endsBefore_none {k : Kind} (hk : k ≠ .operator) : k.endsBefore none = true := by
  cases k <;> first | rfl | exact absurd rfl hk

section

variable {ks : Keywords} {r : Text}

theorem step_bare {k : Kind} (hk : k.isBare = true) (hr : k.endsBefore r.head? = true) :
    ∃ c, k.mark? = some [c] ∧ step ks c r = .bare k r := by
  obtain ⟨c, hc⟩ : ∃ c, k.mark? = some [c] := by
    cases k <;> grind [Kind.isBare, Kind.mark?]
  refine ⟨c, hc, step_of_opens (f := .bare k) ⟨hk, hc, ?_, ?_⟩ (by simp)⟩
  · rintro rfl
    cases hn : r.head? <;> grind [Kind.endsBefore]
  · rintro rfl
    cases hn : r.head? <;> grind [Kind.endsBefore]

@[simp] theorem endsBefore_wordKind (w : Text) (next? : Option Char) :
    (wordKind ks w).endsBefore next? = Kind.identifier.endsBefore next? := by
  unfold wordKind
  split <;> rfl

theorem step_word {c : Char} {w : Text} (hc : beginsWord c = true)
    (hw : ∀ d ∈ w, isWordChar d = true) (hr : Kind.identifier.endsBefore r.head? = true) :
    step ks c (w ++ r) = .ofText (wordKind ks (c :: w)) (c :: w) r := by
  have hend : ∀ d ∈ r.head?, isWordChar d = false ∧ d ≠ '\'' ∧ d ≠ '&' := by
    simpa [Kind.endsBefore, Option.all_eq_true, and_assoc] using hr
  have hhead : ∀ d ∈ (w ++ r).head?, d ≠ '\'' ∧ d ≠ '&' := by
    cases w with
    | nil => exact fun d hd => (hend d hd).2
    | cons e w =>
      intro d hd
      obtain rfl : e = d := by simpa using hd
      have he : isWordChar e = true := hw e List.mem_cons_self
      constructor
      · exact Text.ne_of_true_of_false he (by decide)
      · exact Text.ne_of_true_of_false he (by decide)
  have hopens : Form.word.Opens c (w ++ r).head? := by
    refine ⟨hc, ?_, ?_⟩
    · rintro ⟨-, hquote⟩
      exact (hhead _ hquote).1 rfl
    · rintro ⟨-, hand⟩
      exact (hhead _ hand).2 rfl
  rw [step_of_opens hopens (by simp)]
  exact readWord_eq_token_iff.2 ⟨w, rfl, hw, fun d hd => (hend d hd).1, rfl⟩

theorem step_parameter {d : Char} {ds : Text} (hd : d.isDigit = true)
    (hds : ∀ c ∈ ds, c.isDigit = true) (hr : Kind.parameter.endsBefore r.head? = true) :
    step ks '$' (d :: ds ++ r) = .ofText .parameter ('$' :: d :: ds) r := by
  have hend : ∀ c ∈ r.head?, c.isDigit = false := by
    simpa [Kind.endsBefore, Option.all_eq_true] using hr
  have hopens : Form.parameter.Opens '$' (d :: ds ++ r).head? := ⟨rfl, by simpa using hd⟩
  rw [step_of_opens hopens (by simp)]
  exact readParameter_eq_token_iff.2 ⟨_, rfl, List.forall_mem_cons.2 ⟨hd, hds⟩, hend, rfl⟩

/-- A run without the beginning of a comment has none in front. -/
theorem opens_operator {c : Char} {w : Text} (hc : Operator.isRunChar c = true)
    (hcomment : Operator.commentIn (c :: w) = none)
    (hr : ∀ d ∈ r.head?, Operator.isRunChar d = false) : Form.operator.Opens c (w ++ r).head? := by
  have hnot : ∀ d e, Operator.isRunChar e = true → Operator.commentIn (d :: e :: w.tail) ≠ none →
      ¬(c = d ∧ (w ++ r).head? = some e) := by
    rintro d e he hne ⟨rfl, hhead⟩
    cases w with
    | nil => exact absurd he (by rw [hr e hhead]; exact Bool.false_ne_true)
    | cons a w =>
      obtain rfl : a = e := by simpa using hhead
      exact hne hcomment
  exact ⟨hc, hnot '-' '-' (by decide) (by simp [Operator.commentIn]),
    hnot '/' '*' (by decide) (by simp [Operator.commentIn])⟩

theorem step_operator {c : Char} {w : Text} (hrun : ∀ d ∈ c :: w, Operator.isRunChar d = true)
    (hcomment : Operator.commentIn (c :: w) = none)
    (hsign : Operator.isAmbiguous (c :: w) = false) (hr : Kind.operator.endsBefore r.head? = true) :
    step ks c (w ++ r) = .ofText .operator (c :: w) r := by
  obtain ⟨d, hd, hend⟩ : ∃ d, r.head? = some d ∧ Operator.isRunChar d = false := by
    simpa [Kind.endsBefore, Option.any_eq_true] using hr
  have hall : ∀ a ∈ r.head?, Operator.isRunChar a = false := by
    intro a ha
    rw [Option.mem_def, hd, Option.some.injEq] at ha
    rwa [← ha]
  rw [List.forall_mem_cons] at hrun
  rw [step_of_opens (opens_operator hrun.1 hcomment hall) (by simp)]
  refine Operator.rule_eq_token_iff.2 ⟨w, rfl, hrun.2, hall, ?_, hcomment, hsign, rfl⟩
  rintro rfl
  simp at hd

/-- An operator with nothing behind it is left out. -/
theorem step_operator_of_end {c : Char} {w : Text}
    (hrun : ∀ d ∈ c :: w, Operator.isRunChar d = true)
    (hcomment : Operator.commentIn (c :: w) = none) :
    step ks c w = .dropped (.unterminatedOperator (c :: w)) [] := by
  rw [List.forall_mem_cons] at hrun
  have hnone : ∀ d ∈ ([] : Text).head?, Operator.isRunChar d = false := nofun
  have htake := Text.takeWhile_append_of_head hrun.2 hnone
  have hdrop := Text.dropWhile_append_of_head hrun.2 hnone
  have hopens := opens_operator hrun.1 hcomment hnone
  rw [List.append_nil] at htake hdrop hopens
  rw [step_of_opens hopens (by simp), Form.rule]
  simp only [Operator.rule, htake, hdrop, hcomment]
  rfl

theorem step_quotedIdentifier {lead b : Text} (hlead : lead = [] ∨ lead = ['u', '&'])
    (hb : '"' ∉ b) (hne : 0 < lead.length + b.length) :
    ∃ c t, lead ++ '"' :: b ++ ['"'] ++ r = c :: t ∧
      step ks c t = .ofText .quotedIdentifier (lead ++ '"' :: b ++ ['"']) r := by
  rcases hlead with rfl | rfl
  · refine ⟨'"', b ++ '"' :: r, by simp, ?_⟩
    rw [step_of_opens (f := .quotedIdentifier) rfl (by simp)]
    exact readQuotedIdentifier_eq_token_iff.2 ⟨b, rfl, hb, hne, rfl⟩
  · refine ⟨'u', '&' :: '"' :: (b ++ '"' :: r), by simp, ?_⟩
    rw [step_of_opens (f := .unicodeLead) ⟨.inl rfl, rfl⟩ (by simp)]
    exact readQuotedIdentifier_eq_token_iff.2 ⟨b, rfl, hb, hne, rfl⟩

/-- A string constant is read from its opening quote on, in whichever case its letter is written. -/
theorem exists_step_readString (ks : Keywords) {form : StringForm} {p : Text}
    (hp : p ∈ form.spellings) (u : Text) :
    ∃ c t, p ++ '\'' :: u = c :: t ∧ step ks c t = readString form u := by
  cases form with
  | plain =>
    obtain rfl := List.mem_singleton.1 hp
    exact ⟨'\'', u, rfl, step_of_opens (f := .string) rfl nofun⟩
  | escape =>
    obtain rfl | rfl : p = ['e'] ∨ p = ['E'] := by simpa [StringForm.spellings] using hp
    · exact ⟨'e', '\'' :: u, rfl, step_of_opens (f := .escapeString) ⟨.inl rfl, rfl⟩ nofun⟩
    · exact ⟨'E', '\'' :: u, rfl, step_of_opens (f := .escapeString) ⟨.inr rfl, rfl⟩ nofun⟩
  | unicode =>
    obtain rfl | rfl : p = ['u', '&'] ∨ p = ['U', '&'] := by
      simpa [StringForm.spellings] using hp
    · exact ⟨'u', '&' :: '\'' :: u, rfl, step_of_opens (f := .unicodeLead) ⟨.inl rfl, rfl⟩ nofun⟩
    · exact ⟨'U', '&' :: '\'' :: u, rfl, step_of_opens (f := .unicodeLead) ⟨.inr rfl, rfl⟩ nofun⟩

theorem step_string (form : StringForm) (s : Text) (hr : Kind.string.endsBefore r.head? = true) :
    ∃ c t, form.lead ++ '\'' :: doubled s ++ ['\''] ++ r = c :: t ∧
      step ks c t = .ofText .string (form.lead ++ '\'' :: doubled s ++ ['\'']) r := by
  have hend : ∀ c ∈ r.head?, c ≠ '\'' := by
    simpa [Kind.endsBefore, Option.all_eq_true] using hr
  obtain ⟨c, t, htext, hstep⟩ :=
    exists_step_readString ks form.lead_mem_spellings (doubled s ++ '\'' :: r)
  refine ⟨c, t, by simpa using htext, hstep.trans ?_⟩
  exact readString_eq_token_iff.2 ⟨s, rfl, hend, rfl⟩

theorem step_bitString (form : BitForm) {ds : Text} (hds : ∀ d ∈ ds, form.accepts d = true) :
    step ks form.letter ('\'' :: ds ++ ['\''] ++ r) =
      .ofText form.kind (form.letter :: '\'' :: ds ++ ['\'']) r := by
  have hopens : (Form.bitString form).Opens form.letter ('\'' :: ds ++ ['\''] ++ r).head? := by
    cases form <;> exact ⟨.inl rfl, rfl⟩
  rw [step_of_opens hopens (by simp)]
  exact readBitString_eq_token_iff.2 ⟨ds, by simp, hds, rfl⟩

theorem step_dollarQuoted {name b : Text} (hname : DollarQuotation.IsTag name)
    (hb : Text.cutAt ('$' :: name ++ ['$']) (b ++ ('$' :: name ++ ['$'])) = some (b, [])) :
    step ks '$' (name ++ ['$'] ++ b ++ ('$' :: name ++ ['$']) ++ r) =
      .ofText .string ('$' :: name ++ ['$'] ++ b ++ ('$' :: name ++ ['$'])) r := by
  have hopens : Form.dollarQuoted.Opens '$'
      (name ++ ['$'] ++ b ++ ('$' :: name ++ ['$']) ++ r).head? := by
    refine ⟨rfl, ?_⟩
    cases name with
    | nil => rfl
    | cons c w =>
      exact isDigit_eq_false_of_beginsWord (by simp [beginsWord, hname.1])
  rw [step_of_opens hopens (by simp)]
  exact DollarQuotation.rule_eq_token_iff.2 ⟨name, b, hname, by simp, hb, rfl⟩

theorem step_numeric {m e : Text} (hm : Number.IsMantissa m) (he : Number.IsExponent e)
    (hr : Kind.numeric.endsBefore r.head? = true) :
    ∃ c t, m ++ e ++ r = c :: t ∧ step ks c t = .ofText .numeric (m ++ e) r := by
  have hend : Number.Ends r := by
    simpa [Kind.endsBefore, Number.Ends, Option.all_eq_true, and_assoc] using hr
  obtain ⟨c, t, ht, hc⟩ : ∃ c t, m ++ (e ++ r) = c :: t ∧
      (c.isDigit = true ∨ c = '.' ∧ t.head?.any Char.isDigit = true) := by
    cases hm with
    | whole hd _ => exact ⟨_, _, rfl, .inl hd⟩
    | decimal hd _ _ => exact ⟨_, _, rfl, .inl hd⟩
    | fraction hd _ => exact ⟨_, _, rfl, .inr ⟨rfl, by simpa using hd⟩⟩
  refine ⟨c, t, by simpa using ht, ?_⟩
  rw [step_of_opens (f := .number) hc (by simp)]
  exact (Number.rule_eq_token_iff hc).2 ⟨m, e, hm, he, ht.symm, hend, rfl⟩

end

/-- The lexeme of a token that is no comment is read as that token, whatever stands behind it, as
long as it ends there. -/
theorem Token.Lexical.exists_step {ks : Keywords} {tok : Token} (h : tok.Lexical ks)
    (hk : tok.kind ≠ .comment) {r : Text} (hr : tok.kind.endsBefore r.head? = true) :
    ∃ c t, tok.lexeme ++ r = c :: t ∧ step ks c t = ⟨.token tok, r⟩ := by
  cases h with
  | bare hbare =>
    obtain ⟨c, hc, hstep⟩ := step_bare hbare hr
    exact ⟨c, r, by simp [lexeme, hc], hstep⟩
  | doubleDot => exact ⟨'.', '.' :: r, rfl, rfl⟩
  | doubleColon => exact ⟨':', ':' :: r, rfl, rfl⟩
  | @word c w hc hw => exact ⟨c, w ++ r, rfl, step_word hc hw (by simpa using hr)⟩
  | quotedIdentifier hlead hb hne => exact step_quotedIdentifier hlead hb hne
  | string form s => exact step_string form s hr
  | dollarQuoted hname hb => exact ⟨'$', _, by simp [lexeme], step_dollarQuoted hname hb⟩
  | numeric hm he => exact step_numeric hm he hr
  | parameter hd hds => exact ⟨'$', _, rfl, step_parameter hd hds hr⟩
  | bitString form hds => exact ⟨form.letter, _, rfl, step_bitString form hds⟩
  | @operator c w hrun hcomment hsign =>
    exact ⟨c, w ++ r, rfl, step_operator hrun hcomment hsign hr⟩
  | lineComment | blockComment => exact absurd rfl hk

end CompactSql
