import CompactSql.Layout
import CompactSql.Proofs.Lexeme.DollarQuotation
import CompactSql.Proofs.Lexeme.Rule
import CompactSql.Proofs.Lexeme.Quotation
import CompactSql.Proofs.Lexeme.Run

/-!
# The tokens of the language

Which tokens a scan can yield, said without the scan.

## Main definitions

* `Token.Lexical` — the tokens of the language with a given keyword set.

`lexical_of_step` says that a step yields no other tokens; `eq_of_mark?` and `exists_of_operator`
say what is known of a token from its kind.
-/

namespace CompactSql

/-! ## Tokens -/

/-- The tokens of the language. A text of more than one part is that of a delimited lexeme. -/
inductive Token.Lexical (ks : Keywords) : Token → Prop where
  | bare {k : Kind} (hk : k.isBare = true) : Lexical ks (.bare k)
  | doubleDot : Lexical ks (.ofText .doubleDot ['.', '.'])
  | doubleColon : Lexical ks (.ofText .doubleColon [':', ':'])
  | word {c : Char} {w : Text} (hc : beginsWord c = true) (hw : ∀ d ∈ w, isWordChar d = true) :
    Lexical ks (.ofText (wordKind ks (c :: w)) (c :: w))
  | quotedIdentifier {lead b : Text} (hlead : lead = [] ∨ lead = ['u', '&']) (hb : '"' ∉ b)
    (hne : 0 < lead.length + b.length) :
    Lexical ks (.ofText .quotedIdentifier (lead ++ '"' :: b ++ ['"']))
  | string (form : StringForm) (s : Text) :
    Lexical ks (.ofText .string (form.lead ++ '\'' :: doubled s ++ ['\'']))
  | dollarQuoted {name b : Text} (hname : DollarQuotation.IsTag name)
    (hb : Text.cutAt ('$' :: name ++ ['$']) (b ++ ('$' :: name ++ ['$'])) = some (b, [])) :
    Lexical ks (.ofText .string ('$' :: name ++ ['$'] ++ b ++ ('$' :: name ++ ['$'])))
  | numeric {m e : Text} (hm : Number.IsMantissa m) (he : Number.IsExponent e) :
    Lexical ks (.ofText .numeric (m ++ e))
  | parameter {d : Char} {ds : Text} (hd : d.isDigit = true) (hds : ∀ c ∈ ds, c.isDigit = true) :
    Lexical ks (.ofText .parameter ('$' :: d :: ds))
  | bitString (form : BitForm) {ds : Text} (hds : ∀ d ∈ ds, form.accepts d = true) :
    Lexical ks (.ofText form.kind (form.letter :: '\'' :: ds ++ ['\'']))
  | operator {c : Char} {w : Text} (hrun : ∀ d ∈ c :: w, Operator.isRunChar d = true)
    (hcomment : Operator.commentIn (c :: w) = none)
    (hsign : Operator.isAmbiguous (c :: w) = false) :
    Lexical ks (.ofText .operator (c :: w))
  | lineComment {b : Text} (hb : '\n' ∉ b) : Lexical ks (.ofText .comment (Comment.foldLine b))
  | blockComment {b : Text} (hb : Text.cutAt ['*', '/'] (b ++ ['*', '/']) = some (b, [])) :
    Lexical ks (.ofText .comment (Comment.foldBlock b))

theorem Kind.isWord_iff {k : Kind} : k.isWord = true ↔ k = .keyword ∨ k = .identifier := by
  cases k <;> simp [isWord]

namespace Token

theorem lexical_of_readLine {ks : Keywords} {t r : Text} {tok : Token}
    (h : Comment.readLine t = ⟨.token tok, r⟩) : tok.Lexical ks := by
  cases h
  apply Lexical.lineComment
  intro hmem
  exact absurd (List.mem_takeWhile_imp hmem) (by decide)

theorem lexical_of_readBlock {ks : Keywords} {t r : Text} {tok : Token}
    (h : Comment.readBlock t = ⟨.token tok, r⟩) : tok.Lexical ks := by
  unfold Comment.readBlock at h
  split at h
  · rename_i hcut
    cases h
    exact .blockComment (by simpa using Text.cutAt_append hcut [])
  · cases h

theorem lexical_of_readUnicode {ks : Keywords} {t r : Text} {tok : Token}
    (h : readUnicode t = ⟨.token tok, r⟩) : tok.Lexical ks := by
  unfold readUnicode at h
  split at h
  · obtain ⟨b, -, hb, hne, rfl⟩ := readQuotedIdentifier_eq_token_iff.1 h
    exact .quotedIdentifier (.inr rfl) hb hne
  · obtain ⟨s, -, -, rfl⟩ := readString_eq_token_iff.1 h
    exact .string .unicode s
  · cases h

theorem lexical_of_operatorRule {ks : Keywords} {c : Char} {t r : Text} {tok : Token}
    (hc : Operator.isRunChar c = true) (h : Operator.rule c t = ⟨.token tok, r⟩) :
    tok.Lexical ks := by
  obtain ⟨w, -, hw, -, -, hcomment, hsign, rfl⟩ := Operator.rule_eq_token_iff.1 h
  exact .operator (List.forall_mem_cons.2 ⟨hc, hw⟩) hcomment hsign

/-- The token of a step is a token of the language. -/
theorem lexical_of_step {ks : Keywords} {c : Char} {t r : Text} {tok : Token}
    (h : step ks c t = ⟨.token tok, r⟩) : tok.Lexical ks := by
  have hopens := Form.opens_ofChars c t.head?
  rw [step_eq_rule] at h
  cases hf : Form.ofChars c t.head? with rw [hf] at h hopens
  | blank | unexpected => cases h
  | bare k =>
    cases h
    exact .bare hopens.1
  | double k =>
    cases h
    obtain ⟨⟨rfl, rfl⟩ | ⟨rfl, rfl⟩, -⟩ := hopens
    · exact .doubleDot
    · exact .doubleColon
  | quotedIdentifier =>
    obtain ⟨b, -, hb, hne, rfl⟩ := readQuotedIdentifier_eq_token_iff.1 h
    exact .quotedIdentifier (.inl rfl) hb hne
  | string =>
    obtain ⟨s, -, -, rfl⟩ := readString_eq_token_iff.1 h
    exact .string .plain s
  | escapeString =>
    obtain ⟨s, -, -, rfl⟩ := readString_eq_token_iff.1 h
    exact .string .escape s
  | parameter =>
    obtain ⟨ds, rfl, hds, hr, rfl⟩ := readParameter_eq_token_iff.1 h
    cases ds with
    | nil => exact Bool.noConfusion (hopens.2.symm.trans (Text.any_head_eq_false hr))
    | cons e ds =>
      rw [List.forall_mem_cons] at hds
      exact .parameter hds.1 hds.2
  | dollarQuoted =>
    obtain ⟨name, b, hname, -, hb, rfl⟩ := DollarQuotation.rule_eq_token_iff.1 h
    exact .dollarQuoted hname hb
  | lineComment => exact lexical_of_readLine h
  | blockComment => exact lexical_of_readBlock h
  | operator => exact lexical_of_operatorRule hopens.1 h
  | number =>
    obtain ⟨m, e, hm, he, -, -, rfl⟩ := (Number.rule_eq_token_iff hopens).1 h
    exact .numeric hm he
  | bitString form =>
    obtain ⟨ds, -, hds, rfl⟩ := readBitString_eq_token_iff.1 h
    exact .bitString form hds
  | unicodeLead => exact lexical_of_readUnicode h
  | word =>
    obtain ⟨w, -, hw, -, rfl⟩ := readWord_eq_token_iff.1 h
    exact .word hopens.1 hw

/-! ## Tokens of a kind -/

theorem isWord_wordKind (ks : Keywords) (w : Text) : (wordKind ks w).isWord = true := by
  unfold wordKind
  split <;> rfl

theorem wordKind_ne {ks : Keywords} {k : Kind} (hk : k.isWord = false) (w : Text) :
    wordKind ks w ≠ k := by
  rintro rfl
  exact Bool.noConfusion (hk.symm.trans (isWord_wordKind ks w))

/-- The characters of a token that is a word. -/
theorem Lexical.exists_of_isWord {ks : Keywords} {tok : Token} (h : tok.Lexical ks)
    (hk : tok.kind.isWord = true) :
    ∃ c w, tok = .ofText (wordKind ks (c :: w)) (c :: w) ∧ beginsWord c = true ∧
      ∀ d ∈ w, isWordChar d = true := by
  cases h with
  | word hc hw => exact ⟨_, _, rfl, hc, hw⟩
  | @bare k hbare => cases k <;> grind [Kind.isBare, Kind.isWord, Token.bare]
  | bitString form => cases form <;> cases hk
  | _ => cases hk

/-- A token of the language that has a mark is known from its kind. -/
theorem Lexical.eq_of_mark? {ks : Keywords} {tok : Token} {m : Text} (h : tok.Lexical ks)
    (hm : tok.kind.mark? = some m) :
    tok = ⟨tok.kind, if tok.kind.isBare then none else some m⟩ := by
  cases h with
  | @bare k hk => simp [Token.bare, hk]
  | doubleDot | doubleColon => cases hm; rfl
  | word =>
    unfold wordKind at hm
    split at hm <;> cases hm
  | bitString form => cases form <;> cases hm
  | _ => cases hm

/-- The run of a token that is an operator. -/
theorem Lexical.exists_of_operator {ks : Keywords} {tok : Token} (h : tok.Lexical ks)
    (hk : tok.kind = .operator) :
    ∃ c w, tok = .ofText .operator (c :: w) ∧ (∀ d ∈ c :: w, Operator.isRunChar d = true) ∧
      Operator.commentIn (c :: w) = none := by
  cases h with
  | operator hrun hcomment _ => exact ⟨_, _, rfl, hrun, hcomment⟩
  | @bare k hbare =>
    obtain rfl : k = .operator := hk
    cases hbare
  | word => exact absurd hk (wordKind_ne rfl _)
  | bitString form => cases form <;> cases hk
  | _ => cases hk

/-- The characters of a token that is a string: it is a string constant, or begins with `$`. -/
theorem Lexical.exists_of_string {ks : Keywords} {tok : Token} (h : tok.Lexical ks)
    (hk : tok.kind = .string) :
    (∃ (form : StringForm) (s : Text),
      tok = .ofText .string (form.lead ++ '\'' :: doubled s ++ ['\''])) ∨
    tok.lexeme.head? = some '$' := by
  cases h with
  | string form s => exact .inl ⟨form, s, rfl⟩
  | dollarQuoted => exact .inr rfl
  | @bare k hbare =>
    obtain rfl : k = .string := hk
    cases hbare
  | word => exact absurd hk (wordKind_ne rfl _)
  | bitString form => cases form <;> cases hk
  | _ => cases hk

end Token

end CompactSql
