import CompactSql.Proofs.Scan.Tokens

/-!
# Quoted identifiers

A quoted identifier goes up to the first quote behind its opening quote, and where there is none the
rest of the statement is lost. Two quotes alone name nothing, so they are left out. Two quotes
behind `u&` name nothing either, but they are not left out: the letter and the `&` are counted as if
they were part of a name.

## Main definitions

* `QuotedIdentifier.Reads` — the readings behind an opening quote, if a name is never empty.

## Main statements

* `readQuotedIdentifier_eq_iff` — these are the readings, unless two quotes stand behind `u&`.
* `quoted_identifier_ends_at_first_quote` — the steps at an opening quote, and the quoted
  identifiers of a statement.
-/

namespace CompactSql.QuotedIdentifier

variable {lead t : Text} {out : Reading}

/-! ## Readings -/

/-- What is read behind an opening quote, where `lead` stands before that quote and two quotes alone
name nothing. -/
inductive Reads (lead t : Text) : Reading → Prop where
  /-- A quote stands behind the opening one, with a name between them: the identifier ends at the
  first such quote. -/
  | closed {body rest : Text} (ht : t = body ++ '"' :: rest) (hbody : '"' ∉ body)
      (hname : body ≠ []) :
      Reads lead t (.ofText .quotedIdentifier (lead ++ '"' :: body ++ ['"']) rest)
  /-- A quote stands right behind the opening one. -/
  | empty {rest : Text} (ht : t = '"' :: rest) :
      Reads lead t (.dropped .emptyQuotedIdentifier rest)
  /-- No quote stands behind the opening one. -/
  | unclosed (hno : '"' ∉ t) : Reads lead t (.dropped .unterminatedQuotedIdentifier [])

theorem readQuotedIdentifier_append {body : Text} (hbody : '"' ∉ body)
    (hname : lead ≠ [] ∨ body ≠ []) (rest : Text) :
    readQuotedIdentifier lead (body ++ '"' :: rest) =
      .ofText .quotedIdentifier (lead ++ '"' :: body ++ ['"']) rest := by
  have hlen : 0 < lead.length + body.length := by
    rw [Nat.add_pos_iff_pos_or_pos, List.length_pos_iff, List.length_pos_iff]
    exact hname
  exact readQuotedIdentifier_eq_token_iff.2 ⟨body, rfl, hbody, hlen, rfl⟩

theorem readQuotedIdentifier_empty (rest : Text) :
    readQuotedIdentifier [] ('"' :: rest) = .dropped .emptyQuotedIdentifier rest := by
  rw [readQuotedIdentifier, show '"' :: rest = ['"'] ++ rest from rfl, Text.cutAt_self]
  rfl

theorem readQuotedIdentifier_of_not_mem (hno : '"' ∉ t) :
    readQuotedIdentifier lead t = .dropped .unterminatedQuotedIdentifier [] := by
  have hcut : Text.cutAt ['"'] t = none := by
    rw [Text.cutAt_eq_none_iff (List.cons_ne_nil _ _), List.singleton_infix_iff]
    exact hno
  rw [readQuotedIdentifier, hcut]

/-- Unless two quotes stand behind `u&`, an opening quote is read in one of the ways. -/
theorem reads_readQuotedIdentifier (h : lead = [] ∨ t.head? ≠ some '"') :
    Reads lead t (readQuotedIdentifier lead t) := by
  by_cases hquote : '"' ∈ t
  · obtain ⟨body, rest, rfl, hbody⟩ := List.eq_append_cons_of_mem hquote
    by_cases hname : body = []
    · subst hname
      obtain rfl : lead = [] := h.resolve_right fun hhead => hhead rfl
      rw [List.nil_append, readQuotedIdentifier_empty]
      exact .empty rfl
    · rw [readQuotedIdentifier_append hbody (.inr hname)]
      exact .closed rfl hbody hname
  · rw [readQuotedIdentifier_of_not_mem hquote]
    exact .unclosed hquote

/-- The ways exclude each other. -/
theorem Reads.eq_readQuotedIdentifier (h : lead = [] ∨ t.head? ≠ some '"')
    (hout : Reads lead t out) : out = readQuotedIdentifier lead t := by
  cases hout with
  | closed ht hbody hname => rw [ht, readQuotedIdentifier_append hbody (.inr hname)]
  | empty ht =>
    subst ht
    obtain rfl : lead = [] := h.resolve_right fun hhead => hhead rfl
    rw [readQuotedIdentifier_empty]
  | unclosed hno => rw [readQuotedIdentifier_of_not_mem hno]

theorem readQuotedIdentifier_eq_iff (h : lead = [] ∨ t.head? ≠ some '"') :
    readQuotedIdentifier lead t = out ↔ Reads lead t out := by
  constructor
  · rintro rfl
    exact reads_readQuotedIdentifier h
  · exact fun hout => (hout.eq_readQuotedIdentifier h).symm

/-- No token is made of two quotes in any of the ways. -/
theorem not_reads_empty {tok : Token} {rest r : Text} :
    ¬Reads lead ('"' :: rest) ⟨.token tok, r⟩ := by
  intro h
  cases h with
  | @closed body _ ht hbody hname =>
    obtain ⟨d, body, rfl⟩ := List.exists_cons_of_ne_nil hname
    obtain rfl : '"' = d := (List.cons.inj ht).1
    exact hbody List.mem_cons_self

/-! ## Steps and statements -/

variable {ks : Keywords} {c : Char}

theorem step_quote (ks : Keywords) (t : Text) : step ks '"' t = readQuotedIdentifier [] t :=
  step_of_opens (f := .quotedIdentifier) rfl nofun

theorem step_unicode (ks : Keywords) (hc : c = 'u' ∨ c = 'U') (t : Text) :
    step ks c ('&' :: '"' :: t) = readQuotedIdentifier ['u', '&'] t :=
  step_of_opens (f := .unicodeLead) ⟨hc, rfl⟩ nofun

/-- The characters of a token that is a quoted identifier. -/
theorem exists_of_quotedIdentifier {tok : Token} (h : tok.Lexical ks)
    (hk : tok.kind = .quotedIdentifier) :
    ∃ lead body, tok = .ofText .quotedIdentifier (lead ++ '"' :: body ++ ['"']) ∧
      (lead = [] ∨ lead = ['u', '&']) ∧ '"' ∉ body ∧ (lead = [] → body ≠ []) := by
  cases h with
  | @quotedIdentifier lead body hlead hbody hne =>
    refine ⟨lead, body, rfl, hlead, hbody, ?_⟩
    rintro rfl rfl
    exact Nat.lt_irrefl 0 hne
  | @bare k hbare =>
    obtain rfl : k = .quotedIdentifier := hk
    cases hbare
  | word => exact absurd hk (Token.wordKind_ne rfl _)
  | bitString form => cases form <;> cases hk
  | _ => cases hk

/-- At an opening quote a quoted identifier is read up to the first quote behind it, if a name
stands between the two; two quotes alone are left out, and without a second quote so is all the
rest. Behind `u&` the same holds unless the two quotes stand side by side: then a token is made of
them, although they name nothing. So a quoted identifier of a statement has no quote but those
around it, and no empty name unless it begins with `u&`. -/
theorem quoted_identifier_ends_at_first_quote (ks : Keywords) :
    (∀ t out, step ks '"' t = out ↔ Reads [] t out) ∧
    (∀ c ∈ ['u', 'U'], ∀ t, t.head? ≠ some '"' →
      ∀ out, step ks c ('&' :: '"' :: t) = out ↔ Reads ['u', '&'] t out) ∧
    (∀ c ∈ ['u', 'U'], ∀ rest,
      step ks c ('&' :: '"' :: '"' :: rest) =
          .ofText .quotedIdentifier ['u', '&', '"', '"'] rest ∧
        ¬Reads ['u', '&'] ('"' :: rest) (step ks c ('&' :: '"' :: '"' :: rest))) ∧
    ∀ t, ∀ tok ∈ scan ks t, tok.kind = .quotedIdentifier →
      ∃ lead body, tok = .ofText .quotedIdentifier (lead ++ '"' :: body ++ ['"']) ∧
        (lead = [] ∨ lead = ['u', '&']) ∧ '"' ∉ body ∧ (lead = [] → body ≠ []) := by
  refine ⟨fun t out => ?_, fun c hc t ht out => ?_, fun c hc rest => ?_, fun t tok htok => ?_⟩
  · rw [step_quote, readQuotedIdentifier_eq_iff (.inl rfl)]
  · rw [step_unicode ks (by simpa using hc), readQuotedIdentifier_eq_iff (.inr ht)]
  · have hstep : step ks c ('&' :: '"' :: '"' :: rest) =
        .ofText .quotedIdentifier ['u', '&', '"', '"'] rest := by
      rw [step_unicode ks (by simpa using hc)]
      exact @readQuotedIdentifier_append _ [] List.not_mem_nil (.inl (List.cons_ne_nil _ _)) rest
    exact ⟨hstep, hstep ▸ not_reads_empty⟩
  · exact exists_of_quotedIdentifier (lexical_of_mem_scan tok htok)

/-- A name with a quote in it, two quotes behind `U&`, and a quoted identifier of a statement. -/
theorem quoted_identifier_ends_at_first_quote_unicode :
    ('U' ∈ ['u', 'U'] ∧ "a\"b\"".toList.head? ≠ some '"' ∧
      Reads ['u', '&'] "a\"b\"".toList (.ofText .quotedIdentifier "u&\"a\"".toList "b\"".toList)) ∧
    step .empty 'U' "&\"\"x".toList = .ofText .quotedIdentifier "u&\"\"".toList ['x'] ∧
    .ofText .quotedIdentifier "\"A\"".toList ∈ scan .empty "\"\"\"A\"".toList ∧
    ∃ lead body, Token.ofText .quotedIdentifier "\"A\"".toList =
        .ofText .quotedIdentifier (lead ++ '"' :: body ++ ['"']) ∧
      (lead = [] ∨ lead = ['u', '&']) ∧ '"' ∉ body ∧ (lead = [] → body ≠ []) := by
  obtain ⟨-, hname, hempty, hscan⟩ := quoted_identifier_ends_at_first_quote .empty
  have hmem : .ofText .quotedIdentifier "\"A\"".toList ∈ scan .empty "\"\"\"A\"".toList := by
    decide +kernel
  refine ⟨⟨by decide, by decide, ?_⟩, ?_, hmem, hscan _ _ hmem rfl⟩
  · exact (hname 'U' (by decide) "a\"b\"".toList (by decide) _).1 (by decide +kernel)
  · exact (hempty 'U' (by decide) ['x']).1

end CompactSql.QuotedIdentifier
