import CompactSql.Proofs.Lexeme.Rule

/-!
# Dollar-quoted strings

A dollar-quoted string ends at the first place where its delimiter stands again. Which texts are
read in this way and what is left out of all others is said here without the readers.

## Main definitions

* `DollarQuotation.Reads` — the readings of texts behind a `$`, by the tag and what follows it.

## Main statements

* `reads_rule`, `Reads.eq_rule` — every text has one reading.
* `rule_eq_token_iff` — the texts from which a string is read.
* `dollar_quote_closes_at_first_delimiter` — the readings for a step of the scan.
-/

namespace CompactSql.DollarQuotation

variable {name r t : Text}

/-! ## Readings -/

/-- What is read behind a `$`. -/
inductive Reads : Text → Reading → Prop where
  /-- The delimiter stands again: the string ends where it does so first. -/
  | closed {name after body rest : Text} (hname : IsTag name)
      (hfirst : Text.FirstAt (delimiter name) after body rest) :
      Reads (name ++ '$' :: after)
        (.ofText .string (delimiter name ++ body ++ delimiter name) rest)
  /-- The delimiter does not stand again. -/
  | unclosed {name after : Text} (hname : IsTag name) (hno : ¬delimiter name <:+: after) :
      Reads (name ++ '$' :: after) (.dropped .unterminatedDollarQuote [])
  /-- The text ends inside the first delimiter. -/
  | unfinished {name : Text} (hname : IsTag name) :
      Reads name (.dropped .unterminatedDollarQuote [])
  /-- The character `c` cannot go on with the first delimiter. -/
  | broken {name rest : Text} {c : Char} (hname : IsTag name) (hdollar : c ≠ '$')
      (hend : ¬IsTag (name ++ [c])) :
      Reads (name ++ c :: rest) (.dropped .unterminatedDollarQuote rest)

theorem rule_of_isTag (h : IsTag name) : rule name = .dropped .unterminatedDollarQuote [] := by
  have htag : tag name = (name, []) :=
    tag_eq_iff.2 ⟨(List.append_nil name).symm, h, fun c hc => by cases hc⟩
  rw [rule, htag]

theorem rule_of_not_isTag {c : Char} (h : IsTag name) (hc : c ≠ '$') (hend : ¬IsTag (name ++ [c])) :
    rule (name ++ c :: r) = .dropped .unterminatedDollarQuote r := by
  have htag : tag (name ++ c :: r) = (name, c :: r) :=
    tag_eq_iff.2 ⟨rfl, h, fun d hd => by cases hd; exact hend⟩
  simp only [rule, htag, if_neg hc]

theorem rule_of_dollar (h : IsTag name) (r : Text) :
    rule (name ++ '$' :: r) =
      match Text.cutAt (delimiter name) r with
      | some (body, rest) => .ofText .string (delimiter name ++ body ++ delimiter name) rest
      | none => .dropped .unterminatedDollarQuote [] := by
  simp only [rule, tag_of_dollar h, if_pos]
  rfl

/-- Every text is read in one of the ways. -/
theorem reads_rule (t : Text) : Reads t (rule t) := by
  obtain ⟨name, behind, htag⟩ : ∃ name behind, tag t = (name, behind) := ⟨_, _, rfl⟩
  obtain ⟨rfl, hname, hend⟩ := tag_eq_iff.1 htag
  cases behind with
  | nil =>
    rw [List.append_nil, rule_of_isTag hname]
    exact .unfinished hname
  | cons c r =>
    by_cases hc : c = '$'
    · subst hc
      rw [rule_of_dollar hname]
      cases hcut : Text.cutAt (delimiter name) r with
      | none => exact .unclosed hname ((Text.cutAt_eq_none_iff delimiter_ne_nil).1 hcut)
      | some p => exact .closed hname (Text.firstAt_of_cutAt hcut)
    · rw [rule_of_not_isTag hname hc (hend c rfl)]
      exact .broken hname hc (hend c rfl)

/-- The ways exclude each other. -/
theorem Reads.eq_rule {out : Reading} (h : Reads t out) : out = rule t := by
  cases h with
  | closed hname hfirst =>
    rw [rule_of_dollar hname, (Text.cutAt_eq_some_iff delimiter_ne_nil).2 hfirst]
  | unclosed hname hno =>
    rw [rule_of_dollar hname, (Text.cutAt_eq_none_iff delimiter_ne_nil).2 hno]
  | unfinished hname => exact (rule_of_isTag hname).symm
  | broken hname hdollar hend => exact (rule_of_not_isTag hname hdollar hend).symm

/-! ## Tokens and steps -/

theorem rule_eq_token_iff {tok : Token} :
    rule t = ⟨.token tok, r⟩ ↔
      ∃ name b, IsTag name ∧ t = name ++ '$' :: (b ++ ('$' :: name ++ ['$']) ++ r) ∧
        Text.cutAt ('$' :: name ++ ['$']) (b ++ ('$' :: name ++ ['$'])) = some (b, []) ∧
        tok = .ofText .string ('$' :: name ++ ['$'] ++ b ++ ('$' :: name ++ ['$'])) := by
  constructor
  · intro h
    have hreads := reads_rule t
    rw [h] at hreads
    cases hreads with
    | @closed name after body _ hname hfirst =>
      have hcut := (Text.cutAt_eq_some_iff delimiter_ne_nil).2 hfirst
      refine ⟨name, body, hname, ?_, ?_, rfl⟩
      · rw [hfirst.append_eq]
        rfl
      · simpa [delimiter] using Text.cutAt_append hcut []
  · rintro ⟨name, b, hname, rfl, hcut, rfl⟩
    rw [rule_of_dollar hname, delimiter, Text.cutAt_append hcut r]
    rfl

/-- A `$` with no digit behind it begins a string if a delimiter stands there and stands again; the
string goes up to the first place where it does. Otherwise nothing is made of the text, up to the
character that breaks the delimiter off or, where there is none, to the end. -/
theorem dollar_quote_closes_at_first_delimiter (ks : Keywords) (t : Text)
    (ht : t.head?.any Char.isDigit = false) (out : Reading) :
    step ks '$' t = out ↔ Reads t out := by
  have hstep : step ks '$' t = rule t := step_of_opens (f := .dollarQuoted) ⟨rfl, ht⟩ (by simp)
  rw [hstep]
  constructor
  · rintro rfl
    exact reads_rule t
  · exact fun h => h.eq_rule.symm

/-- Parts of the delimiter inside the string do not end it. -/
theorem dollar_quote_closes_at_first_delimiter_tagged :
    "a$ $a $$a$;".toList.head?.any Char.isDigit = false ∧
      Reads "a$ $a $$a$;".toList (.ofText .string "$a$ $a $$a$".toList [';']) :=
  ⟨by decide,
    (dollar_quote_closes_at_first_delimiter .reserved _ (by decide) _).1 (by decide +kernel)⟩

end CompactSql.DollarQuotation
