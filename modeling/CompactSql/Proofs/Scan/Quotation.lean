import CompactSql.Proofs.Lexeme.ReadBack
import CompactSql.Proofs.Scan.Tokens

/-!
# String constants

In a string constant a quote is written twice, so every text has one string constant in each form,
and the constant ends at the first quote that is not one of a pair. Where there is no such quote,
the rest of the statement is lost.

## Main definitions

* `HasUnpairedQuote` — whether a text holds a quote that is not one of a pair.

## Main statements

* `stringBody_eq_none_iff` — a string constant is not closed exactly if no unpaired quote stands
  behind its opening quote.
* `scan_doubled` — a text with its quotes doubled is found again, in front of any other text.
* `existsUnique_of_string` — a string constant comes from one text.
* `quote_doubling_round_trips` — both, and what becomes of a constant that is not closed.
-/

namespace CompactSql

variable {ks : Keywords} {form : StringForm} {p s t r u before : Text} {c q : Char}

/-! ## Unpaired quotes -/

/-- Whether a quote is left over when the quotes that stand side by side are taken in pairs: an odd
number of them stands between characters that are no quotes, or the ends of the text. -/
def HasUnpairedQuote (t : Text) : Prop :=
  ∃ before n behind, t = before ++ List.replicate n '\'' ++ behind ∧ n % 2 = 1 ∧
    before.getLast? ≠ some '\'' ∧ behind.head? ≠ some '\''

theorem getLast?_ne_of_cons (h : (c :: before).getLast? ≠ some q) : before.getLast? ≠ some q := by
  intro hlast
  apply h
  rw [List.getLast?_cons, hlast]
  rfl

theorem getLast?_cons_ne (hc : c ≠ q) (h : before.getLast? ≠ some q) :
    (c :: before).getLast? ≠ some q := by
  cases before with
  | nil => simpa using hc
  | cons d before => simpa using h

theorem not_hasUnpairedQuote_nil : ¬HasUnpairedQuote [] := by
  rintro ⟨before, n, behind, heq, hn, -⟩
  obtain ⟨-, rfl, -⟩ : before = [] ∧ n = 0 ∧ behind = [] := by simpa using heq
  cases hn

theorem hasUnpairedQuote_lone (h : t.head? ≠ some '\'') : HasUnpairedQuote ('\'' :: t) :=
  ⟨[], 1, t, rfl, rfl, nofun, h⟩

theorem hasUnpairedQuote_cons_iff (hc : c ≠ '\'') :
    HasUnpairedQuote (c :: t) ↔ HasUnpairedQuote t := by
  constructor
  · rintro ⟨before, n, behind, heq, hn, hbefore, hbehind⟩
    cases before with
    | nil =>
      cases n with
      | zero => cases hn
      | succ n => exact absurd (List.cons.inj heq).1 hc
    | cons d before =>
      exact ⟨before, n, behind, (List.cons.inj heq).2, hn, getLast?_ne_of_cons hbefore, hbehind⟩
  · rintro ⟨before, n, behind, rfl, hn, hbefore, hbehind⟩
    exact ⟨c :: before, n, behind, rfl, hn, getLast?_cons_ne hc hbefore, hbehind⟩

/-- Two quotes in front are a pair of their own. -/
theorem hasUnpairedQuote_pair_iff :
    HasUnpairedQuote ('\'' :: '\'' :: t) ↔ HasUnpairedQuote t := by
  constructor
  · rintro ⟨before, n, behind, heq, hn, hbefore, hbehind⟩
    match before, n with
    | [], 1 =>
      obtain rfl : '\'' :: t = behind := (List.cons.inj heq).2
      exact absurd rfl hbehind
    | [], n + 2 =>
      have ht := (List.cons.inj (List.cons.inj heq).2).2
      exact ⟨[], n, behind, ht, by omega, nofun, hbehind⟩
    | [d], n =>
      obtain rfl : '\'' = d := (List.cons.inj heq).1
      exact absurd rfl hbefore
    | d :: e :: before, n =>
      have ht := (List.cons.inj (List.cons.inj heq).2).2
      have hlast := getLast?_ne_of_cons (getLast?_ne_of_cons hbefore)
      exact ⟨before, n, behind, ht, hn, hlast, hbehind⟩
  · rintro ⟨before, n, behind, rfl, hn, hbefore, hbehind⟩
    cases before with
    | nil => exact ⟨[], n + 2, behind, rfl, by omega, nofun, hbehind⟩
    | cons d before =>
      have hlast : ('\'' :: '\'' :: d :: before).getLast? ≠ some '\'' := by simpa using hbefore
      exact ⟨'\'' :: '\'' :: d :: before, n, behind, rfl, hn, hlast, hbehind⟩

/-- A string constant is closed by an unpaired quote, and by no other. -/
theorem stringBody_eq_none_iff : stringBody t = none ↔ ¬HasUnpairedQuote t := by
  fun_induction stringBody t with
  | case1 t ih => rw [Option.map_eq_none_iff, ih, hasUnpairedQuote_pair_iff]
  | case2 t hnot =>
    have hlone : t.head? ≠ some '\'' := by
      intro hhead
      obtain ⟨r, rfl⟩ := List.head?_eq_some_iff.1 hhead
      exact hnot r rfl
    simp [hasUnpairedQuote_lone hlone]
  | case3 c t _ hc ih => rw [Option.map_eq_none_iff, ih, hasUnpairedQuote_cons_iff hc]
  | case4 => simp [not_hasUnpairedQuote_nil]

/-! ## String constants in a statement -/

/-- A text with its quotes doubled is found again. -/
theorem scan_doubled (hp : p ∈ form.spellings) (s : Text) (hr : r.head? ≠ some '\'') :
    scan ks (p ++ '\'' :: doubled s ++ '\'' :: r) =
      .ofText .string (p.map Char.toLower ++ '\'' :: doubled s ++ ['\'']) :: scan ks r := by
  obtain ⟨c, t, htext, hstep⟩ := exists_step_readString ks hp (doubled s ++ '\'' :: r)
  have hend : ∀ c ∈ r.head?, c ≠ '\'' := by
    rintro c hc rfl
    exact hr hc
  rw [readString_eq_token_iff.2 ⟨s, rfl, hend, rfl⟩] at hstep
  rw [List.append_assoc, List.cons_append, htext, form.map_toLower_of_mem_spellings hp]
  exact scan_of_token hstep nofun

/-- A constant that is not closed takes the rest of the statement with it. -/
theorem pieces_of_not_hasUnpairedQuote (hp : p ∈ form.spellings) (hu : ¬HasUnpairedQuote u) :
    pieces ks (p ++ '\'' :: u) = [⟨p ++ '\'' :: u, .dropped .unterminatedString⟩] := by
  obtain ⟨c, t, htext, hstep⟩ := exists_step_readString ks hp u
  rw [readString, stringBody_eq_none_iff.2 hu, ← List.append_nil t] at hstep
  rw [htext, ← List.append_nil t, pieces_of_step hstep]
  simp [Outcome.isTerminator]

/-- A string constant comes from one text. -/
theorem existsUnique_of_string {tok : Token} (h : tok.Lexical ks) (hk : tok.kind = .string)
    (hdollar : tok.lexeme.head? ≠ some '$') :
    ∃! s, ∃ form : StringForm,
      tok = .ofText .string (form.lead ++ '\'' :: doubled s ++ ['\'']) := by
  obtain ⟨form, s, rfl⟩ := (h.exists_of_string hk).resolve_right hdollar
  refine ⟨s, ⟨form, rfl⟩, ?_⟩
  rintro s' ⟨form', heq⟩
  have hbody : form.lead ++ '\'' :: doubled s = form'.lead ++ '\'' :: doubled s' :=
    List.append_cancel_right (Option.some.inj (congrArg Token.text? heq))
  -- The forms begin with different characters, so both texts are of the same form.
  apply doubled_injective
  cases form <;> cases form' <;> simp_all [StringForm.lead]

/-- Doubling the quotes of a text is undone by a scan. The text between quotes, with its own quotes
doubled, is one string constant in front of all that does not begin with a quote; every string
constant is made of one text in this way; and an opening quote with no unpaired quote behind it
makes no token, and nothing is left of the statement. -/
theorem quote_doubling_round_trips (ks : Keywords) :
    (∀ (form : StringForm) (p s r : Text), p ∈ form.spellings → r.head? ≠ some '\'' →
      scan ks (p ++ '\'' :: doubled s ++ '\'' :: r) =
        .ofText .string (p.map Char.toLower ++ '\'' :: doubled s ++ ['\'']) :: scan ks r) ∧
    (∀ (t : Text), ∀ tok ∈ scan ks t, tok.kind = .string → tok.lexeme.head? ≠ some '$' →
      ∃! s, ∃ form : StringForm,
        tok = .ofText .string (form.lead ++ '\'' :: doubled s ++ ['\''])) ∧
    ∀ (form : StringForm) (p u : Text), p ∈ form.spellings → ¬HasUnpairedQuote u →
      pieces ks (p ++ '\'' :: u) = [⟨p ++ '\'' :: u, .dropped .unterminatedString⟩] :=
  ⟨fun _ _ s _ hp hr => scan_doubled hp s hr,
    fun _ tok htok => existsUnique_of_string (lexical_of_mem_scan tok htok),
    fun _ _ _ => pieces_of_not_hasUnpairedQuote⟩

/-- A constant that ends in a quote of its own, and one whose closing quote is taken for a part of a
pair. -/
theorem quote_doubling_round_trips_escape :
    (['E'] ∈ StringForm.escape.spellings ∧ ";".toList.head? ≠ some '\'' ∧
      scan .empty "E'a''';".toList =
        .ofText .string "e'a'''".toList :: scan .empty ";".toList) ∧
    (.ofText .string "u&''''".toList ∈ scan .empty "U&''''+".toList ∧
      (Token.ofText .string "u&''''".toList).lexeme.head? ≠ some '$' ∧
      ∃! s, ∃ form : StringForm,
        .ofText .string "u&''''".toList =
          Token.ofText .string (form.lead ++ '\'' :: doubled s ++ ['\''])) ∧
    [] ∈ StringForm.plain.spellings ∧ ¬HasUnpairedQuote "a'';".toList ∧
      pieces .empty "'a'';".toList = [⟨"'a'';".toList, .dropped .unterminatedString⟩] := by
  obtain ⟨hround, hunique, hopen⟩ := quote_doubling_round_trips .empty
  have hmem : .ofText .string "u&''''".toList ∈ scan .empty "U&''''+".toList := by
    decide +kernel
  have hunpaired : ¬HasUnpairedQuote "a'';".toList := stringBody_eq_none_iff.1 rfl
  refine ⟨⟨by decide, by decide, ?_⟩, ⟨hmem, by decide, ?_⟩, by decide, hunpaired, ?_⟩
  · exact hround .escape ['E'] "a'".toList ";".toList (by decide) (by decide)
  · exact hunique _ _ hmem rfl (by decide)
  · exact hopen .plain [] "a'';".toList (by decide) hunpaired

end CompactSql
