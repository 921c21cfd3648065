import CompactSql.Lexeme.Quotation
import CompactSql.Proofs.Text.Cut

/-!
# Quoted lexemes, read and written

For every quoted form the texts from which it reads a token, with the token and what is left. Each
statement goes both ways: it says what a token of the form looks like, and that such a lexeme is
read again in front of any other text.

## Main definitions

* `doubled` — a text with every quote written twice, as it stands in a string constant.
* `StringForm.spellings` — the ways to write what stands before the opening quote of a string
  constant.
-/

namespace CompactSql

/-! ## String constants -/

/-- The text with every quote written twice. -/
def doubled : Text → Text
  | [] => []
  | c :: s => if c = '\'' then '\'' :: '\'' :: doubled s else c :: doubled s

theorem stringBody_doubled (s : Text) {r : Text} (hr : ∀ c ∈ r.head?, c ≠ '\'') :
    stringBody (doubled s ++ '\'' :: r) = some (doubled s, r) := by
  induction s with
  | nil =>
    cases r with
    | nil => rfl
    | cons c r =>
      have hc : c ≠ '\'' := hr c rfl
      simp [doubled, stringBody, hc]
  | cons c s ih =>
    by_cases hc : c = '\''
    · simp [doubled, stringBody, hc, ih]
    · simp [doubled, stringBody, hc, ih]

theorem eq_doubled_of_stringBody {t b r : Text} (h : stringBody t = some (b, r)) :
    ∃ s, b = doubled s ∧ t = doubled s ++ '\'' :: r ∧ ∀ c ∈ r.head?, c ≠ '\'' := by
  fun_induction stringBody t generalizing b with
  | case1 t ih =>
    obtain ⟨b₀, hb, rfl⟩ := Text.exists_of_map_before (f := fun b => '\'' :: '\'' :: b) h
    obtain ⟨s, rfl, rfl, hr⟩ := ih hb
    exact ⟨'\'' :: s, by simp [doubled], by simp [doubled], hr⟩
  | case2 t hnot =>
    simp only [Option.some.injEq, Prod.mk.injEq] at h
    obtain ⟨rfl, rfl⟩ := h
    refine ⟨[], rfl, rfl, ?_⟩
    intro c hc heq
    cases t with
    | nil => simp at hc
    | cons d t =>
      obtain rfl : d = c := by simpa using hc
      apply hnot t
      rw [heq]
  | case3 c t hnot hc ih =>
    obtain ⟨b₀, hb, rfl⟩ := Text.exists_of_map_before h
    obtain ⟨s, rfl, rfl, hr⟩ := ih hb
    have hne : c ≠ '\'' := hc
    exact ⟨c :: s, by simp [doubled, hne], by simp [doubled, hne], hr⟩
  | case4 => simp at h

/-- A text is known from its quotes written twice. -/
theorem doubled_injective : Function.Injective doubled := by
  intro s s' h
  induction s generalizing s' with
  | nil => cases s' <;> grind [doubled]
  | cons c s ih => cases s' <;> grind [doubled]

/-- The ways in which what stands before the opening quote may be written. -/
def StringForm.spellings : StringForm → List Text
  | plain => [[]]
  | escape => [['e'], ['E']]
  | unicode => [['u', '&'], ['U', '&']]

theorem StringForm.lead_mem_spellings (form : StringForm) : form.lead ∈ form.spellings := by
  cases form <;> decide

theorem StringForm.map_toLower_of_mem_spellings {form : StringForm} {p : Text}
    (hp : p ∈ form.spellings) : p.map Char.toLower = form.lead := by
  revert p
  cases form <;> decide

theorem readString_eq_token_iff {form : StringForm} {t r : Text} {tok : Token} :
    readString form t = ⟨.token tok, r⟩ ↔
      ∃ s, t = doubled s ++ '\'' :: r ∧ (∀ c ∈ r.head?, c ≠ '\'') ∧
        tok = .ofText .string (form.lead ++ '\'' :: doubled s ++ ['\'']) := by
  constructor
  · intro h
    unfold readString at h
    split at h
    · rename_i b r₀ hb
      cases h
      obtain ⟨s, rfl, ht, hr⟩ := eq_doubled_of_stringBody hb
      exact ⟨s, ht, hr, rfl⟩
    · cases h
  · rintro ⟨s, rfl, hr, rfl⟩
    rw [readString, stringBody_doubled s hr]
    rfl

/-! ## Quoted identifiers -/

theorem readQuotedIdentifier_eq_token_iff {lead t r : Text} {tok : Token} :
    readQuotedIdentifier lead t = ⟨.token tok, r⟩ ↔
      ∃ b, t = b ++ '"' :: r ∧ '"' ∉ b ∧ 0 < lead.length + b.length ∧
        tok = .ofText .quotedIdentifier (lead ++ '"' :: b ++ ['"']) := by
  constructor
  · intro h
    unfold readQuotedIdentifier at h
    split at h
    · rename_i b r₀ hb
      simp only at h
      split at h
      · rename_i hlen
        cases h
        obtain ⟨ht, hq⟩ := Text.cutAt_singleton_iff.1 hb
        refine ⟨b, ht, hq, ?_, rfl⟩
        simp at hlen
        omega
      · cases h
    · cases h
  · rintro ⟨b, rfl, hq, hlen, rfl⟩
    have h : 2 < (lead ++ '"' :: b ++ ['"']).length := by
      simp
      omega
    rw [readQuotedIdentifier, Text.cutAt_singleton_iff.2 ⟨rfl, hq⟩]
    simp only
    rw [if_pos h]
    rfl

/-! ## Bit-strings -/

theorem BitForm.accepts_quote (form : BitForm) : form.accepts '\'' = false := by
  cases form <;> decide

theorem readBitString_eq_token_iff {form : BitForm} {t r : Text} {tok : Token} :
    readBitString form t = ⟨.token tok, r⟩ ↔
      ∃ ds, t = ds ++ '\'' :: r ∧ (∀ d ∈ ds, form.accepts d = true) ∧
        tok = .ofText form.kind (form.letter :: '\'' :: ds ++ ['\'']) := by
  constructor
  · intro h
    unfold readBitString at h
    simp only at h
    split at h
    · cases h
    · rename_i c r₀ hr
      split at h
      · rename_i hc
        cases h
        rw [hc] at hr
        obtain ⟨ht, hds, -⟩ := Text.span_eq_iff.1 ⟨rfl, hr⟩
        exact ⟨_, ht, hds, rfl⟩
      · cases h
  · rintro ⟨ds, rfl, hds, rfl⟩
    obtain ⟨htake, hdrop⟩ := (Text.span_eq_iff (r := '\'' :: r)).2
      ⟨rfl, hds, fun c hc => by
        obtain rfl : '\'' = c := by simpa using hc
        exact form.accepts_quote⟩
    simp only [readBitString, htake, hdrop, if_pos]
    rfl

end CompactSql
