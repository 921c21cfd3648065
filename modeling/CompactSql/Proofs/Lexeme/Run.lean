import CompactSql.Lexeme.Word
import CompactSql.Proofs.Lexeme.Number
import CompactSql.Proofs.Lexeme.Operator

/-!
# Lexemes that end where a run ends

Words, parameters, operators and numeric constants have no character that closes them: they end
where the next character does not go on with them. For each the texts from which it is read, with
the token and what is left.

## Main definitions

* `Number.IsMantissa`, `Number.IsExponent` — the two parts of a numeric constant.
-/

namespace CompactSql

/-! ## Words and parameters -/

theorem readWord_eq_token_iff {ks : Keywords} {c : Char} {t r : Text} {tok : Token} :
    readWord ks c t = ⟨.token tok, r⟩ ↔
      ∃ w, t = w ++ r ∧ (∀ d ∈ w, isWordChar d = true) ∧ (∀ d ∈ r.head?, isWordChar d = false) ∧
        tok = .ofText (wordKind ks (c :: w)) (c :: w) := by
  constructor
  · intro h
    cases h
    obtain ⟨ht, hw, hr⟩ := Text.span_eq_iff.1 ⟨rfl, rfl⟩
    exact ⟨_, ht, hw, hr, rfl⟩
  · rintro ⟨w, rfl, hw, hr, rfl⟩
    obtain ⟨htake, hdrop⟩ := Text.span_eq_iff.2 ⟨rfl, hw, hr⟩
    simp only [readWord, htake, hdrop]
    rfl

theorem readParameter_eq_token_iff {t r : Text} {tok : Token} :
    readParameter t = ⟨.token tok, r⟩ ↔
      ∃ ds, t = ds ++ r ∧ (∀ d ∈ ds, d.isDigit = true) ∧ (∀ d ∈ r.head?, d.isDigit = false) ∧
        tok = .ofText .parameter ('$' :: ds) := by
  constructor
  · intro h
    cases h
    obtain ⟨ht, hds, hr⟩ := Text.span_eq_iff.1 ⟨rfl, rfl⟩
    exact ⟨_, ht, hds, hr, rfl⟩
  · rintro ⟨ds, rfl, hds, hr, rfl⟩
    obtain ⟨htake, hdrop⟩ := Text.span_eq_iff.2 ⟨rfl, hds, hr⟩
    simp only [readParameter, htake, hdrop]
    rfl

/-! ## Operators -/

theorem Operator.rule_eq_token_iff {c : Char} {t r : Text} {tok : Token} :
    Operator.rule c t = ⟨.token tok, r⟩ ↔
      ∃ w, t = w ++ r ∧ (∀ d ∈ w, isRunChar d = true) ∧ (∀ d ∈ r.head?, isRunChar d = false) ∧
        r ≠ [] ∧ commentIn (c :: w) = none ∧ isAmbiguous (c :: w) = false ∧
        tok = .ofText .operator (c :: w) := by
  constructor
  · intro h
    unfold rule at h
    simp only at h
    split at h
    · cases h
    · rename_i hcomment
      split at h
      · cases h
      · rename_i hend
        split at h
        · cases h
        · rename_i hsign
          cases h
          obtain ⟨ht, hw, hr⟩ := Text.span_eq_iff.1 ⟨rfl, rfl⟩
          refine ⟨_, ht, hw, hr, ?_, hcomment, by simpa using hsign, rfl⟩
          simpa [List.isEmpty_iff] using hend
  · rintro ⟨w, rfl, hw, hr, hne, hcomment, hsign, rfl⟩
    obtain ⟨htake, hdrop⟩ := Text.span_eq_iff.2 ⟨rfl, hw, hr⟩
    have hend : r.isEmpty = false := by simp [hne]
    simp only [rule, htake, hdrop, hcomment, hend, hsign]
    rfl

/-! ## Numeric constants -/

namespace Number

/-- The mantissas: digits, perhaps with a dot behind the first of them and more digits, or a dot and
digits. -/
inductive IsMantissa : Text → Prop where
  | whole {d : Char} {ds : Text} (hd : d.isDigit = true) (hds : ∀ c ∈ ds, c.isDigit = true) :
    IsMantissa (d :: ds)
  | decimal {d : Char} {ds fs : Text} (hd : d.isDigit = true) (hds : ∀ c ∈ ds, c.isDigit = true)
    (hfs : ∀ c ∈ fs, c.isDigit = true) : IsMantissa (d :: ds ++ '.' :: fs)
  | fraction {d : Char} {fs : Text} (hd : d.isDigit = true) (hfs : ∀ c ∈ fs, c.isDigit = true) :
    IsMantissa ('.' :: d :: fs)

/-- The exponents: nothing, or a mark, perhaps a sign, and digits. -/
inductive IsExponent : Text → Prop where
  | absent : IsExponent []
  | marked {e d : Char} {s ds : Text} (he : e = 'e' ∨ e = 'E')
    (hs : s = [] ∨ s = ['+'] ∨ s = ['-']) (hd : d.isDigit = true)
    (hds : ∀ c ∈ ds, c.isDigit = true) : IsExponent (e :: s ++ d :: ds)

/-- What may stand behind a numeric constant. -/
def Ends (r : Text) : Prop := ∀ c ∈ r.head?, c.isDigit = false ∧ c ≠ '.' ∧ isLetter c = false

theorem dot_not_mem {ds : Text} (hds : ∀ c ∈ ds, c.isDigit = true) : '.' ∉ ds :=
  fun h => absurd (hds '.' h) (by decide)

theorem mantissa_of_isMantissa {c : Char} {t m r : Text} (hm : IsMantissa m) (ht : c :: t = m ++ r)
    (hr : ∀ d ∈ r.head?, d.isDigit = false) (hdot : '.' ∉ m → r.head? ≠ some '.') :
    mantissa c t = (m, r) := by
  cases hm with
  | @whole d ds hd hds =>
    obtain ⟨rfl, rfl⟩ : c = d ∧ t = ds ++ r := by simpa using ht
    have hc : c ≠ '.' := Text.ne_of_true_of_false hd (by decide)
    have hnodot : r.head? ≠ some '.' := hdot (by simp [Ne.symm hc, dot_not_mem hds])
    simp only [mantissa, digits_eq_iff.2 ⟨rfl, hds, hr⟩, if_neg hc]
    cases r with
    | nil => rfl
    | cons a r =>
      have ha : a ≠ '.' := fun h => hnodot (by rw [h]; rfl)
      simp [ha]
  | @decimal d ds fs hd hds hfs =>
    obtain ⟨rfl, rfl⟩ : c = d ∧ t = ds ++ '.' :: (fs ++ r) := by simpa using ht
    have hc : c ≠ '.' := Text.ne_of_true_of_false hd (by decide)
    have hstop : ∀ a ∈ ('.' :: (fs ++ r)).head?, a.isDigit = false := by
      intro a ha
      obtain rfl : '.' = a := by simpa using ha
      decide
    have hwhole : digits (ds ++ '.' :: (fs ++ r)) = (ds, '.' :: (fs ++ r)) :=
      digits_eq_iff.2 ⟨rfl, hds, hstop⟩
    simp [mantissa, hwhole, hc, digits_eq_iff.2 ⟨rfl, hfs, hr⟩]
  | @fraction d fs hd hfs =>
    obtain ⟨rfl, rfl⟩ : c = '.' ∧ t = d :: fs ++ r := by simpa using ht
    have hall : ∀ a ∈ d :: fs, a.isDigit = true := List.forall_mem_cons.2 ⟨hd, hfs⟩
    simp only [mantissa, digits_eq_iff.2 ⟨rfl, hall, hr⟩, if_pos]

theorem isMantissa_of_mantissa {c : Char} {t m r : Text}
    (hc : c.isDigit = true ∨ c = '.' ∧ t.head?.any Char.isDigit = true)
    (h : mantissa c t = (m, r)) :
    IsMantissa m ∧ c :: t = m ++ r ∧ (∀ d ∈ r.head?, d.isDigit = false) ∧
      ('.' ∉ m → r.head? ≠ some '.') := by
  obtain ⟨ds, rest, hwhole⟩ : ∃ ds rest, digits t = (ds, rest) := ⟨_, _, rfl⟩
  obtain ⟨rfl, hds, hrest⟩ := digits_eq_iff.1 hwhole
  simp only [mantissa, hwhole] at h
  split at h
  · rename_i hdot
    subst hdot
    simp only [Prod.mk.injEq] at h
    obtain ⟨rfl, rfl⟩ := h
    cases ds with
    | nil =>
      -- The dot is followed by a digit, which the run of digits cannot leave out.
      have hany : rest.head?.any Char.isDigit = true := by simpa using hc
      exact Bool.noConfusion (hany.symm.trans (Text.any_head_eq_false hrest))
    | cons d ds =>
      rw [List.forall_mem_cons] at hds
      exact ⟨.fraction hds.1 hds.2, rfl, hrest, fun hno => absurd List.mem_cons_self hno⟩
  · rename_i hdot
    have hdigit : c.isDigit = true := hc.resolve_right fun h => hdot h.1
    split at h
    · rename_i r₁
      obtain ⟨fs, r₂, hfrac⟩ : ∃ fs r₂, digits r₁ = (fs, r₂) := ⟨_, _, rfl⟩
      obtain ⟨rfl, hfs, hr₂⟩ := digits_eq_iff.1 hfrac
      simp only [hfrac, Prod.mk.injEq] at h
      obtain ⟨rfl, rfl⟩ := h
      exact ⟨.decimal hdigit hds hfs, by simp, hr₂, fun hno => absurd (by simp) hno⟩
    · rename_i hnot
      simp only [Prod.mk.injEq] at h
      obtain ⟨rfl, rfl⟩ := h
      refine ⟨.whole hdigit hds, rfl, hrest, ?_⟩
      intro _ hhead
      cases rest with
      | nil => simp at hhead
      | cons a rest =>
        obtain rfl : a = '.' := by simpa using hhead
        apply hnot rest
        rfl

theorem exponent_eq_absent_iff {t : Text} :
    exponent t = .absent ↔ ∀ e ∈ t.head?, ¬(e = 'e' ∨ e = 'E') := by
  cases t with
  | nil => simp [exponent]
  | cons e t =>
    by_cases he : e = 'e' ∨ e = 'E'
    · obtain ⟨s, r, hsign⟩ : ∃ s r, sign t = (s, r) := ⟨_, _, rfl⟩
      rw [exponent_of_mark he hsign rfl]
      split <;> simpa [or_iff_not_imp_left] using he
    · simpa [exponent_of_not_mark he] using he

theorem exponent_eq_broken_iff {t r : Text} :
    exponent t = .broken r ↔
      ∃ e s, t = e :: (s ++ r) ∧ (e = 'e' ∨ e = 'E') ∧ sign (s ++ r) = (s, r) ∧
        digits r = ([], r) := by
  constructor
  · intro h
    cases t with
    | nil => cases h
    | cons e t =>
      by_cases he : e = 'e' ∨ e = 'E'
      · obtain ⟨s, r₀, hsign⟩ : ∃ s r₀, sign t = (s, r₀) := ⟨_, _, rfl⟩
        obtain ⟨ds, r₁, hdigits⟩ : ∃ ds r₁, digits r₀ = (ds, r₁) := ⟨_, _, rfl⟩
        rw [exponent_of_mark he hsign hdigits] at h
        split at h
        · rename_i hnil
          cases h
          obtain ⟨rfl, -⟩ := eq_append_of_sign hsign
          have hr := (digits_eq_iff.1 hdigits).1
          rw [hnil, List.nil_append] at hr
          rw [hnil, ← hr] at hdigits
          exact ⟨e, s, rfl, he, hsign, hdigits⟩
        · cases h
      · rw [exponent_of_not_mark he] at h
        cases h
  · rintro ⟨e, s, rfl, he, hsign, hdigits⟩
    rw [exponent_of_mark he hsign hdigits, if_pos rfl]

theorem exponent_eq_complete_iff {t e r : Text} :
    exponent t = .complete e r ↔
      t = e ++ r ∧ IsExponent e ∧ e ≠ [] ∧ ∀ c ∈ r.head?, c.isDigit = false := by
  constructor
  · intro h
    cases t with
    | nil => cases h
    | cons mark t =>
      obtain ⟨s, t₁, hsign⟩ : ∃ s t₁, sign t = (s, t₁) := ⟨_, _, rfl⟩
      obtain ⟨rfl, hs⟩ := eq_append_of_sign hsign
      obtain ⟨ds, t₂, hdigits⟩ : ∃ ds t₂, digits t₁ = (ds, t₂) := ⟨_, _, rfl⟩
      obtain ⟨rfl, hds, hr⟩ := digits_eq_iff.1 hdigits
      by_cases hmark : mark = 'e' ∨ mark = 'E'
      · rw [exponent_of_mark hmark hsign hdigits] at h
        cases ds with
        | nil => cases h
        | cons d ds =>
          cases h
          rw [List.forall_mem_cons] at hds
          exact ⟨by simp, .marked hmark hs hds.1 hds.2, by simp, hr⟩
      · rw [exponent_of_not_mark hmark] at h
        cases h
  · rintro ⟨rfl, he, hne, hr⟩
    cases he with
    | absent => exact absurd rfl hne
    | @marked mark d s ds hmark hs hd hds =>
      have hall : ∀ c ∈ d :: ds, c.isDigit = true := List.forall_mem_cons.2 ⟨hd, hds⟩
      have hsign : sign (s ++ (d :: ds ++ r)) = (s, d :: ds ++ r) := by
        apply sign_append hs
        intro c hc
        obtain rfl : d = c := by simpa using hc
        exact hd
      rw [List.cons_append, List.cons_append, List.append_assoc,
        exponent_of_mark hmark hsign (digits_eq_iff.2 ⟨rfl, hall, hr⟩)]
      simp

theorem complete_eq_token_iff {v t r : Text} {tok : Token} :
    complete v t = ⟨.token tok, r⟩ ↔
      t = r ∧ (∀ c ∈ r.head?, c ≠ '.' ∧ isLetter c = false) ∧ tok = .ofText .numeric v := by
  cases t with
  | nil =>
    constructor
    · intro h
      cases h
      simp
    · rintro ⟨rfl, -, rfl⟩
      rfl
  | cons c t =>
    by_cases hc : (decide (c = '.') || isLetter c) = true
    · simp only [complete, if_pos hc]
      constructor
      · intro h
        cases h
      · rintro ⟨rfl, hend, -⟩
        obtain ⟨hdot, hletter⟩ := hend c rfl
        simp [hdot, hletter] at hc
    · simp only [complete, if_neg hc]
      constructor
      · intro h
        cases h
        simpa using hc
      · rintro ⟨rfl, -, rfl⟩
        rfl

/-- A numeric constant is a mantissa with an exponent, and what stands behind it is no part of
it. -/
theorem rule_eq_token_iff {c : Char} {t r : Text} {tok : Token}
    (hc : c.isDigit = true ∨ c = '.' ∧ t.head?.any Char.isDigit = true) :
    rule c t = ⟨.token tok, r⟩ ↔
      ∃ m e, IsMantissa m ∧ IsExponent e ∧ c :: t = m ++ (e ++ r) ∧ Ends r ∧
        tok = .ofText .numeric (m ++ e) := by
  constructor
  · intro h
    obtain ⟨m, r₁, hmantissa⟩ : ∃ m r₁, mantissa c t = (m, r₁) := ⟨_, _, rfl⟩
    obtain ⟨hm, ht, hr₁, -⟩ := isMantissa_of_mantissa hc hmantissa
    simp only [rule, hmantissa] at h
    split at h
    · obtain ⟨rfl, hend, rfl⟩ := complete_eq_token_iff.1 h
      exact ⟨m, [], hm, .absent, ht, fun a ha => ⟨hr₁ a ha, hend a ha⟩, by simp⟩
    · cases h
    · rename_i e r₂ hexponent
      obtain ⟨rfl, he, -, hr₂⟩ := exponent_eq_complete_iff.1 hexponent
      obtain ⟨rfl, hend, rfl⟩ := complete_eq_token_iff.1 h
      exact ⟨m, e, hm, he, ht, fun a ha => ⟨hr₂ a ha, hend a ha⟩, rfl⟩
  · rintro ⟨m, e, hm, he, ht, hend, rfl⟩
    cases he with
    | absent =>
      have hmantissa : mantissa c t = (m, r) := by
        apply mantissa_of_isMantissa hm ht
        · intro d hd
          exact (hend d hd).1
        · intro _ hdot
          exact (hend '.' hdot).2.1 rfl
      have hexponent : exponent r = .absent := by
        cases r with
        | nil => rfl
        | cons d r =>
          refine exponent_of_not_mark ?_ r
          rintro (rfl | rfl) <;> exact absurd (hend _ rfl).2.2 (by decide)
      simp only [rule, hmantissa, hexponent, List.append_nil]
      exact complete_eq_token_iff.2 ⟨rfl, fun d hd => (hend d hd).2, rfl⟩
    | @marked mark d s ds hmark hs hd hds =>
      have hmantissa : mantissa c t = (m, mark :: s ++ d :: ds ++ r) := by
        apply mantissa_of_isMantissa hm ht
        · intro a ha
          obtain rfl : mark = a := by simpa using ha
          rcases hmark with rfl | rfl <;> decide
        · intro _ hdot
          obtain rfl : mark = '.' := by simpa using hdot
          exact absurd hmark (by decide)
      have hexponent : exponent (mark :: s ++ d :: ds ++ r) = .complete (mark :: s ++ d :: ds) r :=
        exponent_eq_complete_iff.2
          ⟨rfl, .marked hmark hs hd hds, by simp, fun a ha => (hend a ha).1⟩
      simp only [rule, hmantissa, hexponent]
      exact complete_eq_token_iff.2 ⟨rfl, fun a ha => (hend a ha).2, rfl⟩

end Number

end CompactSql
