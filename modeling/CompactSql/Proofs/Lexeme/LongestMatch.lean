import CompactSql.Proofs.Lexeme.Rule
import CompactSql.Proofs.Lexeme.Run

/-!
# Numeric constants, read by longest match

A numeric constant ends where no longer beginning of the text is one. What stands right behind it
decides whether it is a token: a dot or a letter there spoils it.

## Main definitions

* `Number.IsConstant` — the numeric constants, mantissas with an exponent.
* `Number.BeginsSignedExponent` — whether a text begins with the mark of an exponent and a sign.

## Main statements

* `longest_mantissa` — the mantissa that is read is the longest one.
* `longest_of_no_exponent`, `longest_of_exponent` — the longest constant, from the longest mantissa.
* `number_is_longest_match` — what a step makes of the longest constant.
-/

namespace CompactSql

namespace Number

variable {c : Char} {m e v w ds fs t r : Text}

/-- The numeric constants: a mantissa, perhaps with an exponent. -/
def IsConstant (v : Text) : Prop := ∃ m e, IsMantissa m ∧ IsExponent e ∧ v = m ++ e

/-- Whether a text begins with the mark of an exponent and a sign. -/
def BeginsSignedExponent (r : Text) : Prop :=
  ∃ e s r', r = e :: s :: r' ∧ (e = 'e' ∨ e = 'E') ∧ (s = '+' ∨ s = '-')

theorem IsMantissa.isConstant (hm : IsMantissa m) : IsConstant m :=
  ⟨m, [], hm, .absent, (List.append_nil m).symm⟩

/-! ## Mantissas -/

theorem IsMantissa.isDigit_or_dot (hm : IsMantissa m) : ∀ c ∈ m, c.isDigit = true ∨ c = '.' := by
  cases hm <;> grind

/-- More digits may follow a mantissa. -/
theorem IsMantissa.append_digits (hm : IsMantissa m) (hds : ∀ c ∈ ds, c.isDigit = true) :
    IsMantissa (m ++ ds) := by
  cases hm with
  | whole hd hds' => exact .whole hd (List.forall_mem_append.2 ⟨hds', hds⟩)
  | decimal hd hds' hfs =>
    rw [List.append_assoc]
    exact .decimal hd hds' (List.forall_mem_append.2 ⟨hfs, hds⟩)
  | fraction hd hfs => exact .fraction hd (List.forall_mem_append.2 ⟨hfs, hds⟩)

/-- A dot may follow a mantissa without one, and digits behind it. -/
theorem IsMantissa.append_dot (hm : IsMantissa m) (hdot : '.' ∉ m)
    (hfs : ∀ c ∈ fs, c.isDigit = true) : IsMantissa (m ++ '.' :: fs) := by
  cases hm with
  | whole hd hds => exact .decimal hd hds hfs
  | decimal => simp at hdot
  | fraction => simp at hdot

/-- No longer beginning of a text is a mantissa. -/
theorem prefix_of_mantissa (hm : IsMantissa m) (h : c :: t = m ++ r) :
    m <+: (mantissa c t).1 := by
  obtain ⟨ds, r₁, hdigits⟩ : ∃ ds r₁, digits r = (ds, r₁) := ⟨_, _, rfl⟩
  obtain ⟨rfl, hds, hr₁⟩ := digits_eq_iff.1 hdigits
  by_cases hdot : '.' ∉ m ∧ r₁.head? = some '.'
  · obtain ⟨r₂, rfl⟩ := List.head?_eq_some_iff.1 hdot.2
    obtain ⟨fs, r₃, hfrac⟩ : ∃ fs r₃, digits r₂ = (fs, r₃) := ⟨_, _, rfl⟩
    obtain ⟨rfl, hfs, hr₃⟩ := digits_eq_iff.1 hfrac
    have hno : '.' ∉ m ++ ds := by simp [hdot.1, dot_not_mem hds]
    rw [mantissa_of_isMantissa ((hm.append_digits hds).append_dot hno hfs) (r := r₃) (by simp [h])
      hr₃ (by simp)]
    simp
  · rw [mantissa_of_isMantissa (hm.append_digits hds) (r := r₁) (by simp [h]) hr₁ (by grind)]
    exact List.prefix_append m ds

/-! ## Exponents -/

theorem IsExponent.append_digits (he : IsExponent e) (hne : e ≠ [])
    (hds : ∀ c ∈ ds, c.isDigit = true) : IsExponent (e ++ ds) := by
  cases he with
  | absent => exact absurd rfl hne
  | @marked mark d s ds' hmark hs hd hds' =>
    rw [List.append_assoc]
    exact .marked hmark hs hd (List.forall_mem_append.2 ⟨hds', hds⟩)

/-- If a text begins with an exponent, that is a part of the one that is read. -/
theorem exists_exponent_eq (he : IsExponent e) (hne : e ≠ []) (r : Text) :
    ∃ ds r', exponent (e ++ r) = .complete (e ++ ds) r' := by
  obtain ⟨ds, r', hdigits⟩ : ∃ ds r', digits r = (ds, r') := ⟨_, _, rfl⟩
  obtain ⟨rfl, hds, hr'⟩ := digits_eq_iff.1 hdigits
  exact ⟨ds, r', exponent_eq_complete_iff.2
    ⟨(List.append_assoc e ds r').symm, he.append_digits hne hds, by simp [hne], hr'⟩⟩

/-- Where an exponent is read, it is the longest one. -/
theorem prefix_of_exponent {e₀ r₀ : Text} (h : exponent r = .complete e₀ r₀) (he : IsExponent e)
    (hr : e <+: r) : e <+: e₀ := by
  by_cases hne : e = []
  · exact hne ▸ List.nil_prefix
  · obtain ⟨r', rfl⟩ := hr
    obtain ⟨ds, r'', heq⟩ := exists_exponent_eq he hne r'
    rw [heq] at h
    cases h
    exact List.prefix_append e ds

/-- Where none is read, none stands. -/
theorem eq_nil_of_exponent (h : ∀ e₀ r₀, exponent r ≠ .complete e₀ r₀) (he : IsExponent e)
    (hr : e <+: r) : e = [] := by
  by_contra hne
  obtain ⟨r', rfl⟩ := hr
  obtain ⟨ds, r'', heq⟩ := exists_exponent_eq he hne r'
  exact h _ _ heq

/-- The mark of an exponent is no part of a mantissa. -/
theorem IsMantissa.not_mem_of_mark (hm : IsMantissa m) (hc : c = 'e' ∨ c = 'E') : c ∉ m := by
  intro hmem
  have hchar := hm.isDigit_or_dot c hmem
  rcases hc with rfl | rfl <;> exact absurd hchar (by decide)

theorem not_isMantissa_append (he : IsExponent e) (hne : e ≠ []) : ¬IsMantissa (m ++ e) := by
  intro hm
  cases he with
  | absent => exact hne rfl
  | marked hmark => exact hm.not_mem_of_mark hmark (by simp)

/-! ## Constants -/

theorem longest_mantissa (hc : c.isDigit = true ∨ c = '.' ∧ t.head?.any Char.isDigit = true)
    (h : mantissa c t = (m, r)) : Text.Longest IsMantissa (c :: t) m r := by
  obtain ⟨hm, ht, -, -⟩ := isMantissa_of_mantissa hc h
  refine ⟨ht, hm, fun w hw hwt => ?_⟩
  obtain ⟨r', hr'⟩ := hwt
  have hprefix := prefix_of_mantissa hw hr'.symm
  rwa [h] at hprefix

/-- A constant at the beginning of a text is a part of the longest mantissa, or that mantissa with
an exponent. -/
theorem prefix_or_eq_of_isConstant (hm : Text.Longest IsMantissa t m r) (hw : IsConstant w)
    (h : w <+: t) : w <+: m ∨ ∃ e, IsExponent e ∧ e <+: r ∧ w = m ++ e := by
  obtain ⟨m', e, hm', he, rfl⟩ := hw
  obtain ⟨x, rfl⟩ := hm.longest m' hm' ((List.prefix_append m' e).trans h)
  have hx : e <+: x ++ r := by
    rwa [hm.append_eq, List.append_assoc, List.prefix_append_right_inj] at h
  cases he with
  | absent => exact .inl (by simp)
  | @marked mark d s ds hmark hs hd hds =>
    -- The mark of the exponent cannot stand in the mantissa, so nothing of that is left.
    obtain rfl : x = [] := by
      cases x with
      | nil => rfl
      | cons y x =>
        obtain rfl : mark = y := by simpa using (List.cons_prefix_cons.1 hx).1
        exact absurd (by simp) (hm.holds.not_mem_of_mark hmark)
    exact .inr ⟨_, .marked hmark hs hd hds, hx, by simp⟩

/-- Without an exponent behind it the longest mantissa is the longest constant. -/
theorem longest_of_no_exponent (hm : Text.Longest IsMantissa t m r)
    (h : ∀ e₀ r₀, exponent r ≠ .complete e₀ r₀) : Text.Longest IsConstant t m r := by
  refine ⟨hm.append_eq, hm.holds.isConstant, fun w hw hwt => ?_⟩
  obtain hwm | ⟨e, he, her, rfl⟩ := prefix_or_eq_of_isConstant hm hw hwt
  · exact hwm
  · simp [eq_nil_of_exponent h he her]

/-- With an exponent behind it, it is the longest constant together with that. -/
theorem longest_of_exponent {e₀ r₀ : Text} (hm : Text.Longest IsMantissa t m r)
    (h : exponent r = .complete e₀ r₀) : Text.Longest IsConstant t (m ++ e₀) r₀ := by
  obtain ⟨rfl, he₀, -, -⟩ := exponent_eq_complete_iff.1 h
  refine ⟨by rw [hm.append_eq, List.append_assoc], ⟨m, e₀, hm.holds, he₀, rfl⟩, fun w hw hwt => ?_⟩
  obtain hwm | ⟨e, he, her, rfl⟩ := prefix_or_eq_of_isConstant hm hw hwt
  · exact hwm.trans (List.prefix_append m e₀)
  · exact (List.prefix_append_right_inj m).2 (prefix_of_exponent h he her)

/-! ## What stands behind a constant -/

/-- Whether what stands behind a constant lets it be a token: it is no dot and no letter. -/
def Admits (r : Text) : Prop := ∀ d ∈ r.head?, d ≠ '.' ∧ isLetter d = false

theorem complete_of_admits (h : Admits r) (v : Text) : complete v r = .ofText .numeric v r := by
  exact complete_eq_token_iff.2 ⟨rfl, h, rfl⟩

theorem complete_of_not_admits (h : ¬Admits r) (v : Text) :
    complete v r = .dropped .malformedNumber (r.drop 1) := by
  unfold complete
  split
  · exact absurd (by simp [Admits]) h
  · split
    · rfl
    · rename_i hc
      exact absurd (by simpa [Admits] using hc) h

/-- A mark without digits behind it spoils the constant, and so does a sign behind the mark. -/
theorem drop_of_exponent_broken (h : exponent t = .broken r) :
    ¬Admits t ∧
      (BeginsSignedExponent t ∧ r = t.drop 2 ∨ ¬BeginsSignedExponent t ∧ r = t.drop 1) := by
  obtain ⟨e, s, rfl, he, hsign, -⟩ := exponent_eq_broken_iff.1 h
  refine ⟨fun hend => ?_, ?_⟩
  · have hletter := (hend e rfl).2
    rcases he with rfl | rfl <;> exact absurd hletter (by decide)
  · obtain rfl | rfl | rfl := (eq_append_of_sign hsign).2
    · refine .inr ⟨?_, rfl⟩
      rintro ⟨e', s, r', heq, -, hs⟩
      obtain ⟨rfl, rfl⟩ := List.cons.inj heq
      rcases hs with rfl | rfl <;> cases hsign
    · exact .inl ⟨⟨e, '+', r, rfl, he, .inl rfl⟩, rfl⟩
    · exact .inl ⟨⟨e, '-', r, rfl, he, .inr rfl⟩, rfl⟩

theorem not_beginsSignedExponent (h : exponent r = .absent) : ¬BeginsSignedExponent r := by
  rintro ⟨e, s, r', rfl, he, -⟩
  exact exponent_eq_absent_iff.1 h e rfl he

/-- A constant is read by longest match. The longest beginning of the text that is a constant is a
token if neither a dot nor a letter stands behind it. Otherwise there is no token, and the scan goes
on behind the character that spoils the constant; where that is the mark of an exponent which the
constant does not have yet, a sign behind the mark is left out too. -/
theorem number_is_longest_match (ks : Keywords) (c : Char) (t : Text)
    (hc : c.isDigit = true ∨ c = '.' ∧ t.head?.any Char.isDigit = true) :
    ∃ v r, Text.Longest IsConstant (c :: t) v r ∧
      (Admits r → step ks c t = .ofText .numeric v r) ∧
      (¬Admits r → IsMantissa v ∧ BeginsSignedExponent r →
        step ks c t = .dropped .malformedNumber (r.drop 2)) ∧
      (¬Admits r → ¬(IsMantissa v ∧ BeginsSignedExponent r) →
        step ks c t = .dropped .malformedNumber (r.drop 1)) := by
  have hstep : step ks c t = rule c t := step_of_opens (f := .number) hc (by simp)
  obtain ⟨m, r, hmantissa⟩ : ∃ m r, mantissa c t = (m, r) := ⟨_, _, rfl⟩
  have hm := longest_mantissa hc hmantissa
  simp only [rule, hmantissa] at hstep
  cases hexponent : exponent r with rw [hexponent] at hstep
  | absent =>
    refine ⟨m, r, longest_of_no_exponent hm (by simp [hexponent]), ?_, ?_, ?_⟩
    · exact fun hend => hstep.trans (complete_of_admits hend m)
    · exact fun _ hmark => absurd hmark.2 (not_beginsSignedExponent hexponent)
    · exact fun hend _ => hstep.trans (complete_of_not_admits hend m)
  | broken r' =>
    obtain ⟨hend, hdrop⟩ := drop_of_exponent_broken hexponent
    refine ⟨m, r, longest_of_no_exponent hm (by simp [hexponent]), fun h => absurd h hend, ?_, ?_⟩
    · rintro - ⟨-, hmark⟩
      obtain ⟨-, rfl⟩ := hdrop.resolve_right fun h => h.1 hmark
      exact hstep
    · rintro - hmark
      obtain ⟨-, rfl⟩ := hdrop.resolve_left fun h => hmark ⟨hm.holds, h.1⟩
      exact hstep
  | complete e r' =>
    obtain ⟨-, he, hne, -⟩ := exponent_eq_complete_iff.1 hexponent
    refine ⟨m ++ e, r', longest_of_exponent hm hexponent, ?_, ?_, ?_⟩
    · exact fun hend => hstep.trans (complete_of_admits hend (m ++ e))
    · exact fun _ hmark => absurd hmark.1 (not_isMantissa_append he hne)
    · exact fun hend _ => hstep.trans (complete_of_not_admits hend (m ++ e))

/-- A sign behind the mark of an exponent goes with the mark. -/
theorem number_is_longest_match_signed :
    ('1'.isDigit = true ∨ '1' = '.' ∧ ".5e+x".toList.head?.any Char.isDigit = true) ∧
      ∃ v r, Text.Longest IsConstant "1.5e+x".toList v r ∧
        (Admits r → step .reserved '1' ".5e+x".toList = .ofText .numeric v r) ∧
        (¬Admits r → IsMantissa v ∧ BeginsSignedExponent r →
          step .reserved '1' ".5e+x".toList = .dropped .malformedNumber (r.drop 2)) ∧
        (¬Admits r → ¬(IsMantissa v ∧ BeginsSignedExponent r) →
          step .reserved '1' ".5e+x".toList = .dropped .malformedNumber (r.drop 1)) :=
  ⟨by decide, number_is_longest_match .reserved '1' ".5e+x".toList (by decide)⟩

end Number

end CompactSql
