import CompactSql.Lexeme.Word

/-!
# Lowercase forms

Writing a text in lowercase twice is the same as writing it in lowercase once, and the lowercase
form of a word is a word again. The one letter that spoils the second is `İ`, whose lowercase form
ends in a combining dot.

## Main definitions

* `IsSettled` — the characters that the lowercase mapping leaves as they are.

`lowercase_lowercase` and `contains_lowercase` say that a keyword set cannot tell a word from its
lowercase form; `exists_lowercase_word`, `exists_lowercase_of_dottedI` and `mem_lowercaseAfter` say
what becomes of a word.
-/

namespace CompactSql

/-! ## The table of case runs -/

namespace CaseRun

/-- Whether every code point of the run is mapped into one range of letters. -/
def mapsToLetters (r : CaseRun) : Bool :=
  letters.ranges.any fun l => l.1.ble r.image && (r.image + (r.last - r.first)).ble l.2

/-- Whether `s` covers no code point that `r` maps to: their spans are disjoint, or the images and
the code points that `s` covers are of different parity. -/
def misses (r s : CaseRun) : Bool :=
  (r.image + (r.last - r.first)).blt s.first || s.last.blt r.image ||
    ((r.step == 2 || r.first == r.last) && s.step == 2 && r.image % 2 != s.first % 2)

/-- Whether the run maps no code point to `İ`. -/
def missesDottedI (r : CaseRun) : Bool :=
  r.image + (r.last - r.first) < 0x130 || 0x130 < r.image

theorem hasCode_image {r : CaseRun} {n : Nat} (hr : r.mapsToLetters = true)
    (hn : r.covers n = true) : letters.hasCode (r.image + (n - r.first)) = true := by
  simp only [mapsToLetters, List.any_eq_true, Bool.and_eq_true, Nat.ble_eq] at hr
  obtain ⟨l, hl, h₁, h₂⟩ := hr
  simp only [covers, Bool.and_eq_true, decide_eq_true_eq] at hn
  exact CharClass.hasCode_eq_true_iff.2 ⟨l, hl, by omega, by omega⟩

theorem not_covers_image {r s : CaseRun} {n : Nat} (hr : r.misses s = true)
    (hn : r.covers n = true) : s.covers (r.image + (n - r.first)) = false := by
  simp only [misses, Bool.or_eq_true, Bool.and_eq_true, Nat.blt_eq, beq_iff_eq, bne_iff_ne,
    ne_eq] at hr
  simp only [covers, Bool.and_eq_true, decide_eq_true_eq, beq_iff_eq] at hn
  simp only [covers, Bool.and_eq_false_iff, decide_eq_false_iff_not, beq_eq_false_iff_ne, ne_eq]
  rcases hr with (hr | hr) | ⟨⟨hr | hr, hs⟩, hne⟩
  · omega
  · omega
  · rw [hr] at hn
    rw [hs]
    omega
  · rw [hs]
    omega

theorem image_ne_dottedI {r : CaseRun} {n : Nat} (hr : r.missesDottedI = true)
    (hn : r.covers n = true) : r.image + (n - r.first) ≠ 0x130 := by
  simp only [missesDottedI, Bool.or_eq_true, decide_eq_true_eq] at hr
  simp only [covers, Bool.and_eq_true, decide_eq_true_eq] at hn
  omega

end CaseRun

theorem mapsToLetters_of_mem : ∀ r ∈ caseRuns, r.mapsToLetters = true := by decide +kernel

theorem all_misses : (caseRuns.all fun r => caseRuns.all r.misses) = true := by decide +kernel

theorem misses_of_mem {r s : CaseRun} (hr : r ∈ caseRuns) (hs : s ∈ caseRuns) :
    r.misses s = true :=
  List.all_eq_true.1 (List.all_eq_true.1 all_misses r hr) s hs

theorem missesDottedI_of_mem : ∀ r ∈ caseRuns, r.missesDottedI = true := by decide +kernel

/-- A code point is mapped to itself, or by a run that covers it. -/
theorem lowerCode_cases (n : Nat) :
    lowerCode n = n ∨
      ∃ r ∈ caseRuns, r.covers n = true ∧ lowerCode n = r.image + (n - r.first) := by
  unfold lowerCode
  split
  · rename_i r hr
    exact .inr ⟨r, List.mem_of_find?_eq_some hr, by simpa using List.find?_some hr, rfl⟩
  · exact .inl rfl

theorem hasCode_lowerCode {n : Nat} (h : lowerCode n ≠ n) :
    letters.hasCode (lowerCode n) = true := by
  obtain hn | ⟨r, hr, hcov, heq⟩ := lowerCode_cases n
  · exact absurd hn h
  · rw [heq]
    exact CaseRun.hasCode_image (mapsToLetters_of_mem r hr) hcov

theorem lowerCode_lowerCode (n : Nat) : lowerCode (lowerCode n) = lowerCode n := by
  obtain hn | ⟨r, hr, hcov, heq⟩ := lowerCode_cases n
  · rw [hn, hn]
  · have hnone : caseRuns.find? (·.covers (lowerCode n)) = none := by
      rw [List.find?_eq_none]
      intro s hs
      rw [heq, CaseRun.not_covers_image (misses_of_mem hr hs) hcov]
      exact Bool.false_ne_true
    rw [lowerCode, hnone]

theorem lowerCode_ne_dottedI {n : Nat} (h : n ≠ 0x130) : lowerCode n ≠ 0x130 := by
  obtain hn | ⟨r, hr, hcov, heq⟩ := lowerCode_cases n
  · rwa [hn]
  · rw [heq]
    exact CaseRun.image_ne_dottedI (missesDottedI_of_mem r hr) hcov

/-! ## Characters -/

/-- The ranges of letters hold no code point of a surrogate, and none beyond the last. -/
theorem letters_valid : ∀ r ∈ letters.ranges, r.2 < 0xD800 ∨ 0xDFFF < r.1 ∧ r.2 < 0x110000 := by
  decide +kernel

theorem isValidChar_of_hasCode {n : Nat} (h : letters.hasCode n = true) : n.isValidChar := by
  obtain ⟨r, hr, h₁, h₂⟩ := CharClass.hasCode_eq_true_iff.1 h
  rcases letters_valid r hr with hv | hv
  · exact .inl (by omega)
  · exact .inr ⟨by omega, by omega⟩

theorem toNat_ofNat {n : Nat} (h : n.isValidChar) : (Char.ofNat n).toNat = n := by
  rw [Char.ofNat, dif_pos h]
  rfl

/-- Whether the lowercase mapping leaves `c` as it is, wherever it stands. -/
def IsSettled (c : Char) : Prop := c ≠ 'Σ' ∧ lowerChar c = [c]

theorem toNat_ofNat_lowerCode (c : Char) :
    (Char.ofNat (lowerCode c.toNat)).toNat = lowerCode c.toNat := by
  by_cases h : lowerCode c.toNat = c.toNat
  · rw [h, Char.ofNat_toNat]
  · exact toNat_ofNat (isValidChar_of_hasCode (hasCode_lowerCode h))

theorem isSettled_ofNat_lowerCode {c : Char} (hc : c ≠ 'İ') :
    IsSettled (Char.ofNat (lowerCode c.toNat)) := by
  have hne : c.toNat ≠ 0x130 := fun h => hc (Char.toNat_inj.1 h)
  have hcode := toNat_ofNat_lowerCode c
  constructor
  · intro h
    rw [h] at hcode
    have hsigma := lowerCode_lowerCode c.toNat
    rw [← hcode] at hsigma
    exact absurd hsigma (by decide)
  · have hI : Char.ofNat (lowerCode c.toNat) ≠ 'İ' := by
      intro h
      rw [h] at hcode
      exact lowerCode_ne_dottedI hne hcode.symm
    rw [lowerChar, if_neg hI, hcode, lowerCode_lowerCode]

/-- A character other than `İ` is mapped to one character, a letter unless it stays as it is. -/
theorem lowerChar_eq {c : Char} (hc : c ≠ 'İ') :
    ∃ d, lowerChar c = [d] ∧ IsSettled d ∧ (d = c ∨ isLetter d = true) := by
  refine ⟨_, if_neg hc, isSettled_ofNat_lowerCode hc, ?_⟩
  by_cases h : lowerCode c.toNat = c.toNat
  · rw [h, Char.ofNat_toNat]
    exact .inl rfl
  · refine .inr ?_
    rw [isLetter, CharClass.has, toNat_ofNat_lowerCode]
    exact hasCode_lowerCode h

theorem isSettled_of_mem_lowerChar {c d : Char} (h : d ∈ lowerChar c) : IsSettled d := by
  by_cases hc : c = 'İ'
  · subst hc
    have hd : d = 'i' ∨ d = '\u0307' := by simpa [lowerChar] using h
    rcases hd with rfl | rfl <;> exact ⟨by decide, by decide⟩
  · obtain ⟨e, he, hset, -⟩ := lowerChar_eq hc
    rw [he, List.mem_singleton] at h
    rwa [h]

theorem lowerSigma_cases (before behind : Text) :
    lowerSigma before behind = 'ς' ∨ lowerSigma before behind = 'σ' := by
  unfold lowerSigma
  split
  · exact .inl rfl
  · exact .inr rfl

theorem isSettled_lowerSigma (before behind : Text) : IsSettled (lowerSigma before behind) := by
  rcases lowerSigma_cases before behind with h | h <;> rw [h] <;>
    exact ⟨by decide, by decide⟩

/-! ## Texts -/

theorem isSettled_of_mem_lowercaseAfter {before t : Text} {d : Char}
    (h : d ∈ lowercaseAfter before t) : IsSettled d := by
  induction t generalizing before with
  | nil => exact absurd h List.not_mem_nil
  | cons c cs ih =>
    rcases List.mem_append.1 h with h | h
    · split at h
      · rw [List.mem_singleton.1 h]
        exact isSettled_lowerSigma before cs
      · exact isSettled_of_mem_lowerChar h
    · exact ih h

theorem lowercaseAfter_of_isSettled {before t : Text} (h : ∀ d ∈ t, IsSettled d) :
    lowercaseAfter before t = t := by
  induction t generalizing before with
  | nil => rfl
  | cons c cs ih =>
    rw [List.forall_mem_cons] at h
    rw [lowercaseAfter, if_neg h.1.1, h.1.2, ih h.2]
    rfl

/-- The lowercase form of a text is its own lowercase form. -/
@[simp] theorem lowercase_lowercase (t : Text) : lowercase (lowercase t) = lowercase t :=
  lowercaseAfter_of_isSettled fun _ => isSettled_of_mem_lowercaseAfter

/-- A keyword set does not tell a word from its lowercase form. -/
@[simp] theorem Keywords.contains_lowercase (ks : Keywords) (w : Text) :
    ks.contains (lowercase w) = ks.contains w := by
  rw [contains, lowercase_lowercase, contains]

/-- The lowercase form of what follows `before`, character by character. -/
theorem lowercaseAfter_cons (before cs : Text) {c : Char} (hc : c ≠ 'İ') :
    ∃ d, lowercaseAfter before (c :: cs) = d :: lowercaseAfter (c :: before) cs ∧
      (d = c ∨ isLetter d = true) := by
  by_cases hsigma : c = 'Σ'
  · refine ⟨lowerSigma before cs, by rw [lowercaseAfter, if_pos hsigma]; rfl, .inr ?_⟩
    rcases lowerSigma_cases before cs with h | h <;> rw [h] <;> decide
  · obtain ⟨d, hd, -, hcase⟩ := lowerChar_eq hc
    exact ⟨d, by rw [lowercaseAfter, if_neg hsigma, hd]; rfl, hcase⟩

theorem isWordChar_of_eq_or_isLetter {c d : Char} (h : d = c ∨ isLetter d = true)
    (hc : isWordChar c = true) : isWordChar d = true := by
  rcases h with rfl | hletter
  · exact hc
  · simp [isWordChar, hletter]

theorem beginsWord_of_eq_or_isLetter {c d : Char} (h : d = c ∨ isLetter d = true)
    (hc : beginsWord c = true) : beginsWord d = true := by
  rcases h with rfl | hletter
  · exact hc
  · simp [beginsWord, hletter]

theorem isWordChar_of_beginsWord {c : Char} (hc : beginsWord c = true) : isWordChar c = true := by
  have hcase : isLetter c = true ∨ c = '_' := by simpa [beginsWord] using hc
  rcases hcase with h | h <;> simp [isWordChar, h]

theorem lowercase_ne_nil {w : Text} (hne : w ≠ []) : lowercase w ≠ [] := by
  obtain ⟨c, w, rfl⟩ := List.exists_cons_of_ne_nil hne
  by_cases hc : c = 'İ'
  · subst hc
    exact List.cons_ne_nil 'i' _
  · obtain ⟨d, hd, -⟩ := lowercaseAfter_cons [] w hc
    rw [lowercase, hd]
    exact List.cons_ne_nil d _

/-- The lowercase form of word characters consists of word characters. -/
theorem isWordChar_of_mem_lowercaseAfter {before t : Text} (hI : 'İ' ∉ t)
    (ht : ∀ c ∈ t, isWordChar c = true) : ∀ d ∈ lowercaseAfter before t, isWordChar d = true := by
  induction t generalizing before with
  | nil => exact fun d hd => absurd hd List.not_mem_nil
  | cons c cs ih =>
    rw [List.mem_cons, not_or] at hI
    rw [List.forall_mem_cons] at ht
    obtain ⟨d, hd, hcase⟩ := lowercaseAfter_cons before cs (Ne.symm hI.1)
    rw [hd, List.forall_mem_cons]
    exact ⟨isWordChar_of_eq_or_isLetter hcase ht.1, ih hI.2 ht.2⟩

/-- The lowercase form of word characters consists of word characters and the dots of `İ`. -/
theorem mem_lowercaseAfter {before w : Text} {c : Char} (hw : ∀ c ∈ w, isWordChar c = true)
    (hc : c ∈ lowercaseAfter before w) : isWordChar c = true ∨ c = '\u0307' := by
  induction w generalizing before with
  | nil => exact absurd hc List.not_mem_nil
  | cons d w ih =>
    rw [List.forall_mem_cons] at hw
    by_cases hd : d = 'İ'
    · subst hd
      obtain rfl | rfl | hc : c = 'i' ∨ c = '\u0307' ∨ c ∈ lowercaseAfter ('İ' :: before) w := by
        simpa [lowercaseAfter, lowerChar] using hc
      · exact .inl (by decide)
      · exact .inr rfl
      · exact ih hw.2 hc
    · obtain ⟨e, he, hcase⟩ := lowercaseAfter_cons before w hd
      rw [he, List.mem_cons] at hc
      obtain rfl | hc := hc
      · exact .inl (isWordChar_of_eq_or_isLetter hcase hw.1)
      · exact ih hw.2 hc

/-- A word in lowercase is a word. -/
theorem exists_lowercase_word {c : Char} {w : Text} (hc : beginsWord c = true)
    (hw : ∀ d ∈ w, isWordChar d = true) (hI : 'İ' ∉ c :: w) :
    ∃ d v, lowercase (c :: w) = d :: v ∧ beginsWord d = true ∧ ∀ e ∈ v, isWordChar e = true := by
  rw [List.mem_cons, not_or] at hI
  obtain ⟨d, hd, hcase⟩ := lowercaseAfter_cons [] w (Ne.symm hI.1)
  exact ⟨d, _, hd, beginsWord_of_eq_or_isLetter hcase hc, isWordChar_of_mem_lowercaseAfter hI.2 hw⟩

/-- The lowercase form of word characters with a `İ` among them goes on with no word behind the
first of these. -/
theorem exists_lowercaseAfter_of_dottedI (before : Text) {t : Text} (hI : 'İ' ∈ t)
    (ht : ∀ c ∈ t, isWordChar c = true) :
    ∃ v r, lowercaseAfter before t = v ++ '\u0307' :: r ∧ ∀ d ∈ v, isWordChar d = true := by
  induction t generalizing before with
  | nil => cases hI
  | cons c cs ih =>
    rw [List.forall_mem_cons] at ht
    by_cases hc : c = 'İ'
    · subst hc
      have hi : isWordChar 'i' = true := by decide
      exact ⟨['i'], lowercaseAfter ('İ' :: before) cs, rfl, List.forall_mem_singleton.2 hi⟩
    · obtain ⟨d, hd, hcase⟩ := lowercaseAfter_cons before cs hc
      have hIcs : 'İ' ∈ cs := (List.mem_cons.1 hI).resolve_left (Ne.symm hc)
      obtain ⟨v, r, hv, hword⟩ := ih (c :: before) hIcs ht.2
      have hdword := isWordChar_of_eq_or_isLetter hcase ht.1
      exact ⟨d :: v, r, by rw [hd, hv]; rfl, List.forall_mem_cons.2 ⟨hdword, hword⟩⟩

/-- A word with a `İ` in it is in lowercase a shorter word with a combining dot behind it. -/
theorem exists_lowercase_of_dottedI {c : Char} {w : Text} (hc : beginsWord c = true)
    (hw : ∀ d ∈ w, isWordChar d = true) (hI : 'İ' ∈ c :: w) :
    ∃ d v r, lowercase (c :: w) = d :: v ++ '\u0307' :: r ∧ beginsWord d = true ∧
      ∀ e ∈ v, isWordChar e = true := by
  by_cases hc' : c = 'İ'
  · subst hc'
    exact ⟨'i', [], lowercaseAfter ['İ'] w, rfl, by decide, nofun⟩
  · obtain ⟨d, hd, hcase⟩ := lowercaseAfter_cons [] w hc'
    obtain ⟨v, r, hv, hword⟩ := exists_lowercaseAfter_of_dottedI [c]
      ((List.mem_cons.1 hI).resolve_left (Ne.symm hc')) hw
    have hbegins := beginsWord_of_eq_or_isLetter hcase hc
    exact ⟨d, v, r, by rw [lowercase, hd, hv]; rfl, hbegins, hword⟩

end CompactSql
