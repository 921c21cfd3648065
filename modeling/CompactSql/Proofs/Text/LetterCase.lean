import CompactSql.Proofs.Text.Cut
import CompactSql.Text.Lowercase

/-!
# Letter case

Two texts that differ in the case of ASCII letters only have the same caseless form. What looks at
characters in a way that cannot tell a capital from its small letter treats them alike.

## Main definitions

* `IgnoresCase` — a function of characters that cannot tell a capital from its small letter.
* `hasOneCase` — the characters that have no other case in ASCII.
* `Text.caseless` — a text with its ASCII capitals written small.

## Main statements

* `IgnoresCase.of_capitals` — the twenty-six capitals decide.
* `takeWhile_caseless`, `dropWhile_caseless`, `cutAt_caseless` — runs and cuts.
* `lowercase_caseless` — the lowercase form of a text.
-/

namespace CompactSql

variable {α : Type} {f : Char → α} {p : Char → Bool} {c q : Char}

/-! ## Characters -/

/-- The ASCII capitals. -/
def capitals : List Char := [
  'A', 'B', 'C', 'D', 'E', 'F', 'G', 'H', 'I', 'J', 'K', 'L', 'M', 'N', 'O', 'P', 'Q', 'R', 'S',
  'T', 'U', 'V', 'W', 'X', 'Y', 'Z']

theorem toLower_eq_self_or_mem_capitals (c : Char) : c.toLower = c ∨ c ∈ capitals := by
  unfold Char.toLower
  split
  · rename_i h
    have hall : ∀ n < 91, 65 ≤ n → Char.ofNat n ∈ capitals := by decide
    have hmem := hall c.toNat (Nat.lt_succ_of_le h.2) h.1
    rw [Char.ofNat_toNat] at hmem
    exact .inr hmem
  · exact .inl rfl

/-- Whether a function cannot tell an ASCII capital from its small letter. -/
def IgnoresCase (f : Char → α) : Prop := ∀ c : Char, f c.toLower = f c

theorem IgnoresCase.of_capitals [DecidableEq α]
    (h : (capitals.all fun c => f c.toLower = f c) = true) : IgnoresCase f := by
  intro c
  rcases toLower_eq_self_or_mem_capitals c with hc | hc
  · rw [hc]
  · exact of_decide_eq_true (List.all_eq_true.1 h c hc)

theorem ignoresCase_toLower : IgnoresCase Char.toLower := .of_capitals (by decide)

/-- Whether a character is neither an ASCII capital nor the small letter of one. -/
def hasOneCase (q : Char) : Bool := capitals.all fun c => c != q && c.toLower != q

theorem toLower_eq_iff (hq : hasOneCase q = true) : c.toLower = q ↔ c = q := by
  rcases toLower_eq_self_or_mem_capitals c with hc | hc
  · rw [hc]
  · obtain ⟨hne, hne'⟩ : c ≠ q ∧ c.toLower ≠ q := by simpa using List.all_eq_true.1 hq c hc
    exact iff_of_false hne' hne

/-! ## Texts -/

namespace Text

variable {t : Text}

/-- The text with its ASCII capitals written small. -/
def caseless (t : Text) : Text := t.map Char.toLower

@[simp] theorem caseless_nil : caseless [] = [] := rfl

@[simp] theorem caseless_cons (c : Char) (t : Text) :
    caseless (c :: t) = c.toLower :: t.caseless := rfl

@[simp] theorem caseless_append (t u : Text) : caseless (t ++ u) = t.caseless ++ u.caseless :=
  List.map_append

@[simp] theorem length_caseless (t : Text) : t.caseless.length = t.length := List.length_map _

@[simp] theorem caseless_caseless (t : Text) : t.caseless.caseless = t.caseless := by
  rw [caseless, caseless, List.map_map]
  exact List.map_congr_left fun c _ => ignoresCase_toLower c

@[simp] theorem reverse_caseless (t : Text) : t.caseless.reverse = caseless t.reverse :=
  List.map_reverse.symm

@[simp] theorem head?_caseless (t : Text) : t.caseless.head? = t.head?.map Char.toLower :=
  List.head?_map

@[simp] theorem drop_caseless (n : Nat) (t : Text) : t.caseless.drop n = caseless (t.drop n) :=
  List.map_drop.symm

theorem takeWhile_caseless (hp : IgnoresCase p) (t : Text) :
    t.caseless.takeWhile p = caseless (t.takeWhile p) := by
  rw [caseless, List.takeWhile_map, show p ∘ Char.toLower = p from funext hp]
  rfl

theorem dropWhile_caseless (hp : IgnoresCase p) (t : Text) :
    t.caseless.dropWhile p = caseless (t.dropWhile p) := by
  rw [caseless, List.dropWhile_map, show p ∘ Char.toLower = p from funext hp]
  rfl

theorem isPrefixOf_caseless {d : Text} (hd : d.all hasOneCase = true) (t : Text) :
    d.isPrefixOf t.caseless = d.isPrefixOf t := by
  induction d generalizing t with
  | nil => simp
  | cons q d ih =>
    rw [List.all_cons, Bool.and_eq_true] at hd
    cases t with
    | nil => rfl
    | cons c t =>
      have hq : (q == c.toLower) = (q == c) := by
        rw [Bool.eq_iff_iff, beq_iff_eq, beq_iff_eq, eq_comm, toLower_eq_iff hd.1, eq_comm]
      rw [caseless_cons, List.isPrefixOf, List.isPrefixOf, hq, ih hd.2]

/-- A cut at a delimiter without letters. -/
theorem cutAt_caseless {d : Text} (hd : d.all hasOneCase = true) (t : Text) :
    cutAt d t.caseless = (cutAt d t).map fun (b, r) => (b.caseless, r.caseless) := by
  induction t with
  | nil =>
    simp only [caseless_nil, cutAt]
    split <;> rfl
  | cons c t ih =>
    have hprefix := isPrefixOf_caseless hd (c :: t)
    rw [caseless_cons] at hprefix ⊢
    rw [cutAt, cutAt, hprefix, ih]
    split
    · rw [← caseless_cons, drop_caseless]
      rfl
    · rw [Option.map_map, Option.map_map]
      rfl

end Text

/-! ## Lowercase forms -/

theorem ignoresCase_lowerChar : IgnoresCase lowerChar := .of_capitals (by decide +kernel)

theorem meetsCased_caseless (t : Text) : meetsCased t.caseless = meetsCased t := by
  have hignorable : IgnoresCase caseIgnorable.has := .of_capitals (by decide +kernel)
  have hcased : IgnoresCase cased.has := .of_capitals (by decide +kernel)
  rw [meetsCased, Text.dropWhile_caseless hignorable, meetsCased]
  cases t.dropWhile caseIgnorable.has with
  | nil => rfl
  | cons c r => exact hcased c

theorem lowercaseAfter_caseless (before t : Text) :
    lowercaseAfter before.caseless t.caseless = lowercaseAfter before t := by
  induction t generalizing before with
  | nil => rfl
  | cons c t ih =>
    have hsigma : c.toLower = 'Σ' ↔ c = 'Σ' := toLower_eq_iff (by decide)
    have htail : lowercaseAfter (c.toLower :: before.caseless) (Text.caseless t) =
        lowercaseAfter (c :: before) t := ih (c :: before)
    simp only [Text.caseless_cons, lowercaseAfter, hsigma, lowerSigma, meetsCased_caseless,
      ignoresCase_lowerChar c, htail]

/-- The lowercase form of a text does not depend on the case of its letters. -/
@[simp] theorem lowercase_caseless (t : Text) : lowercase t.caseless = lowercase t :=
  lowercaseAfter_caseless [] t

end CompactSql
