import CompactSql.Text.Basic
import Mathlib.Data.List.Infix
import Mathlib.Data.List.TakeWhile

/-!
# Cuts and runs

A run of characters of one kind, and the part of a text before a delimiter, are found again in
every text that goes on in another way, as long as the run does not grow.

## Main definitions

* `Longest` — the longest beginning of a text with some property, and what follows it.
* `FirstAt` — the first place where a text holds a delimiter.

## Main statements

* `takeWhile_append_of_head`, `dropWhile_append_of_head` — a run in front of a text.
* `span_eq_iff` — a text splits into a run and the rest in one way.
* `longest_run` — the run at the beginning of a text is the longest one.
* `cutAt_append` — a cut does not depend on what stands behind the delimiter.
* `cutAt_singleton_iff` — a cut at a single character.
* `cutAt_eq_some_iff`, `cutAt_eq_none_iff` — a cut is made at the first place of the delimiter.
-/

namespace CompactSql.Text

variable {p : Char → Bool} {w t r d b : Text}

/-! ## Characters of a kind -/

theorem ne_of_true_of_false {c e : Char} (hc : p c = true) (he : p e = false) : c ≠ e := by
  rintro rfl
  exact Bool.noConfusion (hc.symm.trans he)

theorem any_head_eq_false (hr : ∀ c ∈ r.head?, p c = false) : r.head?.any p = false := by
  cases r with
  | nil => rfl
  | cons c r => exact hr c rfl

/-! ## Runs -/

theorem takeWhile_eq_nil_of_head (hr : ∀ c ∈ r.head?, p c = false) : r.takeWhile p = [] := by
  cases r with
  | nil => rfl
  | cons c r => rw [List.takeWhile_cons, hr c rfl]; rfl

theorem dropWhile_eq_self_of_head (hr : ∀ c ∈ r.head?, p c = false) : r.dropWhile p = r := by
  cases r with
  | nil => rfl
  | cons c r => rw [List.dropWhile_cons, hr c rfl]; rfl

theorem takeWhile_append_of_head (hw : ∀ c ∈ w, p c = true) (hr : ∀ c ∈ r.head?, p c = false) :
    (w ++ r).takeWhile p = w := by
  rw [List.takeWhile_append_of_pos hw, takeWhile_eq_nil_of_head hr, List.append_nil]

theorem dropWhile_append_of_head (hw : ∀ c ∈ w, p c = true) (hr : ∀ c ∈ r.head?, p c = false) :
    (w ++ r).dropWhile p = r := by
  rw [List.dropWhile_append_of_pos hw, dropWhile_eq_self_of_head hr]

theorem head_dropWhile (p : Char → Bool) (t : Text) : ∀ c ∈ (t.dropWhile p).head?, p c = false := by
  intro c hc
  have h := List.head?_dropWhile_not p t
  rw [Option.mem_def] at hc
  rw [hc] at h
  exact h

/-- A text splits into a run and the rest in one way. -/
theorem span_eq_iff :
    (t.takeWhile p = w ∧ t.dropWhile p = r) ↔
      t = w ++ r ∧ (∀ c ∈ w, p c = true) ∧ ∀ c ∈ r.head?, p c = false := by
  constructor
  · rintro ⟨rfl, rfl⟩
    exact ⟨List.takeWhile_append_dropWhile.symm, fun _ => List.mem_takeWhile_imp,
      head_dropWhile p t⟩
  · rintro ⟨rfl, hw, hr⟩
    exact ⟨takeWhile_append_of_head hw hr, dropWhile_append_of_head hw hr⟩

/-- Two runs that end alike are equal if the texts that they begin are. -/
theorem append_inj_of_span {w' r' : Text} (hw : ∀ c ∈ w, p c = true) (hw' : ∀ c ∈ w', p c = true)
    (hr : ∀ c ∈ r.head?, p c = false) (hr' : ∀ c ∈ r'.head?, p c = false)
    (h : w ++ r = w' ++ r') : w = w' ∧ r = r' := by
  obtain ⟨htake, hdrop⟩ := span_eq_iff.2 ⟨rfl, hw, hr⟩
  obtain ⟨htake', hdrop'⟩ := span_eq_iff.2 ⟨h, hw', hr'⟩
  exact ⟨htake.symm.trans htake', hdrop.symm.trans hdrop'⟩

/-- The text `t` begins with `v`, which has the property `p` while no longer beginning has it, and
goes on with `r`. -/
structure Longest (p : Text → Prop) (t v r : Text) : Prop where
  append_eq : t = v ++ r
  holds : p v
  longest : ∀ w, p w → w <+: t → w <+: v

theorem longest_run (p : Char → Bool) (t : Text) :
    Longest (fun w => ∀ c ∈ w, p c = true) t (t.takeWhile p) (t.dropWhile p) := by
  refine ⟨List.takeWhile_append_dropWhile.symm, fun _ => List.mem_takeWhile_imp, fun w hw hwt => ?_⟩
  obtain ⟨r, rfl⟩ := hwt
  rw [List.takeWhile_append_of_pos hw]
  exact List.prefix_append w _

/-! ## Cuts -/

/-- What is put before a cut is put before the part in front of the delimiter. -/
theorem exists_of_map_before {o : Option (Text × Text)} {f : Text → Text}
    (h : (o.map fun (before, behind) => (f before, behind)) = some (b, r)) :
    ∃ b₀, o = some (b₀, r) ∧ b = f b₀ := by
  obtain ⟨⟨b₀, r₀⟩, ho, heq⟩ := Option.map_eq_some_iff.1 h
  simp only [Prod.mk.injEq] at heq
  obtain ⟨rfl, rfl⟩ := heq
  exact ⟨b₀, ho, rfl⟩

theorem cutAt_self (d r : Text) : cutAt d (d ++ r) = some ([], r) := by
  cases d with
  | nil => cases r <;> rfl
  | cons c d =>
    have h : (c :: d).isPrefixOf (c :: (d ++ r)) = true :=
      List.isPrefixOf_iff_prefix.2 ⟨r, rfl⟩
    simp [cutAt, h]

/-- What stands behind the delimiter plays no part in a cut. -/
theorem cutAt_append (h : cutAt d t = some (b, r)) (r' : Text) :
    cutAt d (b ++ d ++ r') = some (b, r') := by
  induction t generalizing b with
  | nil =>
    have hd : d ++ r' = r' ∧ b = [] := by
      simp only [cutAt] at h
      split at h <;> grind
    obtain ⟨hd, rfl⟩ := hd
    simpa [hd] using cutAt_self d r'
  | cons c cs ih =>
    simp only [cutAt] at h
    split at h
    · simp only [Option.some.injEq, Prod.mk.injEq] at h
      obtain ⟨rfl, -⟩ := h
      simpa using cutAt_self d r'
    · rename_i hd
      obtain ⟨b₀, hcut, rfl⟩ := exists_of_map_before h
      -- A delimiter that stood at `c` would end before the first one does, in either text.
      have hlen : d.length ≤ (c :: b₀ ++ d).length := by simp; omega
      have hno : d.isPrefixOf (c :: (b₀ ++ d ++ r')) = false := by
        rw [← eq_of_cutAt hcut, List.isPrefixOf_iff_prefix] at hd
        rw [Bool.eq_false_iff]
        intro hp
        rw [List.isPrefixOf_iff_prefix] at hp
        apply hd
        have hshort : d <+: c :: b₀ ++ d :=
          (List.isPrefix_append_of_length hlen).1 (by simpa using hp)
        simpa using hshort.trans (List.prefix_append _ r)
      simp only [List.cons_append, cutAt, hno, ih hcut]
      rfl

/-- Where the delimiter does not stand, a cut is made further to the back. -/
theorem cutAt_cons_of_not_prefix {c : Char} (h : ¬d <+: c :: t) :
    cutAt d (c :: t) = (cutAt d t).map fun (before, behind) => (c :: before, behind) := by
  rw [cutAt, if_neg (by rwa [List.isPrefixOf_iff_prefix])]

theorem cutAt_cons_of_ne {q c : Char} (h : q ≠ c) (t : Text) :
    cutAt [q] (c :: t) = (cutAt [q] t).map fun (before, behind) => (c :: before, behind) :=
  cutAt_cons_of_not_prefix (by simp [List.cons_prefix_cons, h])

theorem not_mem_of_cutAt {q : Char} (h : cutAt [q] t = some (b, r)) : q ∉ b := by
  induction t generalizing b with
  | nil => simp [cutAt] at h
  | cons c cs ih =>
    by_cases hc : q = c
    · subst hc
      rw [show q :: cs = [q] ++ cs from rfl, cutAt_self] at h
      simp only [Option.some.injEq, Prod.mk.injEq] at h
      obtain ⟨rfl, rfl⟩ := h
      exact List.not_mem_nil
    · rw [cutAt_cons_of_ne hc] at h
      obtain ⟨b₀, hcut, rfl⟩ := exists_of_map_before h
      simp [hc, ih hcut]

/-- A cut at a single character ends at its first place. -/
theorem cutAt_singleton_iff {q : Char} : cutAt [q] t = some (b, r) ↔ t = b ++ q :: r ∧ q ∉ b := by
  constructor
  · intro h
    exact ⟨by simpa using (eq_of_cutAt h).symm, not_mem_of_cutAt h⟩
  · rintro ⟨rfl, hq⟩
    induction b with
    | nil => exact cutAt_self [q] r
    | cons c b ih =>
      rw [List.mem_cons, not_or] at hq
      rw [List.cons_append, cutAt_cons_of_ne hq.1, ih hq.2]
      rfl

/-! ## First places -/

/-- The text `t` holds `d` between `b` and `r`, and nowhere further to the front. -/
structure FirstAt (d t b r : Text) : Prop where
  append_eq : t = b ++ d ++ r
  first : ∀ b' r', t = b' ++ d ++ r' → b.length ≤ b'.length

/-- The first place is one place. -/
theorem FirstAt.unique {b' r' : Text} (h : FirstAt d t b r) (h' : FirstAt d t b' r') :
    b = b' ∧ r = r' := by
  have hlen : b.length = b'.length :=
    Nat.le_antisymm (h.first b' r' h'.append_eq) (h'.first b r h.append_eq)
  have heq : b ++ (d ++ r) = b' ++ (d ++ r') := by
    simpa using h.append_eq.symm.trans h'.append_eq
  obtain ⟨hb, hrest⟩ := List.append_inj heq hlen
  exact ⟨hb, List.append_cancel_left hrest⟩

/-- A cut is made at the first place. -/
theorem firstAt_of_cutAt (h : cutAt d t = some (b, r)) : FirstAt d t b r := by
  refine ⟨(eq_of_cutAt h).symm, ?_⟩
  induction t generalizing b with
  | nil => grind [cutAt]
  | cons c cs ih =>
    rw [cutAt] at h
    split at h
    · cases h
      intros
      exact Nat.zero_le _
    · rename_i hprefix
      obtain ⟨b₀, hcut, rfl⟩ := exists_of_map_before h
      intro b' r' heq
      cases b' with
      | nil => exact absurd (List.isPrefixOf_iff_prefix.2 ⟨r', heq.symm⟩) hprefix
      | cons c' b' => exact Nat.succ_le_succ (ih hcut b' r' (List.cons.inj heq).2)

/-- A cut finds every delimiter that is not empty. -/
theorem exists_cutAt_of_isInfix (hd : d ≠ []) (h : d <:+: t) :
    ∃ before behind, cutAt d t = some (before, behind) := by
  induction t with
  | nil => exact absurd (List.infix_nil.1 h) hd
  | cons c t ih =>
    rw [cutAt]
    split
    · exact ⟨_, _, rfl⟩
    · rename_i hprefix
      have htail : d <:+: t := by
        refine (List.infix_cons_iff.1 h).resolve_left ?_
        intro hp
        exact hprefix (List.isPrefixOf_iff_prefix.2 hp)
      obtain ⟨before, behind, hcut⟩ := ih htail
      exact ⟨c :: before, behind, by rw [hcut]; rfl⟩

theorem cutAt_eq_some_iff (hd : d ≠ []) : cutAt d t = some (b, r) ↔ FirstAt d t b r := by
  constructor
  · exact firstAt_of_cutAt
  · intro h
    obtain ⟨b', r', hcut⟩ := exists_cutAt_of_isInfix hd ⟨b, r, h.append_eq.symm⟩
    obtain ⟨rfl, rfl⟩ := h.unique (firstAt_of_cutAt hcut)
    exact hcut

theorem cutAt_eq_none_iff (hd : d ≠ []) : cutAt d t = none ↔ ¬d <:+: t := by
  constructor
  · intro h hinfix
    obtain ⟨b, r, hcut⟩ := exists_cutAt_of_isInfix hd hinfix
    cases h.symm.trans hcut
  · intro h
    cases hcut : cutAt d t with
    | none => rfl
    | some p => exact absurd ⟨p.1, p.2, eq_of_cutAt hcut⟩ h

end CompactSql.Text
