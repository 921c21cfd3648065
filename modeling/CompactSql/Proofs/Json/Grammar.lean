import CompactSql.Proofs.Json.ReadBack

/-!
# The grammar of JSON texts

Which texts are JSON texts, and of which values, as long as there are no numbers in them. The
grammar relates a text to the value at its beginning and to what stands behind that. Blanks may
stand in front of every token. A text is one of at most one value, and what is written over several
lines is a text of the value that was written.

## Main definitions

* `Json.Begins` — a text begins with a value and goes on with another text.
* `Json.IsTextOf` — a text is one of a value.
* `Json.Value.lead` — the character with which the texts of a value begin.

## Main statements

* `Value.induction` — an induction over values that looks into arrays and objects.
* `Value.certain`, `IsTextOf.unique` — the grammar is unambiguous.
* `Value.legible`, `isTextOf_pretty_iff` — a value that is written over several lines.
-/

namespace CompactSql.Json

variable {t r k : Text} {v : Value} {vs : List Value} {ms : List (Text × Value)}

/-! ## Values -/

/-- What holds of a value if it holds of its elements and members holds of every value. -/
@[elab_as_elim]
theorem Value.induction {P : Value → Prop} (null : P .null) (bool : ∀ b, P (.bool b))
    (string : ∀ t, P (.string t)) (array : ∀ vs, (∀ v ∈ vs, P v) → P (.array vs))
    (object : ∀ ms, (∀ m ∈ ms, P m.2) → P (.object ms)) (v : Value) : P v :=
  match v with
  | .null => null
  | .bool b => bool b
  | .string t => string t
  | .array vs => array vs fun v _ => Value.induction null bool string array object v
  | .object ms => object ms fun m _ => Value.induction null bool string array object m.2
termination_by sizeOf v
decreasing_by
  · have := List.sizeOf_lt_of_mem ‹v ∈ vs›
    simp only [Value.array.sizeOf_spec]
    omega
  · have := List.sizeOf_lt_of_mem ‹m ∈ ms›
    obtain ⟨k, v⟩ := m
    simp only [Value.object.sizeOf_spec, Prod.mk.sizeOf_spec] at this ⊢
    omega

/-! ## The grammar -/

/-- The text `t` begins with the key `k` of a member and its colon, and goes on with `r`. -/
def BeginsKey (t k r : Text) : Prop :=
  ∃ u u', skipBlanks t = '"' :: u ∧ readString u = .ok (k, u') ∧ skipBlanks u' = ':' :: r

mutual

/-- The text `t` begins with a text of the value `v`, and goes on with `r`. -/
inductive Begins : (t : Text) → (v : Value) → (r : Text) → Prop where
  | null {t r : Text} (h : skipBlanks t = "null".toList ++ r) : Begins t .null r
  | bool {t r : Text} {b : Bool} (h : skipBlanks t = Value.boolText b ++ r) : Begins t (.bool b) r
  | string {t u s r : Text} (h : skipBlanks t = '"' :: u) (hs : readString u = .ok (s, r)) :
      Begins t (.string s) r
  | emptyArray {t u r : Text} (h : skipBlanks t = '[' :: u) (hclose : skipBlanks u = ']' :: r) :
      Begins t (.array []) r
  | array {t u w r : Text} {v : Value} {vs : List Value} (h : skipBlanks t = '[' :: u)
      (hv : Begins u v w) (hvs : EndsArray w vs r) : Begins t (.array (v :: vs)) r
  | emptyObject {t u r : Text} (h : skipBlanks t = '\x7b' :: u)
      (hclose : skipBlanks u = '\x7d' :: r) : Begins t (.object []) r
  | object {t u w x r k : Text} {v : Value} {ms : List (Text × Value)}
      (h : skipBlanks t = '\x7b' :: u) (hk : BeginsKey u k w) (hv : Begins w v x)
      (hms : EndsObject x ms r) : Begins t (.object ((k, v) :: ms)) r

/-- Behind an element, an array ends with the elements `vs`, each behind a comma. -/
inductive EndsArray : (t : Text) → (vs : List Value) → (r : Text) → Prop where
  | close {t r : Text} (h : skipBlanks t = ']' :: r) : EndsArray t [] r
  | comma {t u w r : Text} {v : Value} {vs : List Value} (h : skipBlanks t = ',' :: u)
      (hv : Begins u v w) (hvs : EndsArray w vs r) : EndsArray t (v :: vs) r

/-- Behind a member, an object ends with the members `ms`, each behind a comma. -/
inductive EndsObject : (t : Text) → (ms : List (Text × Value)) → (r : Text) → Prop where
  | close {t r : Text} (h : skipBlanks t = '\x7d' :: r) : EndsObject t [] r
  | comma {t u w x r k : Text} {v : Value} {ms : List (Text × Value)} (h : skipBlanks t = ',' :: u)
      (hk : BeginsKey u k w) (hv : Begins w v x) (hms : EndsObject x ms r) :
      EndsObject t ((k, v) :: ms) r

end

/-- The text `t` is a JSON text of the value `v`, up to blanks at its end. -/
def IsTextOf (t : Text) (v : Value) : Prop := ∃ r, Begins t v r ∧ skipBlanks r = []

/-! ## Unambiguity -/

/-- The first character of the texts of a value. -/
def Value.lead : Value → Char
  | .null => 'n'
  | .bool b => if b then 't' else 'f'
  | .string _ => '"'
  | .array _ => '['
  | .object _ => '\x7b'

theorem Value.lead_ne_close (v : Value) : v.lead ≠ ']' := by
  cases v <;> grind [Value.lead]

theorem Begins.head? (h : Begins t v r) : (skipBlanks t).head? = some v.lead := by
  cases h with
  | @bool _ _ b h => cases b <;> rw [h] <;> rfl
  | null h | string h _ | emptyArray h _ | array h _ _ | emptyObject h _ | object h _ _ _ =>
    rw [h]
    rfl

theorem Begins.not_closed {u : Text} (h : Begins t v r) (hclose : skipBlanks t = ']' :: u) :
    False := by
  have hlead := h.head?
  rw [hclose, List.head?_cons, Option.some.injEq] at hlead
  exact v.lead_ne_close hlead.symm

theorem BeginsKey.not_closed {u : Text} (h : BeginsKey t k r) (hclose : skipBlanks t = '\x7d' :: u) :
    False := by
  obtain ⟨_, _, hquote, -, -⟩ := h
  exact absurd (hquote.symm.trans hclose) (by simp)

theorem BeginsKey.unique {k' r' : Text} (h : BeginsKey t k r) (h' : BeginsKey t k' r') :
    k = k' ∧ r = r' := by
  obtain ⟨u, w, hquote, hk, hcolon⟩ := h
  obtain ⟨u', w', hquote', hk', hcolon'⟩ := h'
  obtain rfl : u = u' := by simpa using hquote.symm.trans hquote'
  obtain ⟨rfl, rfl⟩ : k = k' ∧ w = w' := by simpa using hk.symm.trans hk'
  exact ⟨rfl, by simpa using hcolon.symm.trans hcolon'⟩

/-- A text that begins with the value does not begin with another one, nor does it go on at another
place. -/
def Value.Certain (v : Value) : Prop :=
  ∀ {t r : Text} {v' : Value} {r' : Text}, Begins t v r → Begins t v' r' → v = v' ∧ r = r'

theorem EndsArray.unique {vs' : List Value} {r' : Text} (hcertain : ∀ v ∈ vs, v.Certain)
    (h : EndsArray t vs r) (h' : EndsArray t vs' r') : vs = vs' ∧ r = r' := by
  induction vs generalizing t vs' with
  | nil =>
    cases h with
    | close h =>
      cases h' with
      | close h' => exact ⟨rfl, by simpa using h.symm.trans h'⟩
      | comma h' _ _ => exact absurd (h.symm.trans h') (by simp)
  | cons v vs ih =>
    rw [List.forall_mem_cons] at hcertain
    cases h with
    | comma h hv hvs =>
      cases h' with
      | close h' => exact absurd (h.symm.trans h') (by simp)
      | comma h' hv' hvs' =>
        obtain rfl := List.tail_eq_of_cons_eq (h.symm.trans h')
        obtain ⟨rfl, rfl⟩ := hcertain.1 hv hv'
        obtain ⟨rfl, rfl⟩ := ih hcertain.2 hvs hvs'
        exact ⟨rfl, rfl⟩

theorem EndsObject.unique {ms' : List (Text × Value)} {r' : Text}
    (hcertain : ∀ m ∈ ms, m.2.Certain) (h : EndsObject t ms r) (h' : EndsObject t ms' r') :
    ms = ms' ∧ r = r' := by
  induction ms generalizing t ms' with
  | nil =>
    cases h with
    | close h =>
      cases h' with
      | close h' => exact ⟨rfl, by simpa using h.symm.trans h'⟩
      | comma h' _ _ _ => exact absurd (h.symm.trans h') (by simp)
  | cons m ms ih =>
    rw [List.forall_mem_cons] at hcertain
    cases h with
    | comma h hk hv hms =>
      cases h' with
      | close h' => exact absurd (h.symm.trans h') (by simp)
      | comma h' hk' hv' hms' =>
        obtain rfl := List.tail_eq_of_cons_eq (h.symm.trans h')
        obtain ⟨rfl, rfl⟩ := hk.unique hk'
        obtain ⟨rfl, rfl⟩ := hcertain.1 hv hv'
        obtain ⟨rfl, rfl⟩ := ih hcertain.2 hms hms'
        exact ⟨rfl, rfl⟩

/-- The first character tells the type of a value. -/
theorem Begins.lead_eq {v' : Value} {r' : Text} (h : Begins t v r) (h' : Begins t v' r') :
    v.lead = v'.lead :=
  Option.some.inj (h.head?.symm.trans h'.head?)

theorem Value.certain_array (ih : ∀ v ∈ vs, v.Certain) : (Value.array vs).Certain := by
  intro t r v' r' h h'
  have hlead := h.lead_eq h'
  cases h with
  | emptyArray h hclose =>
    cases h' with
    | emptyArray h' hclose' =>
      obtain rfl := List.tail_eq_of_cons_eq (h.symm.trans h')
      exact ⟨rfl, List.tail_eq_of_cons_eq (hclose.symm.trans hclose')⟩
    | array h' hv' _ =>
      obtain rfl := List.tail_eq_of_cons_eq (h.symm.trans h')
      exact (hv'.not_closed hclose).elim
    | _ => grind [Value.lead]
  | array h hv hvs =>
    cases h' with
    | emptyArray h' hclose' =>
      obtain rfl := List.tail_eq_of_cons_eq (h.symm.trans h')
      exact (hv.not_closed hclose').elim
    | array h' hv' hvs' =>
      rw [List.forall_mem_cons] at ih
      obtain rfl := List.tail_eq_of_cons_eq (h.symm.trans h')
      obtain ⟨rfl, rfl⟩ := ih.1 hv hv'
      obtain ⟨rfl, rfl⟩ := hvs.unique ih.2 hvs'
      exact ⟨rfl, rfl⟩
    | _ => grind [Value.lead]

theorem Value.certain_object (ih : ∀ m ∈ ms, m.2.Certain) : (Value.object ms).Certain := by
  intro t r v' r' h h'
  have hlead := h.lead_eq h'
  cases h with
  | emptyObject h hclose =>
    cases h' with
    | emptyObject h' hclose' =>
      obtain rfl := List.tail_eq_of_cons_eq (h.symm.trans h')
      exact ⟨rfl, List.tail_eq_of_cons_eq (hclose.symm.trans hclose')⟩
    | object h' hk' _ _ =>
      obtain rfl := List.tail_eq_of_cons_eq (h.symm.trans h')
      exact (hk'.not_closed hclose).elim
    | _ => grind [Value.lead]
  | object h hk hv hms =>
    cases h' with
    | emptyObject h' hclose' =>
      obtain rfl := List.tail_eq_of_cons_eq (h.symm.trans h')
      exact (hk.not_closed hclose').elim
    | object h' hk' hv' hms' =>
      rw [List.forall_mem_cons] at ih
      obtain rfl := List.tail_eq_of_cons_eq (h.symm.trans h')
      obtain ⟨rfl, rfl⟩ := hk.unique hk'
      obtain ⟨rfl, rfl⟩ := ih.1 hv hv'
      obtain ⟨rfl, rfl⟩ := hms.unique ih.2 hms'
      exact ⟨rfl, rfl⟩
    | _ => grind [Value.lead]

theorem Value.certain (v : Value) : v.Certain := by
  induction v using Value.induction with
  | null =>
    intro t r v' r' h h'
    have hlead := h.lead_eq h'
    cases h with
    | null h =>
      cases h' with
      | null h' => exact ⟨rfl, List.append_cancel_left (h.symm.trans h')⟩
      | _ => grind [Value.lead]
  | bool b =>
    intro t r v' r' h h'
    have hlead := h.lead_eq h'
    cases h with
    | bool h =>
      cases h' with
      | @bool _ _ b' h' =>
        obtain rfl : b = b' := by grind [Value.lead]
        exact ⟨rfl, List.append_cancel_left (h.symm.trans h')⟩
      | _ => grind [Value.lead]
  | string s =>
    intro t r v' r' h h'
    have hlead := h.lead_eq h'
    cases h with
    | string h hs =>
      cases h' with
      | string h' hs' =>
        obtain rfl := List.tail_eq_of_cons_eq (h.symm.trans h')
        simpa using hs.symm.trans hs'
      | _ => grind [Value.lead]
  | array vs ih => exact Value.certain_array ih
  | object ms ih => exact Value.certain_object ih

theorem IsTextOf.unique {v' : Value} (h : IsTextOf t v) (h' : IsTextOf t v') : v = v' := by
  obtain ⟨r, hv, -⟩ := h
  obtain ⟨r', hv', -⟩ := h'
  exact (v.certain hv hv').1

/-! ## Values over several lines -/

open Value

theorem skipBlanks_newline_append (depth : Nat) (t : Text) :
    skipBlanks (newline depth ++ t) = skipBlanks t := by
  have hblank : ∀ c ∈ newline depth, isBlank c = true := by
    intro c hc
    obtain rfl | hc := List.mem_cons.1 hc
    · decide
    · rw [List.eq_of_mem_replicate hc]
      decide
  exact List.dropWhile_append_of_pos hblank

/-- Blanks may stand in front of a value. -/
theorem Begins.of_skipBlanks_eq {u : Text} (h : Begins t v r) (hu : skipBlanks u = skipBlanks t) :
    Begins u v r := by
  cases h with
  | null h => exact .null (hu.trans h)
  | bool h => exact .bool (hu.trans h)
  | string h hs => exact .string (hu.trans h) hs
  | emptyArray h hclose => exact .emptyArray (hu.trans h) hclose
  | array h hv hvs => exact .array (hu.trans h) hv hvs
  | emptyObject h hclose => exact .emptyObject (hu.trans h) hclose
  | object h hk hv hms => exact .object (hu.trans h) hk hv hms

/-- What is written for the value is read as it, wherever it stands. -/
def Value.Legible (v : Value) : Prop :=
  ∀ (depth : Nat) (r : Text), Begins (v.prettyAt depth ++ r) v r

theorem Value.Legible.line (h : v.Legible) (depth : Nat) (r : Text) :
    Begins (newline depth ++ (v.prettyAt depth ++ r)) v r :=
  (h depth r).of_skipBlanks_eq (skipBlanks_newline_append depth _)

theorem Value.Legible.spaced (h : v.Legible) (depth : Nat) (r : Text) :
    Begins (' ' :: (v.prettyAt depth ++ r)) v r :=
  (h depth r).of_skipBlanks_eq (List.dropWhile_cons_of_pos (by decide))

theorem beginsKey_newline_append (depth : Nat) (k r : Text) :
    BeginsKey (newline depth ++ (encode k ++ ':' :: r)) k r := by
  refine ⟨k.flatMap escape ++ '"' :: ':' :: r, ':' :: r, ?_, readString_flatMap_escape k _,
    skipBlanks_cons (by decide) r⟩
  rw [skipBlanks_newline_append, encode_append]
  exact skipBlanks_cons (by decide) _

/-! ### Arrays -/

theorem prettyElements_cons (depth : Nat) (v : Value) (vs : List Value) :
    prettyElements depth (v :: vs) =
      newline depth ++ v.prettyAt depth ++
        vs.flatMap (',' :: newline depth ++ ·.prettyAt depth) := by
  induction vs generalizing v with
  | nil => simp [prettyElements]
  | cons w vs ih =>
    rw [prettyElements, ih, List.flatMap_cons]
    simp only [List.cons_append, List.append_assoc]

theorem endsArray_append (h : ∀ v ∈ vs, v.Legible) (depth outer : Nat) (r : Text) :
    EndsArray (vs.flatMap (',' :: newline depth ++ ·.prettyAt depth) ++ (newline outer ++ ']' :: r))
      vs r := by
  induction vs with
  | nil =>
    refine .close ?_
    rw [List.flatMap_nil, List.nil_append, skipBlanks_newline_append]
    exact skipBlanks_cons (by decide) r
  | cons v vs ih =>
    rw [List.forall_mem_cons] at h
    simp only [List.flatMap_cons, List.cons_append, List.append_assoc]
    exact .comma (skipBlanks_cons (by decide) _) (h.1.line depth _) (ih h.2)

theorem Value.legible_array (h : ∀ v ∈ vs, v.Legible) : (Value.array vs).Legible := by
  intro depth r
  cases vs with
  | nil =>
    rw [prettyAt]
    exact .emptyArray (skipBlanks_cons (by decide) _) (skipBlanks_cons (by decide) r)
  | cons v vs =>
    rw [List.forall_mem_cons] at h
    rw [prettyAt, prettyElements_cons]
    simp only [List.cons_append, List.append_assoc, List.nil_append]
    exact .array (skipBlanks_cons (by decide) _) (h.1.line (depth + 1) _)
      (endsArray_append h.2 (depth + 1) depth r)

/-! ### Objects -/

/-- A member of an object, in a line of its own. -/
def prettyMember (depth : Nat) (m : Text × Value) : Text :=
  newline depth ++ encode m.1 ++ [':', ' '] ++ m.2.prettyAt depth

theorem prettyMembers_cons (depth : Nat) (m : Text × Value) (ms : List (Text × Value)) :
    prettyMembers depth (m :: ms) =
      prettyMember depth m ++ ms.flatMap (',' :: prettyMember depth ·) := by
  induction ms generalizing m with
  | nil => simp [prettyMembers, prettyMember]
  | cons n ms ih =>
    rw [prettyMembers, ih, List.flatMap_cons]
    simp only [prettyMember, List.cons_append, List.append_assoc]

theorem prettyMember_append (depth : Nat) (m : Text × Value) (r : Text) :
    prettyMember depth m ++ r =
      newline depth ++ (encode m.1 ++ ':' :: ' ' :: (m.2.prettyAt depth ++ r)) := by
  simp [prettyMember]

theorem endsObject_append (h : ∀ m ∈ ms, m.2.Legible) (depth outer : Nat) (r : Text) :
    EndsObject (ms.flatMap (',' :: prettyMember depth ·) ++ (newline outer ++ '\x7d' :: r))
      ms r := by
  induction ms with
  | nil =>
    refine .close ?_
    rw [List.flatMap_nil, List.nil_append, skipBlanks_newline_append]
    exact skipBlanks_cons (by decide) r
  | cons m ms ih =>
    rw [List.forall_mem_cons] at h
    rw [List.flatMap_cons, List.append_assoc, List.cons_append, prettyMember_append]
    exact .comma (skipBlanks_cons (by decide) _) (beginsKey_newline_append depth m.1 _)
      (h.1.spaced depth _) (ih h.2)

theorem Value.legible_object (h : ∀ m ∈ ms, m.2.Legible) : (Value.object ms).Legible := by
  intro depth r
  cases ms with
  | nil =>
    rw [prettyAt]
    exact .emptyObject (skipBlanks_cons (by decide) _) (skipBlanks_cons (by decide) r)
  | cons m ms =>
    rw [List.forall_mem_cons] at h
    rw [prettyAt, prettyMembers_cons]
    simp only [List.cons_append, List.append_assoc, List.nil_append, prettyMember_append]
    exact .object (skipBlanks_cons (by decide) _) (beginsKey_newline_append (depth + 1) m.1 _)
      (h.1.spaced (depth + 1) _) (endsObject_append h.2 (depth + 1) depth r)

/-! ### All values -/

theorem Value.legible (v : Value) : v.Legible := by
  induction v using Value.induction with
  | null => exact fun depth r => .null (skipBlanks_cons (by decide) _)
  | bool b => exact fun depth r => .bool (by cases b <;> exact skipBlanks_cons (by decide) _)
  | string s =>
    intro depth r
    rw [prettyAt, encode_append]
    exact .string (skipBlanks_cons (by decide) _) (readString_flatMap_escape s r)
  | array vs ih => exact Value.legible_array ih
  | object ms ih => exact Value.legible_object ih

/-- What is written for a value over several lines is a text of that value, and of no other one. -/
theorem isTextOf_pretty_iff {v' : Value} : IsTextOf v.pretty v' ↔ v' = v := by
  have hpretty : IsTextOf v.pretty v := by
    have hv := v.legible 0 []
    rw [List.append_nil] at hv
    exact ⟨[], hv, skipBlanks_nil⟩
  constructor
  · exact fun h => h.unique hpretty
  · rintro rfl
    exact hpretty

end CompactSql.Json
