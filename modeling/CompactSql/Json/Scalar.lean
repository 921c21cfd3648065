import CompactSql.Json.Error

/-!
# Reading names and strings

## Main definitions

* `Json.skipBlanks` — a text without the blanks at its beginning.
* `Json.readName` — reads the rest of `true`, `false` or `null`.
* `Json.readString` — reads a string whose opening quote has been passed.

`length_of_readString` says that a string takes at least its closing quote.
-/

namespace CompactSql.Json

theorem exists_of_map_eq_ok {ε α β : Type} {f : α → β} {x : Except ε α} {b : β}
    (h : x.map f = .ok b) : ∃ a, x = .ok a ∧ f a = b := by
  cases x with
  | error => simp [Except.map] at h
  | ok a => exact ⟨a, rfl, by simpa [Except.map] using h⟩

/-! ## Blanks and names -/

/-- Whether `c` may stand between the tokens of a JSON text. -/
def isBlank (c : Char) : Bool := c == ' ' || c == '\n' || c == '\t' || c == '\r'

/-- The text without the blanks at its beginning. -/
def skipBlanks (t : Text) : Text := t.dropWhile isBlank

theorem suffix_skipBlanks (t : Text) : skipBlanks t <:+ t := List.dropWhile_suffix _

/-- Reads the given characters of a name. -/
def readName : Text → Text → Except Failure Text
  | [], t => .ok t
  | _ :: _, [] => .error (.before .endInValue [])
  | e :: es, c :: t => if c = e then readName es t else .error (.atFirst .expectedName (c :: t))

theorem suffix_of_readName {name t r : Text} (h : readName name t = .ok r) : r <:+ t := by
  fun_induction readName name t with
  | case1 => cases h; exact List.suffix_refl _
  | case2 => simp at h
  | case3 e es t ih => exact (ih h).trans (List.suffix_cons _ _)
  | case4 => simp at h

/-! ## Strings -/

/-- The value of a hexadecimal digit. -/
def hexValue? (c : Char) : Option Nat :=
  if c.isDigit then some (c.toNat - '0'.toNat)
  else if 'a'.toNat ≤ c.toNat && c.toNat ≤ 'f'.toNat then some (c.toNat - 'a'.toNat + 10)
  else if 'A'.toNat ≤ c.toNat && c.toNat ≤ 'F'.toNat then some (c.toNat - 'A'.toNat + 10)
  else none

/-- The UTF-16 unit that four hexadecimal digits stand for. -/
def unitOf? (a b c d : Char) : Option Nat := do
  return 0x1000 * (← hexValue? a) + 0x100 * (← hexValue? b) + 0x10 * (← hexValue? c) +
    (← hexValue? d)

/-- Reads the four hexadecimal digits of an escape. -/
def readUnit (t : Text) : Result Nat :=
  if t.byteSize < 4 then .error (.before .endInString [])
  else
    match t with
    | a :: b :: c :: d :: r =>
      match unitOf? a b c d with
      | some n => .ok (n, r)
      | none => .error ⟨.invalidEscape, t.byteSize - 4⟩
    | _ => .error ⟨.invalidEscape, t.byteSize - 4⟩

/-- Whether the UTF-16 unit `n` is the first of a pair. -/
def isHighSurrogate (n : Nat) : Bool := 0xD800 ≤ n && n ≤ 0xDBFF

/-- Whether the UTF-16 unit `n` is the second of a pair. -/
def isLowSurrogate (n : Nat) : Bool := 0xDC00 ≤ n && n ≤ 0xDFFF

/-- Reads the second unit of a pair, behind the first one `high`. -/
def readLowSurrogate (high : Nat) : Text → Result Char
  | [] => .error (.before .endInString [])
  | '\\' :: [] => .error (.before .endInString [])
  | '\\' :: 'u' :: t =>
    match readUnit t with
    | .error e => .error e
    | .ok (low, r) =>
      if isLowSurrogate low then
        .ok (Char.ofNat (0x10000 + 0x400 * (high - 0xD800) + (low - 0xDC00)), r)
      else .error (.before .loneSurrogate r)
  | '\\' :: t => .error (.atFirst .endOfEscape t)
  | t => .error (.atFirst .endOfEscape t)

/-- Reads the units of an escape, behind its `u`. -/
def readUnits (t : Text) : Result Char :=
  match readUnit t with
  | .error e => .error e
  | .ok (n, r) =>
    if isLowSurrogate n then .error (.before .loneSurrogate r)
    else if isHighSurrogate n then readLowSurrogate n r
    else .ok (Char.ofNat n, r)

/-- Reads an escape behind its backslash. -/
def readEscape : Text → Result Char
  | [] => .error (.before .endInString [])
  | c :: t =>
    if c = '"' || c = '\\' || c = '/' then .ok (c, t)
    else if c = 'b' then .ok ('\x08', t)
    else if c = 'f' then .ok ('\x0c', t)
    else if c = 'n' then .ok ('\n', t)
    else if c = 'r' then .ok ('\r', t)
    else if c = 't' then .ok ('\t', t)
    else if c = 'u' then readUnits t
    else .error (.atFirst .invalidEscape (c :: t))

theorem suffix_of_readUnit {t r : Text} {n : Nat} (h : readUnit t = .ok (n, r)) : r <:+ t := by
  unfold readUnit at h
  split at h
  · simp at h
  · split at h
    · rename_i a b c d r' _
      split at h
      · cases h
        exact ⟨[a, b, c, d], rfl⟩
      · simp at h
    · simp at h

theorem suffix_of_readLowSurrogate {high : Nat} {t r : Text} {c : Char}
    (h : readLowSurrogate high t = .ok (c, r)) : r <:+ t := by
  unfold readLowSurrogate at h
  split at h
  · simp at h
  · simp at h
  · split at h
    · simp at h
    · rename_i hu
      split at h
      · simp only [Except.ok.injEq, Prod.mk.injEq] at h
        obtain ⟨_, rfl⟩ := h
        exact (suffix_of_readUnit hu).trans ⟨['\\', 'u'], rfl⟩
      · simp at h
  · simp at h
  · simp at h

theorem suffix_of_readUnits {t r : Text} {c : Char} (h : readUnits t = .ok (c, r)) :
    r <:+ t := by
  unfold readUnits at h
  split at h
  · simp at h
  · rename_i hu
    split at h
    · simp at h
    · split at h
      · exact (suffix_of_readLowSurrogate h).trans (suffix_of_readUnit hu)
      · cases h
        exact suffix_of_readUnit hu

theorem suffix_of_readEscape {t r : Text} {c : Char} (h : readEscape t = .ok (c, r)) :
    r <:+ t := by
  unfold readEscape at h
  split at h
  · simp at h
  · rename_i d u
    have hu : u <:+ d :: u := List.suffix_cons _ _
    repeat' split at h
    all_goals first
      | (cases h; exact hu)
      | exact (suffix_of_readUnits h).trans hu
      | simp at h

/-- Reads a string whose opening quote has been passed. -/
def readString : Text → Result Text
  | [] => .error (.before .endInString [])
  | c :: t =>
    if c = '"' then .ok ([], t)
    else if c = '\\' then
      match h : readEscape t with
      | .error e => .error e
      | .ok (d, r) =>
        have : r.length < t.length + 1 := Nat.lt_succ_of_le (suffix_of_readEscape h).length_le
        (readString r).map fun (s, r') => (d :: s, r')
    else if c.toNat < 0x20 then .error (.atFirst .controlCharacter (c :: t))
    else (readString t).map fun (s, r) => (c :: s, r)
termination_by t => t.length

/-- A string takes its closing quote at least. -/
theorem length_of_readString {t r s : Text} (h : readString t = .ok (s, r)) :
    r.length < t.length := by
  fun_induction readString t generalizing s with
  | case1 => simp at h
  | case2 t => cases h; exact Nat.lt_succ_self _
  | case3 => simp at h
  | case4 t _ d u hd hlt ih =>
    obtain ⟨⟨s', r'⟩, hs, heq⟩ := exists_of_map_eq_ok h
    cases heq
    have := ih hs
    simp only [List.length_cons]
    omega
  | case5 => simp at h
  | case6 c t _ _ _ ih =>
    obtain ⟨⟨s', r'⟩, hs, heq⟩ := exists_of_map_eq_ok h
    cases heq
    have := ih hs
    simp only [List.length_cons]
    omega

end CompactSql.Json
