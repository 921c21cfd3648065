import CompactSql.Json.Number

/-!
# Values of the wrong type

Where a value of one type is wanted, a value of another type is read as far as it takes to say what
it is, and is then refused.

## Main definitions

* `Json.readFound` — reads what stands at a place, arrays and objects excepted.
* `Json.refuse` — the failure of a value of the wrong type.
* `Json.nextElement`, `Json.nextMember` — the way to the next element of an array, and to the next
  key of an object.
-/

namespace CompactSql.Json

/-! ## Refusing a value -/

/-- Reads what stands at the beginning of a text. -/
def readFound (t : Text) : Result Found :=
  match t with
  | [] => .error (.before .endInValue [])
  | c :: r =>
    if c = 'n' then (readName ['u', 'l', 'l'] r).map fun r' => (.null, r')
    else if c = 't' then (readName ['r', 'u', 'e'] r).map fun r' => (.boolean true, r')
    else if c = 'f' then (readName ['a', 'l', 's', 'e'] r).map fun r' => (.boolean false, r')
    else if c = '-' || c.isDigit then readNumber t
    else if c = '"' then (readString r).map fun (s, r') => (.string s, r')
    else if c = '[' then .ok (.array, t)
    else if c = '\x7b' then .ok (.object, t)
    else .error (.atFirst .expectedValue t)

/-- The failure where a value of the type `wanted` should stand at the beginning of `t`. -/
def refuse (wanted : String) (t : Text) : Failure :=
  match readFound t with
  | .ok (found, r) => .before (.mistyped found wanted) r
  | .error e => e

/-! ## From one element to the next -/

/-- The text of the next element of an array, or nothing where the array ends. -/
def nextElement (first : Bool) (t : Text) : Except Failure (Option Text) :=
  match skipBlanks t with
  | [] => .error (.before .endInArray [])
  | c :: r =>
    if c = ']' then .ok none
    else if first then .ok (some (c :: r))
    else if c = ',' then
      match skipBlanks r with
      | [] => .error (.before .endInValue [])
      | d :: u => if d = ']' then .error (.atFirst .trailingComma (d :: u)) else .ok (some (d :: u))
    else .error (.atFirst .expectedArrayEnd (c :: r))

/-- The text behind the opening quote of the next key of an object, or nothing where the object
ends. -/
def nextMember (first : Bool) (t : Text) : Except Failure (Option Text) :=
  match skipBlanks t with
  | [] => .error (.before .endInObject [])
  | c :: r =>
    if c = '\x7d' then .ok none
    else if first then
      if c = '"' then .ok (some r) else .error (.atFirst .keyNotString (c :: r))
    else if c = ',' then
      match skipBlanks r with
      | [] => .error (.before .endInValue [])
      | d :: u =>
        if d = '"' then .ok (some u)
        else if d = '\x7d' then .error (.atFirst .trailingComma (d :: u))
        else .error (.atFirst .keyNotString (d :: u))
    else .error (.atFirst .expectedObjectEnd (c :: r))

/-- The text behind the end of an array. -/
def closeArray (t : Text) : Except Failure Text :=
  match skipBlanks t with
  | [] => .error (.before .endInArray [])
  | c :: r =>
    if c = ']' then .ok r
    else if c = ',' then
      let u := skipBlanks r
      if u.head? = some ']' then .error (.atFirst .trailingComma u)
      else .error (.atFirst .trailingCharacters u)
    else .error (.atFirst .trailingCharacters (c :: r))

/-- The text behind the end of an object, if it ends here, and else without its blanks. -/
def closeObject (t : Text) : Text :=
  match skipBlanks t with
  | '\x7d' :: r => r
  | r => r

/-- The text behind the colon of a member. -/
def readColon (t : Text) : Except Failure Text :=
  match skipBlanks t with
  | [] => .error (.before .endInObject [])
  | c :: r => if c = ':' then .ok r else .error (.atFirst .expectedColon (c :: r))

theorem suffix_of_nextElement {first : Bool} {t r : Text}
    (h : nextElement first t = .ok (some r)) : r <:+ t := by
  have ht := suffix_skipBlanks t
  unfold nextElement at h
  split at h
  · simp at h
  · rename_i c u hb
    rw [hb] at ht
    have hu := (suffix_skipBlanks u).trans ((List.suffix_cons c u).trans ht)
    split at h
    · simp at h
    · split at h
      · cases h; exact ht
      · split at h
        · split at h
          · simp at h
          · rename_i hd
            rw [hd] at hu
            split at h
            · simp at h
            · cases h; exact hu
        · simp at h

theorem suffix_of_nextMember {first : Bool} {t r : Text}
    (h : nextMember first t = .ok (some r)) : r <:+ t := by
  have ht := suffix_skipBlanks t
  unfold nextMember at h
  split at h
  · simp at h
  · rename_i c u hb
    rw [hb] at ht
    have hut := (List.suffix_cons c u).trans ht
    have hu := (suffix_skipBlanks u).trans hut
    split at h
    · simp at h
    · split at h
      · split at h
        · cases h; exact hut
        · simp at h
      · split at h
        · split at h
          · simp at h
          · rename_i hd
            rw [hd] at hu
            split at h
            · cases h; exact (List.suffix_cons _ _).trans hu
            · split at h <;> simp at h
        · simp at h

theorem suffix_of_readColon {t r : Text} (h : readColon t = .ok r) : r <:+ t := by
  have ht := suffix_skipBlanks t
  unfold readColon at h
  split at h
  · simp at h
  · rename_i c u hu
    rw [hu] at ht
    split at h
    · cases h
      exact (List.suffix_cons _ _).trans ht
    · simp at h

theorem suffix_of_closeArray {t r : Text} (h : closeArray t = .ok r) : r <:+ t := by
  have ht := suffix_skipBlanks t
  unfold closeArray at h
  split at h
  · simp at h
  · rename_i c u hu
    rw [hu] at ht
    split at h
    · cases h
      exact (List.suffix_cons _ _).trans ht
    · split at h
      · simp only at h
        split at h <;> simp at h
      · simp at h

end CompactSql.Json
