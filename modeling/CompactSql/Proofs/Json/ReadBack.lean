import CompactSql.Json.Found
import CompactSql.Json.Value

/-!
# JSON texts, written and read

What is written in one line is read again: a string character by character, each escape by the
reader of escapes, and the elements of an array or the members of an object one behind the other,
each but the first with its comma.

## Main definitions

* `Json.memberText` — a member of an object, as it is written in one line.

## Main statements

* `readString_flatMap_escape` — the characters of a string.
* `compactElements_cons`, `compactMembers_cons` — rows with their commas in front.
-/

namespace CompactSql.Json

variable {c d : Char} {t r : Text}

theorem skipBlanks_nil : skipBlanks [] = [] := rfl

theorem skipBlanks_cons (hc : isBlank c = false) (t : Text) : skipBlanks (c :: t) = c :: t := by
  rw [skipBlanks, List.dropWhile_cons_of_neg]
  rw [hc]
  exact Bool.false_ne_true

/-! ## Strings -/

theorem four_le_byteSize (a b c d : Char) (t : Text) :
    4 ≤ Text.byteSize (a :: b :: c :: d :: t) := by
  have ha := a.utf8Size_pos
  have hb := b.utf8Size_pos
  have hc := c.utf8Size_pos
  have hd := d.utf8Size_pos
  simp only [Text.byteSize]
  omega

/-- The digits in the escape of a control character are those of its code. -/
theorem unitOf?_control : ∀ n < 0x20,
    unitOf? '0' '0' (Nat.digitChar (n / 16)) (Nat.digitChar (n % 16)) = some n := by decide

theorem readUnits_control (hc : c.toNat < 0x20) (t : Text) :
    readUnits ('0' :: '0' :: Nat.digitChar (c.toNat / 16) :: Nat.digitChar (c.toNat % 16) :: t) =
      .ok (c, t) := by
  have hsize := Nat.not_lt.2 (four_le_byteSize '0' '0' (Nat.digitChar (c.toNat / 16))
    (Nat.digitChar (c.toNat % 16)) t)
  have hlow : isLowSurrogate c.toNat = false := by
    simp [isLowSurrogate]
    omega
  have hhigh : isHighSurrogate c.toNat = false := by
    simp [isHighSurrogate]
    omega
  simp [readUnits, readUnit, hsize, unitOf?_control _ hc, hlow, hhigh]

theorem readString_quote (t : Text) : readString ('"' :: t) = .ok ([], t) := by
  rw [readString, if_pos rfl]

theorem readString_backslash (h : readEscape t = .ok (d, r)) :
    readString ('\\' :: t) = (readString r).map fun (s, r') => (d :: s, r') := by
  rw [readString, if_neg (by decide), if_pos rfl]
  split
  · rename_i e he
    cases h.symm.trans he
  · rename_i d' r' hd
    cases h.symm.trans hd
    rfl

theorem readString_plain (hquote : c ≠ '"') (hbackslash : c ≠ '\\') (hcontrol : ¬c.toNat < 0x20)
    (t : Text) : readString (c :: t) = (readString t).map fun (s, r) => (c :: s, r) := by
  rw [readString, if_neg hquote, if_neg hbackslash, if_neg hcontrol]

/-- A character is read as it was written, escaped or not. -/
theorem readString_escape_append (c : Char) (t : Text) :
    readString (escape c ++ t) = (readString t).map fun (s, r) => (c :: s, r) := by
  fun_cases escape c with
  | case8 hquote hbackslash _ _ _ _ _ hcontrol =>
    exact readString_backslash (readUnits_control hcontrol t)
  | case9 hquote hbackslash _ _ _ _ _ hcontrol =>
    exact readString_plain hquote hbackslash hcontrol t
  | _ =>
    subst_vars
    exact readString_backslash rfl

theorem readString_flatMap_escape (s r : Text) :
    readString (s.flatMap escape ++ '"' :: r) = .ok (s, r) := by
  induction s with
  | nil => exact readString_quote r
  | cons c s ih =>
    rw [List.flatMap_cons, List.append_assoc, readString_escape_append, ih]
    rfl

theorem encode_append (s r : Text) : encode s ++ r = '"' :: (s.flatMap escape ++ '"' :: r) := by
  simp [encode]

/-! ## Rows -/

open Value

/-- A member of an object in one line. -/
def memberText (m : Text × Value) : Text := encode m.1 ++ ':' :: m.2.compact

theorem compactElements_cons (v : Value) (vs : List Value) :
    compactElements (v :: vs) = v.compact ++ vs.flatMap (',' :: ·.compact) := by
  induction vs generalizing v with
  | nil => simp [compactElements]
  | cons w vs ih => rw [compactElements, ih, List.flatMap_cons, List.cons_append]

theorem compactMembers_cons (m : Text × Value) (ms : List (Text × Value)) :
    compactMembers (m :: ms) = memberText m ++ ms.flatMap (',' :: memberText ·) := by
  induction ms generalizing m with
  | nil => simp [compactMembers, memberText]
  | cons n ms ih =>
    rw [compactMembers, ih, List.flatMap_cons]
    simp [memberText]

theorem memberText_append (m : Text × Value) (r : Text) :
    memberText m ++ r = '"' :: (m.1.flatMap escape ++ '"' :: ':' :: (m.2.compact ++ r)) := by
  simp [memberText, encode]

end CompactSql.Json
