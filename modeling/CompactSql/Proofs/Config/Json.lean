import CompactSql.Config.Json
import CompactSql.Proofs.Json.ReadBack

/-!
# Configurations, written and read

A configuration is read as it was written. The settings may stand in any order, and those may be
left out that have their default value, because the reader keeps account of the settings that it has
read and of nothing else.

## Main definitions

* `Config.Field.value`, `Config.objectOf` — the value of a setting, and some settings as an object.
* `Config.Draft.ofFields` — what has been read once the given settings have been.

## Main statements

* `readMembers_flatMap` — the settings, read one by one.
* `ofJson_objectOf` — a configuration from the settings that are not left out.
* `config_json_round_trips` — the same for the text that is written, and in any order.
-/

namespace CompactSql.Config

open Json

variable {c : Config} {f : Field} {fs done : List Field}

/-! ## Settings and their values -/

/-- The value of a setting of the configuration. Keywords that are not given are `null`. -/
def Field.value (c : Config) : Field → Value
  | comments => .bool c.comments
  | semicolon => .bool c.semicolon
  | keywords =>
    match c.keywords? with
    | some ws => .array (ws.map .string)
    | none => .null

/-- A setting as a member of an object. -/
def Field.member (c : Config) (f : Field) : Text × Value := (f.name.toList, f.value c)

/-- The object of the given settings, in the given order. -/
def objectOf (c : Config) (fs : List Field) : Value := .object (fs.map (Field.member c))

/-- The settings that are written: the keywords are left out if they are not given. -/
def writtenFields (c : Config) : List Field :=
  if c.keywords?.isSome then Field.all else [.comments, .semicolon]

theorem Field.mem_all (f : Field) : f ∈ all := by cases f <;> decide

theorem Field.ofName?_name (f : Field) : ofName? f.name.toList = some f := by
  cases f <;> decide

theorem toValue_eq_objectOf (c : Config) : c.toValue = c.objectOf c.writtenFields := by
  obtain ⟨comments, semicolon, keywords?⟩ := c
  cases keywords? <;> rfl

theorem nodup_writtenFields (c : Config) : c.writtenFields.Nodup := by
  unfold writtenFields
  split <;> decide

theorem value_of_not_mem_writtenFields (hf : f ∉ c.writtenFields) : f.value c = f.value {} := by
  unfold writtenFields at hf
  cases hkeywords : c.keywords? with
  | none =>
    obtain rfl : f = .keywords := by cases f <;> simp [hkeywords] at hf ⊢
    simp [Field.value, hkeywords]
  | some ws => exact absurd (Field.mem_all f) (by simpa [hkeywords] using hf)

/-! ## Reading the value of a setting -/

theorem readBool_compact (b : Bool) (r : Text) :
    readBool ((Value.bool b).compact ++ r) = .ok (b, r) := by
  cases b <;> rfl

theorem readWord_encode (w r : Text) : readWord (encode w ++ r) = .ok (w, r) := by
  rw [encode_append, readWord, skipBlanks_cons (by decide)]
  exact readString_flatMap_escape w r

theorem readWords_of_end {first : Bool} {t r : Text} (hnext : nextElement first t = .ok none)
    (hclose : closeArray t = .ok r) : readWords first t = .ok ([], r) := by
  rw [readWords]
  split <;> simp_all [Except.map]

theorem readWords_of_next {first : Bool} {t u r w : Text}
    (hnext : nextElement first t = .ok (some u)) (hword : readWord u = .ok (w, r)) :
    readWords first t = (readWords false r).map fun (ws, r') => (w :: ws, r') := by
  rw [readWords]
  split
  · simp_all
  · simp_all
  · rename_i u' hu
    obtain rfl : u = u' := by simpa using hnext.symm.trans hu
    split
    · simp_all
    · rename_i w' r' hw
      obtain ⟨rfl, rfl⟩ : w = w' ∧ r = r' := by simpa using hword.symm.trans hw
      rfl

/-- The words behind the first one, each with its comma. -/
theorem readWords_flatMap (ws : List Text) (r : Text) :
    readWords false ((ws.flatMap fun w => ',' :: encode w) ++ ']' :: r) = .ok (ws, r) := by
  induction ws with
  | nil => exact readWords_of_end rfl rfl
  | cons w ws ih =>
    have hword := readWord_encode w ((ws.flatMap fun w => ',' :: encode w) ++ ']' :: r)
    rw [List.flatMap_cons, List.append_assoc, readWords_of_next rfl hword, ih]
    rfl

theorem readWords_compactElements (ws : List Text) (r : Text) :
    readWords true (Value.compactElements (ws.map .string) ++ ']' :: r) = .ok (ws, r) := by
  cases ws with
  | nil => exact readWords_of_end rfl rfl
  | cons w ws =>
    have hword := readWord_encode w ((ws.flatMap fun w => ',' :: encode w) ++ ']' :: r)
    rw [List.map_cons, compactElements_cons, List.flatMap_map, List.append_assoc]
    rw [readWords_of_next rfl hword, readWords_flatMap]
    rfl

theorem readKeywords_compact (c : Config) (r : Text) :
    readKeywords ((Field.keywords.value c).compact ++ r) = .ok (c.keywords?, r) := by
  rw [Field.value]
  cases c.keywords? with
  | none => rfl
  | some ws =>
    have hwords := readWords_compactElements ws r
    simp [Value.compact, readKeywords, skipBlanks_cons (c := '[') (by decide), hwords, Except.map]

/-! ## Reading the settings -/

/-- What has been read once the settings `fs` of the configuration have been. -/
def Draft.ofFields (c : Config) (fs : List Field) : Draft where
  comments? := if .comments ∈ fs then some c.comments else none
  semicolon? := if .semicolon ∈ fs then some c.semicolon else none
  keywords? := if .keywords ∈ fs then some c.keywords? else none

namespace Draft

theorem ofFields_nil (c : Config) : ofFields c [] = {} := by simp [ofFields]

theorem has_ofFields (hf : f ∉ fs) : (ofFields c fs).has f = false := by
  cases f <;> simp [has, ofFields, hf]

/-- Reading a setting adds it to those that have been read. -/
theorem readField_ofFields (c : Config) (fs : List Field) (f : Field) (r : Text) :
    (ofFields c fs).readField f ((f.value c).compact ++ r) = .ok (ofFields c (fs ++ [f]), r) := by
  cases f with
  | comments | semicolon =>
    simp only [readField, Field.value, readBool_compact]
    simp [Except.map, ofFields]
  | keywords =>
    simp only [readField, readKeywords_compact]
    simp [Except.map, ofFields]

theorem getD_ite_some {α : Type} {p : Prop} [Decidable p] {a default : α} (h : ¬p → a = default) :
    (if p then some a else none).getD default = a := by
  split
  · rfl
  · rename_i hp
    exact (h hp).symm

/-- If the settings that were not read have their default values, the configuration is known. -/
theorem config_ofFields (h : ∀ f ∉ fs, f.value c = f.value {}) : (ofFields c fs).config = c := by
  have hcomments : .comments ∉ fs → c.comments = false := fun hf => Value.bool.inj (h _ hf)
  have hsemicolon : .semicolon ∉ fs → c.semicolon = true := fun hf => Value.bool.inj (h _ hf)
  have hkeywords : .keywords ∉ fs → c.keywords? = none := by
    intro hf
    have hvalue := h _ hf
    cases hk : c.keywords? with
    | none => rfl
    | some ws => simp [Field.value, hk] at hvalue
  rw [config, ofFields, getD_ite_some hcomments, getD_ite_some hsemicolon, getD_ite_some hkeywords]

end Draft

/-- A member whose setting has not been read yet adds it. -/
theorem readMember_member (hf : f ∉ done) (r : Text) :
    readMember (.ofFields c done)
        (f.name.toList.flatMap escape ++ '"' :: ':' :: ((f.value c).compact ++ r)) =
      .ok (.ofFields c (done ++ [f]), r) := by
  simp only [readMember, readString_flatMap_escape, Field.ofName?_name, Draft.has_ofFields hf]
  exact Draft.readField_ofFields c done f r

theorem readMembers_of_next {first : Bool} {p p' : Draft} {t u r : Text}
    (hnext : nextMember first t = .ok (some u)) (hmember : readMember p u = .ok (p', r)) :
    readMembers first p t = readMembers false p' r := by
  rw [readMembers]
  split
  · simp_all
  · simp_all
  · rename_i u' hu
    obtain rfl : u = u' := by simpa using hnext.symm.trans hu
    split
    · simp_all
    · rename_i q r' hq
      obtain ⟨rfl, rfl⟩ : p' = q ∧ r = r' := by simpa using hmember.symm.trans hq
      rfl

theorem readMembers_of_end {first : Bool} {p : Draft} {t : Text}
    (hnext : nextMember first t = .ok none) :
    readMembers first p t = .ok (p.config, closeObject t) := by
  rw [readMembers]
  split <;> simp_all

/-- The members behind the first one, each with its comma. The settings that have been read are
those before them. -/
theorem readMembers_flatMap (c : Config) (r : Text) (h : (done ++ fs).Nodup) :
    readMembers false (.ofFields c done)
        ((fs.map (Field.member c)).flatMap (',' :: memberText ·) ++ '\x7d' :: r) =
      .ok ((Draft.ofFields c (done ++ fs)).config, r) := by
  induction fs generalizing done with
  | nil =>
    rw [List.append_nil]
    exact readMembers_of_end rfl
  | cons f fs ih =>
    rw [List.append_cons done f fs] at h ⊢
    have hf : f ∉ done := by
      have hdisjoint := List.nodup_append.1 (List.nodup_append.1 h).1
      exact fun hmem => hdisjoint.2.2 f hmem f List.mem_cons_self rfl
    have hmember := readMember_member (c := c) hf
      ((fs.map (Field.member c)).flatMap (',' :: memberText ·) ++ '\x7d' :: r)
    rw [List.map_cons, List.flatMap_cons, List.append_assoc, List.cons_append, memberText_append,
      readMembers_of_next rfl hmember, ih h]

theorem readMembers_compactMembers (c : Config) (r : Text) (h : fs.Nodup) :
    readMembers true {} (Value.compactMembers (fs.map (Field.member c)) ++ '\x7d' :: r) =
      .ok ((Draft.ofFields c fs).config, r) := by
  rw [← Draft.ofFields_nil c]
  cases fs with
  | nil => exact readMembers_of_end rfl
  | cons f fs =>
    have hmember := readMember_member (c := c) (List.not_mem_nil (a := f))
      ((fs.map (Field.member c)).flatMap (',' :: memberText ·) ++ '\x7d' :: r)
    rw [List.map_cons, compactMembers_cons, List.append_assoc, memberText_append,
      readMembers_of_next rfl hmember]
    exact readMembers_flatMap c r h

/-! ## Reading a configuration -/

/-- A configuration is read from the object of its settings, in whatever order they stand and
whichever of those with their default value are left out. -/
theorem ofJson_objectOf (hfs : fs.Nodup) (hdefault : ∀ f ∉ fs, f.value c = f.value {}) :
    ofJson (c.objectOf fs).compact = .ok c := by
  have hmembers := readMembers_compactMembers c [] hfs
  rw [Draft.config_ofFields hdefault] at hmembers
  simp [objectOf, Value.compact, ofJson, read, skipBlanks_cons (c := '\x7b') (by decide), hmembers,
    skipBlanks_nil]

/-- A configuration is read as it was written. -/
theorem ofJson_toJson (c : Config) : ofJson c.toJson = .ok c := by
  rw [toJson, toValue_eq_objectOf]
  exact ofJson_objectOf c.nodup_writtenFields fun f => value_of_not_mem_writtenFields

/-- A configuration is read as it was written, whatever words it has; and it is read from the object
of its settings in any order, with any of those left out that have their default value. -/
theorem config_json_round_trips (c : Config) :
    ofJson c.toJson = .ok c ∧
    ∀ fs : List Field, fs.Nodup → (∀ f ∉ fs, f.value c = f.value {}) →
      ofJson (c.objectOf fs).compact = .ok c :=
  ⟨ofJson_toJson c, fun _ => ofJson_objectOf⟩

/-- Words that need escapes, and a setting with its default value that is left out. -/
theorem config_json_round_trips_escapes :
    let c : Config := ⟨false, false, some ["a\"\\".toList, ['\x1f', '\n'], []]⟩
    let fs : List Field := [.keywords, .semicolon]
    fs.Nodup ∧ (∀ f ∉ fs, f.value c = f.value {}) ∧
      (c.objectOf fs).compact = ("\x7b\"keywords\":[\"a\\\"\\\\\",\"\\u001f\\n\",\"\"]," ++
        "\"includeTrailingSemicolon\":false\x7d").toList ∧
      ofJson (c.objectOf fs).compact = .ok c := by
  intro c fs
  have hnodup : fs.Nodup := by decide
  have hdefault : ∀ f ∉ fs, f.value c = f.value {} := by
    intro f hf
    obtain rfl : f = .comments := by cases f <;> simp [fs] at hf ⊢
    rfl
  exact ⟨hnodup, hdefault, by decide +kernel, (config_json_round_trips c).2 fs hnodup hdefault⟩

end CompactSql.Config
