import CompactSql.Config.Basic
import CompactSql.Json.Found
import CompactSql.Json.Value

/-!
# Configurations as JSON

A configuration is written as an object with a member for each setting, the keywords only if they
are given. Read it may be from such an object, with its members in any order and those left out that
have their default value, or from an array of the settings in the order in which they are written.

## Main definitions

* `Config.Field` — the names of the settings.
* `Config.toJson` — writes a configuration.
* `Config.ofJson` — reads a configuration.
-/

namespace CompactSql.Config

open Json (Failure Result Value)

/-! ## Fields -/

/-- The settings of a configuration. -/
inductive Field where
  | comments
  | semicolon
  | keywords
  deriving DecidableEq, Repr

namespace Field

/-- The name of a setting in JSON. -/
def name : Field → String
  | comments => "includeComments"
  | semicolon => "includeTrailingSemicolon"
  | keywords => "keywords"

/-- The settings, in the order in which they are written. -/
def all : List Field := [comments, semicolon, keywords]

/-- The setting of a given name. -/
def ofName? (t : Text) : Option Field := all.find? (·.name.toList == t)

end Field

/-! ## Writing -/

/-- The configuration as a JSON value. -/
def toValue (c : Config) : Value :=
  .object <|
    [(Field.comments.name.toList, .bool c.comments),
      (Field.semicolon.name.toList, .bool c.semicolon)] ++
    match c.keywords? with
    | some ws => [(Field.keywords.name.toList, .array (ws.map .string))]
    | none => []

/-- The JSON text of the configuration. -/
def toJson (c : Config) : Text := c.toValue.compact

/-! ## Reading the settings -/

/-- Reads a boolean. -/
def readBool (t : Text) : Result Bool :=
  match Json.skipBlanks t with
  | [] => .error (.before .endInValue [])
  | c :: r =>
    if c = 't' then (Json.readName ['r', 'u', 'e'] r).map fun r' => (true, r')
    else if c = 'f' then (Json.readName ['a', 'l', 's', 'e'] r).map fun r' => (false, r')
    else .error (Json.refuse "a boolean" (c :: r))

/-- Reads a word. -/
def readWord (t : Text) : Result Text :=
  match Json.skipBlanks t with
  | [] => .error (.before .endInValue [])
  | c :: r =>
    if c = '"' then Json.readString r else .error (Json.refuse "a string" (c :: r))

theorem length_of_readWord {t r w : Text} (h : readWord t = .ok (w, r)) :
    r.length < t.length := by
  have ht := Json.suffix_skipBlanks t
  unfold readWord at h
  split at h
  · simp at h
  · rename_i c u hb
    rw [hb] at ht
    split at h
    · exact Nat.lt_of_lt_of_le (Json.length_of_readString h)
        ((List.suffix_cons _ _).trans ht).length_le
    · simp at h

/-- Reads the words of an array whose bracket has been passed, and its closing bracket. -/
def readWords (first : Bool) (t : Text) : Result (List Text) :=
  match h : Json.nextElement first t with
  | .error e => .error e
  | .ok none => (Json.closeArray t).map fun r => ([], r)
  | .ok (some u) =>
    match hw : readWord u with
    | .error e => .error e
    | .ok (w, r) =>
      have : r.length < t.length :=
        Nat.lt_of_lt_of_le (length_of_readWord hw) (Json.suffix_of_nextElement h).length_le
      (readWords false r).map fun (ws, r') => (w :: ws, r')
termination_by t.length

/-- Reads the keywords: an array of words, or `null` if there are none. -/
def readKeywords (t : Text) : Result (Option (List Text)) :=
  match Json.skipBlanks t with
  | [] => .error (.before .endInValue [])
  | c :: r =>
    if c = 'n' then (Json.readName ['u', 'l', 'l'] r).map fun r' => (none, r')
    else if c = '[' then (readWords true r).map fun (ws, r') => (some ws, r')
    else .error (Json.refuse "a sequence" (c :: r))

theorem length_of_readBool {t r : Text} {b : Bool} (h : readBool t = .ok (b, r)) :
    r.length ≤ t.length := by
  have ht := Json.suffix_skipBlanks t
  unfold readBool at h
  split at h
  · simp at h
  · rename_i c u hb
    rw [hb] at ht
    have hu := ((List.suffix_cons c u).trans ht).length_le
    split at h
    · obtain ⟨r', hr, heq⟩ := Json.exists_of_map_eq_ok h
      cases heq
      exact Nat.le_trans (Json.suffix_of_readName hr).length_le hu
    · split at h
      · obtain ⟨r', hr, heq⟩ := Json.exists_of_map_eq_ok h
        cases heq
        exact Nat.le_trans (Json.suffix_of_readName hr).length_le hu
      · simp at h

theorem length_of_readWords {first : Bool} {t r : Text} {ws : List Text}
    (h : readWords first t = .ok (ws, r)) : r.length ≤ t.length := by
  fun_induction readWords first t generalizing ws with
  | case1 => simp at h
  | case2 =>
    obtain ⟨r', hr, heq⟩ := Json.exists_of_map_eq_ok h
    cases heq
    exact (Json.suffix_of_closeArray hr).length_le
  | case3 => simp at h
  | case4 first t u hu w v hv hlt ih =>
    obtain ⟨⟨vs, r'⟩, hr, heq⟩ := Json.exists_of_map_eq_ok h
    cases heq
    exact Nat.le_trans (ih hr) (Nat.le_of_lt hlt)

theorem length_of_readKeywords {t r : Text} {ws : Option (List Text)}
    (h : readKeywords t = .ok (ws, r)) : r.length ≤ t.length := by
  have ht := Json.suffix_skipBlanks t
  unfold readKeywords at h
  split at h
  · simp at h
  · rename_i c u hb
    rw [hb] at ht
    have hu := ((List.suffix_cons c u).trans ht).length_le
    split at h
    · obtain ⟨r', hr, heq⟩ := Json.exists_of_map_eq_ok h
      cases heq
      exact Nat.le_trans (Json.suffix_of_readName hr).length_le hu
    · split at h
      · obtain ⟨⟨vs, r'⟩, hr, heq⟩ := Json.exists_of_map_eq_ok h
        cases heq
        exact Nat.le_trans (length_of_readWords hr) hu
      · simp at h

/-! ## Reading an object -/

/-- The settings that have been read so far. -/
structure Draft where
  comments? : Option Bool := none
  semicolon? : Option Bool := none
  keywords? : Option (Option (List Text)) := none

namespace Draft

/-- Whether a setting has been read. -/
def has (p : Draft) : Field → Bool
  | .comments => p.comments?.isSome
  | .semicolon => p.semicolon?.isSome
  | .keywords => p.keywords?.isSome

/-- Reads the value of a setting. -/
def readField (p : Draft) (f : Field) (t : Text) : Result Draft :=
  match f with
  | .comments => (readBool t).map fun (b, r) => ({ p with comments? := some b }, r)
  | .semicolon => (readBool t).map fun (b, r) => ({ p with semicolon? := some b }, r)
  | .keywords => (readKeywords t).map fun (ws, r) => ({ p with keywords? := some ws }, r)

/-- The configuration that has these settings and the default ones for those not read. -/
def config (p : Draft) : Config :=
  { comments := p.comments?.getD false
    semicolon := p.semicolon?.getD true
    keywords? := p.keywords?.getD none }

theorem length_of_readField {p p' : Draft} {f : Field} {t r : Text}
    (h : p.readField f t = .ok (p', r)) : r.length ≤ t.length := by
  cases f with
  | comments =>
    obtain ⟨⟨b, r'⟩, hr, heq⟩ := Json.exists_of_map_eq_ok h
    cases heq
    exact length_of_readBool hr
  | semicolon =>
    obtain ⟨⟨b, r'⟩, hr, heq⟩ := Json.exists_of_map_eq_ok h
    cases heq
    exact length_of_readBool hr
  | keywords =>
    obtain ⟨⟨ws, r'⟩, hr, heq⟩ := Json.exists_of_map_eq_ok h
    cases heq
    exact length_of_readKeywords hr

end Draft

/-- Reads a member behind the opening quote of its name. A member that is no setting, or one that
has been read before, is refused as soon as its name is known. -/
def readMember (p : Draft) (t : Text) : Result Draft :=
  match Json.readString t with
  | .error e => .error e
  | .ok (name, r) =>
    match Field.ofName? name with
    | none =>
      .error (.before (.unknownField name (Field.all.map Field.name)) (Json.closeObject r))
    | some f =>
      if p.has f then .error (.before (.duplicateField f.name) (Json.closeObject r))
      else
        match Json.readColon r with
        | .error e => .error e
        | .ok u => p.readField f u

theorem length_of_readMember {p p' : Draft} {t r : Text}
    (h : readMember p t = .ok (p', r)) : r.length < t.length := by
  unfold readMember at h
  split at h
  · simp at h
  · rename_i name u hs
    have hu := Json.length_of_readString hs
    split at h
    · simp at h
    · split at h
      · simp at h
      · split at h
        · simp at h
        · rename_i v hv
          exact Nat.lt_of_le_of_lt (Nat.le_trans (Draft.length_of_readField h)
            (Json.suffix_of_readColon hv).length_le) hu

/-- Reads the members of an object whose brace has been passed, and its closing brace. -/
def readMembers (first : Bool) (p : Draft) (t : Text) : Result Config :=
  match h : Json.nextMember first t with
  | .error e => .error e
  | .ok none => .ok (p.config, Json.closeObject t)
  | .ok (some u) =>
    match hm : readMember p u with
    | .error e => .error e
    | .ok (p', r) =>
      have : r.length < t.length :=
        Nat.lt_of_lt_of_le (length_of_readMember hm) (Json.suffix_of_nextMember h).length_le
      readMembers false p' r
termination_by t.length

/-! ## Reading an array -/

/-- Reads the next element of an array, or takes the default where the array ends. -/
def readElement {α : Type} (read : Text → Result α) (default : α) (first : Bool) (t : Text) :
    Result α :=
  match Json.nextElement first t with
  | .error e => .error e
  | .ok none => .ok (default, t)
  | .ok (some u) => read u

/-- Reads the settings from an array whose bracket has been passed, and its closing bracket. -/
def readArray (t : Text) : Result Config :=
  match readElement readBool false true t with
  | .error e => .error e
  | .ok (comments, t) =>
    match readElement readBool true false t with
    | .error e => .error e
    | .ok (semicolon, t) =>
      match readElement readKeywords none false t with
      | .error e => .error e
      | .ok (keywords?, t) =>
        (Json.closeArray t).map fun r => ({ comments, semicolon, keywords? }, r)

/-! ## Reading a configuration -/

/-- Reads a configuration at the beginning of a text. -/
def read (t : Text) : Result Config :=
  match Json.skipBlanks t with
  | [] => .error (.before .endInValue [])
  | c :: r =>
    if c = '[' then readArray r
    else if c = '\x7b' then readMembers true {} r
    else .error (Json.refuse "struct Config" (c :: r))

/-- Reads a configuration that is all there is in a text, but for blanks. -/
def ofJson (t : Text) : Except Failure Config :=
  match read t with
  | .error e => .error e
  | .ok (c, r) =>
    match Json.skipBlanks r with
    | [] => .ok c
    | u => .error (.atFirst .trailingCharacters u)

end CompactSql.Config
