import CompactSql.Input.FileTree
import CompactSql.Proofs.Config.Json
import CompactSql.Proofs.Keywords.Words
import CompactSql.Proofs.Text.Blank

/-!
# Lists of keywords

The keywords may be the words of a text or a list in a configuration. Both ways lead to the set of
the same words, and both refuse a list without any word in it.

## Main definitions

* `Source.Holds` — the text of a file.

## Main statements

* `keywordsOfText_eq` — the keywords of a text.
* `Text.words_intercalate_eq_nil_iff` — texts that are put together have no word exactly if each of
  them is blank.
* `keyword_lists_agree` — the keywords of a file, and those of a configuration.
-/

namespace CompactSql

/-! ## The text of a file -/

section

variable {m : Type → Type} [Monad m] {s : Source m} {path t : Text}

/-- The file at `path` holds the text `t`. -/
def Source.Holds (s : Source m) (path t : Text) : Prop :=
  s.file path = pure (.ok (String.ofList t).toUTF8)

theorem textOfBytes_toUTF8 (t : Text) : textOfBytes (String.ofList t).toUTF8 = .ok t := by
  have hvalid : String.fromUTF8? (String.ofList t).toUTF8 = some (String.ofList t) :=
    dif_pos (String.ofList t).isValidUTF8
  rw [textOfBytes, hvalid]
  simp

variable [LawfulMonad m]

theorem Source.Holds.readFile (h : s.Holds path t) : s.readFile path = pure (.ok t) := by
  simp only [Source.readFile, show s.file path = _ from h, pure_bind]
  simp only [Except.bind, textOfBytes_toUTF8]
  rfl

theorem Source.Holds.readKeywords (h : s.Holds path t) :
    s.readKeywords path = pure (keywordsOfText path t) := by
  rw [Source.readKeywords, h.readFile, pure_bind]
  rfl

theorem Source.Holds.readConfig (h : s.Holds path t) :
    s.readConfig path = pure (configOfText path t) := by
  rw [Source.readConfig, h.readFile, pure_bind]
  rfl

end

/-! ## The keywords of a text -/

variable {path t : Text} {ws : List Text} {c : Config}

theorem keywordsOfText_eq (path t : Text) :
    keywordsOfText path t =
      if t.words = [] then .error (.noKeywords path) else .ok (t.words.map lowercase) := by
  rw [keywordsOfText]
  cases t.words <;> rfl

theorem keywordsOfText_eq_error_iff :
    keywordsOfText path t = .error (.noKeywords path) ↔ t.words = [] := by
  rw [keywordsOfText_eq]
  split <;> simp_all

theorem Keywords.isEmpty_ofList_iff : (Keywords.ofList ws).isEmpty = true ↔ ws = [] := by
  have hwords := Keywords.holds_ofList ws
  rw [Keywords.isEmpty, List.isEmpty_iff, List.eq_nil_iff_forall_not_mem]
  simp only [hwords _, ← List.eq_nil_iff_forall_not_mem, List.map_eq_nil_iff]

/-- A set of words in lowercase is the set of the words. -/
theorem Keywords.ofList_map_lowercase (ws : List Text) :
    Keywords.ofList (ws.map lowercase) = Keywords.ofList ws := by
  refine (Keywords.holds_ofList _).unique (Keywords.holds_ofList _) fun v => ?_
  simp only [List.map_map, Function.comp_def, lowercase_lowercase]

/-! ## The keywords of a configuration -/

theorem Text.words_intercalate_eq_nil_iff :
    Text.words ([' '].intercalate ws) = [] ↔ ws.all Text.allBlank = true := by
  simp only [Text.words_intercalate, List.flatMap_eq_nil_iff, Text.words_eq_nil_iff,
    List.all_eq_true]

theorem configOfText_eq_error_iff {content : Text} (hread : Config.ofJson content = .ok c)
    (hws : c.keywords? = some ws) :
    configOfText path content = .error (.noKeywords path) ↔ ws.all Text.allBlank = true := by
  rw [configOfText, hread]
  simp only [Config.hasNoKeywords, hws, Option.any_some]
  split <;> simp_all

/-- The words of a text without any word in it are refused. Otherwise the words that are read make
the set of the words of the text, whatever else is settled. A configuration with a list of keywords
is refused exactly if the text of these keywords, with spaces between them, would be. -/
theorem keyword_lists_agree {m : Type → Type} [Monad m] [LawfulMonad m] (s : Source m) :
    (∀ path t, s.Holds path t → ∃ answer, s.readKeywords path = pure answer ∧
      (answer = .error (.noKeywords path) ↔ (Keywords.ofText t).isEmpty = true) ∧
      ((Keywords.ofText t).isEmpty = false → ∃ ws, answer = .ok ws ∧
        ∀ c : Config, Config.keywordSet? { c with keywords? := some ws } = some (.ofText t))) ∧
    ∀ path content c ws path', s.Holds path content → Config.ofJson content = .ok c →
      c.keywords? = some ws → s.Holds path' ([' '].intercalate ws) →
      ∃ answer answer', s.readConfig path = pure answer ∧ s.readKeywords path' = pure answer' ∧
        (answer = .error (.noKeywords path) ↔ answer' = .error (.noKeywords path')) := by
  constructor
  · intro path t h
    refine ⟨_, h.readKeywords, ?_, fun hsome => ⟨t.words.map lowercase, ?_, fun c => ?_⟩⟩
    · rw [keywordsOfText_eq_error_iff, Keywords.ofText, Keywords.isEmpty_ofList_iff]
    · rw [keywordsOfText_eq, if_neg]
      intro hnil
      rw [Keywords.ofText, Keywords.isEmpty_ofList_iff.2 hnil] at hsome
      cases hsome
    · exact congrArg some (Keywords.ofList_map_lowercase t.words)
  · intro path content c ws path' h hread hws h'
    refine ⟨_, _, h.readConfig, h'.readKeywords, ?_⟩
    rw [configOfText_eq_error_iff hread hws, keywordsOfText_eq_error_iff,
      Text.words_intercalate_eq_nil_iff]

/-- Words that are parted by a blank beyond ASCII, and a configuration whose keywords are blank. -/
theorem keyword_lists_agree_blank :
    let c : Config := { keywords? := some [[], ['\t']] }
    let words := "Select\u3000İF".toList
    let tree := FileTree.ofPaths [("words".toList, some (String.ofList words).toUTF8),
      ("blank".toList, some (String.ofList [' ', '\t']).toUTF8),
      ("config".toList, some (String.ofList c.toJson).toUTF8)]
    let s := tree.source .empty
    (s.Holds "words".toList words ∧ (Keywords.ofText words).isEmpty = false ∧
      ∃ ws, s.readKeywords "words".toList = .ok ws ∧
        Config.keywordSet? { c with keywords? := some ws } = some (.ofText words)) ∧
    s.Holds "config".toList c.toJson ∧ Config.ofJson c.toJson = .ok c ∧
      s.Holds "blank".toList [' ', '\t'] ∧
      (s.readConfig "config".toList = .error (.noKeywords "config".toList) ↔
        s.readKeywords "blank".toList = .error (.noKeywords "blank".toList)) := by
  intro c words tree s
  have hwords : s.Holds "words".toList words := rfl
  have hconfig : s.Holds "config".toList c.toJson := rfl
  have hblank : s.Holds "blank".toList [' ', '\t'] := rfl
  have hsome : (Keywords.ofText words).isEmpty = false := by decide +kernel
  obtain ⟨hlist, hfile⟩ := keyword_lists_agree s
  obtain ⟨answer, hanswer, -, hset⟩ := hlist _ _ hwords
  obtain ⟨ws, rfl, hws⟩ := hset hsome
  obtain ⟨answer, answer', hread, hread', hiff⟩ :=
    hfile _ _ c [[], ['\t']] _ hconfig (Config.ofJson_toJson c) rfl hblank
  refine ⟨⟨hwords, hsome, ws, hanswer, hws c⟩, hconfig, Config.ofJson_toJson c, hblank, ?_⟩
  rw [hread, hread']
  exact hiff

end CompactSql
