import CompactSql.Compact
import CompactSql.Proofs.Scan.LetterCase
import Mathlib.Data.List.Forall2

/-!
# Compact forms and letter case

Statements that differ in the case of ASCII letters only, and hold no dollar sign, have the same
tokens and the same compact form up to the case of letters.

## Main statements

* `segments_caseless` — how the tokens of a statement are written.
* `scan_ignores_case` — what two such statements have in common.
-/

namespace CompactSql

/-! ## How tokens are written -/

namespace Token

theorem caseless_mark? (k : Kind) : k.mark?.map Text.caseless = k.mark? := by cases k <;> rfl

theorem lexeme_caseless (t : Token) : t.caseless.lexeme = Text.caseless t.lexeme := by
  have hmark := caseless_mark? t.kind
  cases h : t.text? with
  | none => cases hm : t.kind.mark? <;> simp_all [lexeme]
  | some w => simp [lexeme, h]

theorem lowercase_lexeme_eq_of_caseless_eq {a b : Token} (h : a.caseless = b.caseless) :
    lowercase a.lexeme = lowercase b.lexeme := by
  rw [← lowercase_caseless, ← lowercase_caseless b.lexeme, ← lexeme_caseless, ← lexeme_caseless, h]

/-- Two tokens that differ in the case of letters are written alike up to that. -/
theorem written_caseless (t : Token) :
    Text.caseless t.caseless.written = Text.caseless t.written := by
  have hkind : t.caseless.kind = t.kind := rfl
  unfold written
  rw [hkind, lexeme_caseless]
  cases t.kind <;> simp

end Token

theorem segment_caseless (prev : Kind) (t : Token) :
    Text.caseless (segment prev t.caseless) = Text.caseless (segment prev t) := by
  rw [segment, segment, Text.caseless_append, Text.caseless_append, Token.written_caseless]
  rfl

theorem segments_caseless (comments semicolon : Bool) (prev : Kind) (ts : List Token) :
    (segments comments semicolon prev (ts.map Token.caseless)).map Text.caseless =
      (segments comments semicolon prev ts).map Text.caseless := by
  fun_induction segments comments semicolon prev ts with
  | case1 => rfl
  | case2 prev t ts h ih =>
    rw [List.map_cons, segments, Token.kind_caseless, if_pos h, List.map_cons, List.map_cons, ih]
  | case3 prev t ts h h' ih =>
    rw [List.map_cons, segments, Token.kind_caseless, if_neg h, if_pos h', ih]
  | case4 prev t ts h h' ih =>
    rw [List.map_cons, segments, Token.kind_caseless, if_neg h, if_neg h', List.map_cons,
      List.map_cons, segment_caseless, ih]

theorem layout_caseless (o : Options) (ts : List Token) :
    Text.caseless (layout o (ts.map Token.caseless)) = Text.caseless (layout o ts) := by
  rw [layout, layout, List.length_map, Text.caseless, Text.caseless, List.map_flatten,
    List.map_flatten]
  exact congrArg List.flatten (segments_caseless _ _ _ ts)

/-! ## Two statements -/

theorem compact_caseless (o : Options) {t : Text} (h : '$' ∉ t) :
    Text.caseless (compact o (Text.caseless t)) = Text.caseless (compact o t) := by
  rw [compact, scan_caseless _ h, layout_caseless, compact]

theorem not_mem_of_caseless_eq {s t : Text} (hs : '$' ∉ s)
    (h : Text.caseless s = Text.caseless t) : '$' ∉ t := by
  intro ht
  have hmem : '$' ∈ Text.caseless t := List.mem_map.2 ⟨'$', ht, rfl⟩
  rw [← h] at hmem
  obtain ⟨c, hc, hlower⟩ := List.mem_map.1 hmem
  rw [toLower_eq_iff (by decide)] at hlower
  exact hs (hlower ▸ hc)

/-- Scanning ignores the case of ASCII letters. Two statements without dollar signs that differ in
nothing else have the same kinds of tokens; the texts of these, and the compact forms of the
statements, differ in nothing else either; and their words have the same lowercase forms. -/
theorem scan_ignores_case (ks : Keywords) (s t : Text) (hs : '$' ∉ s)
    (h : Text.caseless s = Text.caseless t) :
    List.Forall₂
        (fun a b => a.kind = b.kind ∧ a.text?.map Text.caseless = b.text?.map Text.caseless ∧
          (a.kind.isWord = true → lowercase a.lexeme = lowercase b.lexeme))
        (scan ks s) (scan ks t) ∧
      ∀ o, Text.caseless (compact o s) = Text.caseless (compact o t) := by
  have ht := not_mem_of_caseless_eq hs h
  have htokens : (scan ks s).map Token.caseless = (scan ks t).map Token.caseless := by
    rw [← scan_caseless ks hs, ← scan_caseless ks ht, h]
  constructor
  · rw [← List.forall₂_eq_eq_eq, List.forall₂_map_left_iff, List.forall₂_map_right_iff] at htokens
    refine htokens.imp fun a b hab => ?_
    obtain ⟨hkind, htext⟩ := Token.mk.inj hab
    exact ⟨hkind, htext, fun _ => Token.lowercase_lexeme_eq_of_caseless_eq hab⟩
  · intro o
    rw [← compact_caseless o hs, ← compact_caseless o ht, h]

/-- A statement written in either case, with a word that ends in a sigma. -/
theorem scan_ignores_case_select :
    let s : Text := "SELECT ΑΣ, X'1F', 1E5;".toList
    let t : Text := "select ΑΣ, x'1f', 1e5;".toList
    '$' ∉ s ∧ Text.caseless s = Text.caseless t ∧
      List.Forall₂
        (fun a b => a.kind = b.kind ∧ a.text?.map Text.caseless = b.text?.map Text.caseless ∧
          (a.kind.isWord = true → lowercase a.lexeme = lowercase b.lexeme))
        (scan .reserved s) (scan .reserved t) ∧
      ∀ o, Text.caseless (compact o s) = Text.caseless (compact o t) := by
  intro s t
  have hs : '$' ∉ s := by decide
  have h : Text.caseless s = Text.caseless t := by decide
  exact ⟨hs, h, scan_ignores_case .reserved s t hs h⟩

end CompactSql
