import CompactSql.Proofs.Layout.Rescan
import CompactSql.Proofs.Scan.Classification
import Mathlib.Data.List.Forall2

/-!
# Compact forms and keyword sets

The rules of spacing tell a keyword from an identifier in one place only, in front of an opening
parenthesis. So the compact forms of a statement with two keyword sets are the same but for the
spaces there.

## Main definitions

* `Cell.tight` — a cell without its space, if it is an opening parenthesis.
* `compactCells` — the cells of the compact form of a statement.

## Main statements

* `map_tight_cells_classify` — tight cells do not depend on the keyword set but for the kinds of
  their words.
* `keywords_only_classify` — what two keyword sets have in common on every statement.
-/

namespace CompactSql

variable {ks : Keywords} {prev prev' k : Kind} {tok : Token}

/-! ## Words in a compact form -/

namespace Kind

theorem mark?_of_isWord (h : k.isWord = true) : k.mark? = none := by
  rcases isWord_iff.1 h with rfl | rfl <;> rfl

theorem ne_leftParen_of_isWord (h : k.isWord = true) : k ≠ .leftParen := by
  rintro rfl
  cases h

/-- Whether a word is a keyword matters to an opening parenthesis behind it only. -/
theorem spaceBetween_of_isWord (h : prev.isWord = true) (h' : prev'.isWord = true)
    (hk : k ≠ .leftParen) : spaceBetween prev' k = spaceBetween prev k := by
  rw [isWord_iff] at h h'
  rcases h with rfl | rfl <;> rcases h' with rfl | rfl <;> cases k <;>
    first | rfl | exact absurd rfl hk

theorem spaceBetween_isWord (h : k.isWord = true) : spaceBetween prev k = !prev.attachesNext := by
  rcases isWord_iff.1 h with rfl | rfl <;> rfl

end Kind

namespace Token

@[simp] theorem lexeme_classify (ks : Keywords) (t : Token) :
    (t.classify ks).lexeme = t.lexeme := by
  cases h : t.kind.isWord with
  | true =>
    have h' : (t.classify ks).kind.isWord = true := by rw [isWord_kind_classify, h]
    simp [lexeme, Kind.mark?_of_isWord h, Kind.mark?_of_isWord h']
  | false => rw [classify_of_not_isWord h]

theorem written_of_isWord (h : tok.kind.isWord = true) : tok.written = lowercase tok.lexeme := by
  rcases Kind.isWord_iff.1 h with h | h <;> simp [written, h]

@[simp] theorem written_classify (ks : Keywords) (t : Token) :
    (t.classify ks).written = t.written := by
  cases h : t.kind.isWord with
  | true =>
    rw [written_of_isWord h, written_of_isWord (by rw [isWord_kind_classify, h]), lexeme_classify]
  | false => rw [classify_of_not_isWord h]

end Token

/-! ## Tight cells -/

namespace Cell

/-- The cell with no space before it, if it is an opening parenthesis. -/
def tight (c : Cell) : Cell := { c with spaced := c.spaced && c.token.kind ≠ .leftParen }

/-- The cell with its token classified anew. -/
def classify (ks : Keywords) (c : Cell) : Cell := { c with token := c.token.classify ks }

@[simp] theorem text_classify (ks : Keywords) (c : Cell) : (c.classify ks).text = c.text :=
  congrArg (_ ++ ·) (Token.written_classify ks c.token)

/-- Tight cells tell the spaces of their tokens, but for opening parentheses. -/
theorem tight_eq_tight {s s' : Bool} (h : tok.kind ≠ .leftParen → s' = s) :
    tight ⟨s', tok⟩ = tight ⟨s, tok⟩ := by
  by_cases hk : tok.kind = .leftParen
  · simp [tight, hk]
  · rw [h hk]

theorem tight_of_isWord {c : Cell} (h : c.token.kind.isWord = true) : c.tight = c := by
  simp [tight, Kind.ne_leftParen_of_isWord h]

theorem classify_tight_of_not_isWord {c : Cell} (h : c.token.kind.isWord = false) :
    c.tight.classify ks = c.tight := by
  simp [classify, tight, Token.classify_of_not_isWord h]

end Cell

theorem cells_cons_of_isWord (comments semicolon : Bool) (prev : Kind) (ts : List Token)
    (h : tok.kind.isWord = true) :
    cells comments semicolon prev (tok :: ts) =
      ⟨spaceBetween prev tok.kind, tok⟩ :: cells comments semicolon tok.kind ts := by
  rcases Kind.isWord_iff.1 h with h | h <;> simp [cells, h]

/-- Tight cells do not depend on the keyword set but for the kinds of their words. The kinds that
stand before them may differ as those of two words do. -/
theorem map_tight_cells_classify (comments semicolon : Bool) (ts : List Token)
    (hprev : ∀ k, k ≠ .leftParen → spaceBetween prev' k = spaceBetween prev k) :
    (cells comments semicolon prev' (ts.map (Token.classify ks))).map Cell.tight =
      ((cells comments semicolon prev ts).map Cell.tight).map (Cell.classify ks) := by
  induction ts generalizing prev prev' with
  | nil => rfl
  | cons t ts ih =>
    rw [List.map_cons]
    cases hword : t.kind.isWord with
    | true =>
      have hword' : (t.classify ks).kind.isWord = true := by rw [Token.isWord_kind_classify, hword]
      have htail : (cells comments semicolon (t.classify ks).kind
            (ts.map (Token.classify ks))).map Cell.tight =
          ((cells comments semicolon t.kind ts).map Cell.tight).map (Cell.classify ks) :=
        ih fun k hk => Kind.spaceBetween_of_isWord hword hword' hk
      have hspace : spaceBetween prev' (t.classify ks).kind = spaceBetween prev t.kind := by
        rw [hprev _ (Kind.ne_leftParen_of_isWord hword'), Kind.spaceBetween_isWord hword',
          Kind.spaceBetween_isWord hword]
      rw [cells_cons_of_isWord _ _ _ _ hword', cells_cons_of_isWord _ _ _ _ hword, List.map_cons,
        List.map_cons, List.map_cons, htail, hspace, Cell.tight_of_isWord hword',
        Cell.tight_of_isWord hword]
      rfl
    | false =>
      -- The token is the same with either set, so what follows it is spaced in the same way.
      have htail (k : Kind) : (cells comments semicolon k (ts.map (Token.classify ks))).map
            Cell.tight =
          ((cells comments semicolon k ts).map Cell.tight).map (Cell.classify ks) :=
        ih fun _ _ => rfl
      rw [Token.classify_of_not_isWord hword, cells, cells]
      split
      · exact htail .comment
      · split
        · exact ih hprev
        · rw [List.map_cons, List.map_cons, List.map_cons, htail,
            Cell.tight_eq_tight (hprev t.kind), Cell.classify_tight_of_not_isWord hword]

/-! ## Two keyword sets -/

/-- The cells of the compact form of a statement. -/
def compactCells (o : Options) (t : Text) : List Cell := layoutCells o (scan o.keywordSet t)

theorem compact_eq_flatMap_text (o : Options) (t : Text) :
    compact o t = (compactCells o t).flatMap Cell.text := layout_eq_flatMap_text ..

variable {o o' : Options}

/-- Without the spaces before opening parentheses, compact forms do not depend on the keyword
set. -/
theorem flatMap_text_tight_compactCells (t : Text) (hcomments : o'.comments = o.comments)
    (hsemicolon : o'.semicolon = o.semicolon) :
    ((compactCells o' t).map Cell.tight).flatMap Cell.text =
      ((compactCells o t).map Cell.tight).flatMap Cell.text := by
  rw [compactCells, scan_eq_map_classify o.keywordSet o'.keywordSet, layoutCells, hcomments,
    hsemicolon, List.length_map, map_tight_cells_classify _ _ _ fun _ _ => rfl, List.flatMap_map]
  simp only [Cell.text_classify]
  rfl

/-- A word is a keyword if the set in use holds its lowercase form. -/
theorem kind_eq_keyword_iff_of_mem_scan {t : Text} (htok : tok ∈ scan ks t)
    (hword : tok.kind.isWord = true) :
    tok.kind = .keyword ↔ lowercase tok.lexeme ∈ ks.words := by
  obtain ⟨c, w, rfl, -, -⟩ := (lexical_of_mem_scan tok htok).exists_of_isWord hword
  simp [wordKind, Keywords.contains, Token.lexeme]

/-- A keyword set does nothing but classify words. With two sets a statement has as many tokens, of
the same texts, and the same events; the kinds of its tokens differ in nothing but which words are
keywords, and these are the words that the set holds in lowercase; and its compact forms are the
same but for the spaces before opening parentheses. -/
theorem keywords_only_classify (o o' : Options) (t : Text) (hcomments : o'.comments = o.comments)
    (hsemicolon : o'.semicolon = o.semicolon) :
    List.Forall₂
        (fun a b => b.text? = a.text? ∧
          (b.kind = a.kind ∨ a.kind.isWord = true ∧ b.kind.isWord = true))
        (scan o.keywordSet t) (scan o'.keywordSet t) ∧
      (∀ tok ∈ scan o.keywordSet t, tok.kind.isWord = true →
        (tok.kind = .keyword ↔ lowercase tok.lexeme ∈ o.keywordSet.words)) ∧
      (∀ tok ∈ scan o'.keywordSet t, tok.kind.isWord = true →
        (tok.kind = .keyword ↔ lowercase tok.lexeme ∈ o'.keywordSet.words)) ∧
      compactEvents o' t = compactEvents o t ∧
      compact o t = (compactCells o t).flatMap Cell.text ∧
      compact o' t = (compactCells o' t).flatMap Cell.text ∧
      ((compactCells o' t).map Cell.tight).flatMap Cell.text =
        ((compactCells o t).map Cell.tight).flatMap Cell.text := by
  refine ⟨?_, fun _ => kind_eq_keyword_iff_of_mem_scan, fun _ => kind_eq_keyword_iff_of_mem_scan,
    ?_, compact_eq_flatMap_text o t, compact_eq_flatMap_text o' t,
    flatMap_text_tight_compactCells t hcomments hsemicolon⟩
  · rw [scan_eq_map_classify o.keywordSet o'.keywordSet, List.forall₂_map_right_iff,
      List.forall₂_same]
    intro tok _
    exact ⟨tok.text?_classify _, tok.kind_classify_cases _⟩
  · rw [compactEvents, faults_eq_faults o.keywordSet, scan_eq_map_classify o.keywordSet,
      List.length_map, compactEvents]

/-- A call of a function whose name is a keyword in one of the sets. -/
theorem keywords_only_classify_call :
    let o : Options := ⟨some (.ofList ["SELECT".toList]), false, true⟩
    let o' : Options := ⟨some (.ofList ["f".toList]), false, true⟩
    compact o "Select F(1);".toList = "select f(1);".toList ∧
      compact o' "Select F(1);".toList = "select f (1);".toList ∧
      ((compactCells o' "Select F(1);".toList).map Cell.tight).flatMap Cell.text =
        ((compactCells o "Select F(1);".toList).map Cell.tight).flatMap Cell.text := by
  intro o o'
  have h := keywords_only_classify o o' "Select F(1);".toList rfl rfl
  exact ⟨by decide +kernel, by decide +kernel, h.2.2.2.2.2.2⟩

end CompactSql
