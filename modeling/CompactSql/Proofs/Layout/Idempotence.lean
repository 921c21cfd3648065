import CompactSql.Proofs.Layout.Spacing
import CompactSql.Proofs.Scan.ReadBack

/-!
# Compacting a compact form

A scan of a compact form without comments finds the cells that it was written from, with their
colons joined. So compacting it once more writes it as it is if these cells are spaced as their
tokens are, and if the last of them is no operator, which no scan finds at the end of a text.

## Main statements

* `compact_flatMap_text_eq_iff` — a row of cells is compacted to itself exactly if it is plain and
  does not end in an operator.
* `compact_compact_iff` — which compact forms are compacted to themselves.
* `compact_compact_ne` — statements that are compacted to something else the second time.
-/

namespace CompactSql

variable {ks : Keywords} {o : Options} {prev : Kind} {c : Cell} {cs : List Cell} {tok : Token}
  {ts : List Token} {t : Text}

/-! ## Compacting twice -/

section

variable (hcomments : o.comments = false) (hsemicolon : o.semicolon = true)

include hcomments hsemicolon

theorem layoutCells_eq (ts : List Token) : layoutCells o ts = cells false true .unknown ts := by
  simp [layoutCells, hcomments, hsemicolon]

theorem map_token_layoutCells_eq_live (ts : List Token) :
    (layoutCells o ts).map Cell.token = live ts := by
  simp [layoutCells_eq hcomments hsemicolon, map_token_cells, live]

/-- What a scan finds in a compact form are the cells with their colons joined. -/
theorem isRow_joinColons_layoutCells (hlex : ∀ t ∈ ts, t.Lexical ks)
    (hpairwise : ts.Pairwise fun a _ => a.kind ≠ .semicolon)
    (hdots : (live ts).IsChain fun a b => a.kind.dotsInto b.kind = false)
    (hI : ∀ t ∈ ts, t.Lowerable) : IsRow ks (joinColons false (layoutCells o ts)) := by
  rw [← map_token_layoutCells_eq_live hcomments hsemicolon] at hdots
  exact isRow_joinColons (readable_of_mem_layoutCells hlex hI) (regular_of_mem_cells hlex)
    (isChain_near (isChain_behind_cells ..) hdots) (pairwise_layoutCells hpairwise)

theorem ne_comment_of_mem_joinColons (ts : List Token) :
    ∀ tok ∈ (joinColons false (layoutCells o ts)).map Cell.token, tok.kind ≠ .comment := by
  intro tok htok
  obtain ⟨c, hc, rfl⟩ := List.mem_map.1 htok
  rcases mem_joinColons hc with rfl | rfl | hc
  · exact nofun
  · exact nofun
  · have hlive : c.token ∈ live ts := by
      rw [← map_token_layoutCells_eq_live hcomments hsemicolon]
      exact List.mem_map_of_mem hc
    simpa using List.of_mem_filter hlive

/-- The compact form of a compact form whose scan is known. -/
theorem compact_of_scan_eq (h : scan o.keywordSet t = (cs.map Cell.token).map Token.lowered) :
    compact o t = (cells false true .unknown (cs.map Cell.token)).flatMap Cell.text := by
  rw [compact, h, layout_eq_flatMap_text, layoutCells_eq hcomments hsemicolon,
    flatMap_text_cells_lowered]

/-- A row whose last token ends with it is compacted to itself exactly if it is plain. -/
theorem compact_flatMap_text_iff (hrow : IsRow o.keywordSet cs)
    (hnone : ∀ tok ∈ cs.map Cell.token, tok.kind ≠ .comment)
    (hlast : ∀ c ∈ cs.getLast?, c.token.kind ≠ .operator) :
    compact o (cs.flatMap Cell.text) = cs.flatMap Cell.text ↔ IsPlain .unknown cs := by
  have hscan : scan o.keywordSet (cs.flatMap Cell.text) =
      (cs.map Cell.token).map Token.lowered := by
    rw [(hrow.scan_flatMap_text_iff hlast).2 fun tok htok hk => absurd hk (hnone tok htok)]
    exact List.map_congr_left fun tok htok => readBack_of_ne_comment (hnone tok htok)
  have htokens := map_token_cells_of_live .unknown hnone
  rw [compact_of_scan_eq hcomments hsemicolon hscan,
    isPlain_iff_cells_eq fun c hc => hnone _ (List.mem_map_of_mem hc)]
  constructor
  · intro htext
    exact (eq_of_flatMap_text_eq hrow.readable htokens.symm htext.symm).symm
  · intro hcells
    rw [hcells]

/-- A row that ends in an operator loses it. -/
theorem compact_flatMap_text_ne (hrow : IsRow o.keywordSet (cs ++ [c]))
    (hnone : ∀ tok ∈ (cs ++ [c]).map Cell.token, tok.kind ≠ .comment)
    (hk : c.token.kind = .operator) :
    compact o ((cs ++ [c]).flatMap Cell.text) ≠ (cs ++ [c]).flatMap Cell.text := by
  have hc : c.Readable o.keywordSet := hrow.readable c (by simp)
  have hnone' : ∀ tok ∈ cs.map Cell.token, tok.kind ≠ .comment :=
    fun tok htok => hnone tok (by rw [List.map_append]; exact List.mem_append_left _ htok)
  have hscan : scan o.keywordSet ((cs ++ [c]).flatMap Cell.text) =
      (cs.map Cell.token).map Token.lowered := by
    rw [hrow.scan_append (List.cons_ne_nil _ _) fun tok htok hk => absurd hk (hnone' tok htok)]
    rw [List.flatMap_singleton, scan_text_of_operator hc hk, List.append_nil]
    exact List.map_congr_left fun tok htok => readBack_of_ne_comment (hnone' tok htok)
  intro htext
  rw [compact_of_scan_eq hcomments hsemicolon hscan] at htext
  have hink := congrArg Comment.ink htext
  rw [ink_flatMap_text, ink_flatMap_text, map_token_cells_of_live .unknown hnone',
    List.map_append, List.flatMap_append] at hink
  have hlost : Comment.ink c.token.written = [] := by simpa using hink
  exact ink_written_of_operator hc.lexical hk hlost

/-- What compacting does to a row of cells without comments. -/
theorem compact_flatMap_text_eq_iff (hrow : IsRow o.keywordSet cs)
    (hnone : ∀ tok ∈ cs.map Cell.token, tok.kind ≠ .comment) :
    compact o (cs.flatMap Cell.text) = cs.flatMap Cell.text ↔
      (∀ c ∈ cs.getLast?, c.token.kind ≠ .operator) ∧ IsPlain .unknown cs := by
  by_cases hlast : ∀ c ∈ cs.getLast?, c.token.kind ≠ .operator
  · rw [compact_flatMap_text_iff hcomments hsemicolon hrow hnone hlast]
    exact (and_iff_right hlast).symm
  · apply iff_of_false
    · push Not at hlast
      obtain ⟨c, hc, hk⟩ := hlast
      obtain ⟨init, rfl⟩ := List.getLast?_eq_some_iff.1 hc
      exact compact_flatMap_text_ne hcomments hsemicolon hrow hnone hk
    · intro h
      exact hlast h.1

/-- A compact form is compacted to itself exactly if no operator stands at the end of the statement,
which is then left out, and if no comment changes a space. -/
theorem compact_compact_iff (t : Text)
    (hdots : (live (scan o.keywordSet t)).IsChain fun a b => a.kind.dotsInto b.kind = false)
    (hI : ∀ tok ∈ scan o.keywordSet t, tok.kind.isWord = true → 'İ' ∉ tok.lexeme) :
    compact o (compact o t) = compact o t ↔
      (∀ tok ∈ (live (scan o.keywordSet t)).getLast?, tok.kind ≠ .operator) ∧
        inert .unknown false (scan o.keywordSet t) = true := by
  have hrow := isRow_joinColons_layoutCells hcomments hsemicolon lexical_of_mem_scan
    (pairwise_ne_semicolon_scan o.keywordSet t) hdots hI
  have hnone := ne_comment_of_mem_joinColons hcomments hsemicolon (scan o.keywordSet t)
  have htext : compact o t =
      (joinColons false (layoutCells o (scan o.keywordSet t))).flatMap Cell.text := by
    rw [flatMap_text_joinColons, compact, layout_eq_flatMap_text, withPending]
  have hlast : (∀ tok ∈ (live (scan o.keywordSet t)).getLast?, tok.kind ≠ .operator) ↔
      ∀ c ∈ (layoutCells o (scan o.keywordSet t)).getLast?, c.token.kind ≠ .operator := by
    rw [← map_token_layoutCells_eq_live hcomments hsemicolon, List.getLast?_map]
    simp
  have hinert : IsPlain .unknown (layoutCells o (scan o.keywordSet t)) ↔
      inert .unknown false (scan o.keywordSet t) = true := by
    rw [layoutCells_eq hcomments hsemicolon]
    exact isPlain_cells_iff .unknown false _
  rw [htext, compact_flatMap_text_eq_iff hcomments hsemicolon hrow hnone,
    getLast_joinColons_ne_operator_iff, isPlain_joinColons_iff, hlast, ← hinert]
  rfl

end

/-- Two colons and a comment that changes nothing, and a comment that makes a space before the first
word. -/
theorem compact_compact_select :
    let o : Options := ⟨some (.ofList ["select".toList]), false, true⟩
    compact o (compact o "select a: :int /* b */ + 1;".toList) =
        compact o "select a: :int /* b */ + 1;".toList ∧
      compact o (compact o "/* b */ select 1".toList) ≠ compact o "/* b */ select 1".toList := by
  intro o
  have hsame := compact_compact_iff (o := o) rfl rfl "select a: :int /* b */ + 1;".toList
    (by decide +kernel) (by decide +kernel)
  have hother := compact_compact_iff (o := o) rfl rfl "/* b */ select 1".toList
    (by decide +kernel) (by decide +kernel)
  rw [hsame, ne_eq, hother]
  decide +kernel

/-! ## Statements that change when they are compacted again -/

theorem layout_word (o : Options) (ks : Keywords) (w : Text) :
    layout o [.ofText (wordKind ks w) w] = lowercase w := by
  unfold wordKind
  split <;>
    simp [layout, segments, segment, spaceBetween, Kind.attaches, Kind.attachesNext, Token.written,
      Token.lexeme]

/-- A word that is the letter `İ`: the second character of its lowercase form begins nothing. -/
theorem compact_dottedI (o : Options) :
    (compactEvents o ['İ']).filter (·.level = .trace) = [] ∧
      compact o ['İ'] = ['i', '\u0307'] ∧ compact o ['i', '\u0307'] = ['i'] := by
  have hI : step o.keywordSet 'İ' [] = .ofText (wordKind o.keywordSet ['İ']) ['İ'] [] :=
    step_word (w := []) (by decide) nofun rfl
  have hi : step o.keywordSet 'i' ['\u0307'] =
      .ofText (wordKind o.keywordSet ['i']) ['i'] ['\u0307'] :=
    step_word (w := []) (by decide) nofun (by decide)
  refine ⟨?_, ?_, ?_⟩
  · have hfaults : faults o.keywordSet ['İ'] = [] := by
      rw [faults, pieces_cons, hI]
      simp [faultsFrom, Piece.ofStep, hI, Reading.ofText]
    rw [compactEvents, hfaults]
    rfl
  · rw [compact, scan_of_word hI, scan_nil, layout_word]
    rfl
  · rw [compact, scan_of_word hi, scan_combiningDot, scan_nil, layout_word]
    rfl

/-- Statements from which a scan leaves nothing out, and which change when they are compacted again:
because of a comment, an operator at the end, dots that meet, and a letter that is two characters in
lowercase. -/
theorem compact_compact_ne :
    (∀ t ∈ ["--\n1".toList, "1 + ".toList, ". .".toList, "$1 . 1".toList, "1 . $1".toList],
      (compactEvents {} t).filter (·.level = .trace) = [] ∧
        compact {} (compact {} t) ≠ compact {} t) ∧
    (compactEvents {} ['İ']).filter (·.level = .trace) = [] ∧
      compact {} (compact {} ['İ']) ≠ compact {} ['İ'] := by
  obtain ⟨hevents, honce, htwice⟩ := compact_dottedI {}
  refine ⟨by decide +kernel, hevents, ?_⟩
  rw [honce, htwice]
  decide

end CompactSql
