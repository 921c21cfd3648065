import CompactSql.Proofs.Layout.Classification
import CompactSql.Proofs.Scan.Terminator

/-!
# Compact forms and options

What is written of a token does not depend on whether comments or the final semicolon are. To leave
the semicolon out shortens the compact form by one character, and to leave comments out removes
their cells from the row and changes no other cell.

## Main statements

* `cells_semicolon` — the cells with the semicolon are those without it and one more.
* `cells_comments` — the cells without comments are found among those with comments.
* `options_change_own_text` — the compact forms of a statement with different options.
-/

namespace CompactSql

variable {comments semicolon : Bool} {prev : Kind} {ks : Keywords} {tok : Token} {ts : List Token}
  {o : Options}

/-! ## The semicolon -/

/-- The only semicolon there may be is the last token. -/
theorem filter_semicolon (h : ts.Pairwise fun a _ => a.kind ≠ .semicolon) :
    ts.filter (·.kind = .semicolon) = ts.getLast?.toList.filter (·.kind = .semicolon) := by
  induction ts using List.reverseRecOn with
  | nil => rfl
  | append_singleton ts t _ =>
    have hts : ts.filter (·.kind = .semicolon) = [] := by
      rw [List.filter_eq_nil_iff]
      intro a ha
      simpa using (List.pairwise_append.1 h).2.2 a ha t List.mem_cons_self
    rw [List.filter_append, hts, List.nil_append, List.getLast?_concat, Option.toList_some]

/-- The semicolon has a cell behind all others, without a space. -/
theorem cells_semicolon (h : ts.Pairwise fun a _ => a.kind ≠ .semicolon) :
    cells comments true prev ts =
      cells comments false prev ts ++ (ts.filter (·.kind = .semicolon)).map (Cell.mk false) := by
  induction ts generalizing prev with
  | nil => rfl
  | cons t ts ih =>
    obtain ⟨hfirst, hrest⟩ := List.pairwise_cons.1 h
    by_cases hk : t.kind = .semicolon
    · obtain rfl : ts = [] := List.eq_nil_iff_forall_not_mem.2 fun a ha => hfirst a ha hk
      simp [cells, hk, spaceBetween, Kind.attaches]
    · by_cases hcomment : (t.kind = .comment && !comments) = true <;>
        simp [cells, hk, hcomment, ih hrest]

theorem written_of_semicolon (h : tok.Lexical ks) (hk : tok.kind = .semicolon) :
    tok.written = [';'] := by
  rw [Token.written, hk]
  exact lexeme_eq_of_semicolon h hk

/-! ## Comments -/

/-- A comment that is not written is missing from the cells, and changes no other cell. -/
theorem cells_comments (semicolon : Bool) (prev : Kind) (ts : List Token) :
    cells false semicolon prev ts =
      (cells true semicolon prev ts).filter (·.token.kind ≠ .comment) := by
  fun_induction cells true semicolon prev ts with
  | case1 => rfl
  | case2 prev t ts h ih => simp at h
  | case3 prev t ts h h' ih =>
    have hk : t.kind = .semicolon := by grind
    rw [cells, if_neg (by simp [hk]), if_pos h', ih]
  | case4 prev t ts h h' ih =>
    by_cases hk : t.kind = .comment
    · rw [cells, if_pos (by simp [hk]), List.filter_cons_of_neg (by simp [hk]), ← ih, hk]
    · rw [cells, if_neg (by simp [hk]), if_neg h', List.filter_cons_of_pos (by simp [hk]), ih]

/-- Every cell has the spacing of its kind behind some other. -/
theorem exists_spaced_of_mem_cells {c : Cell} (hc : c ∈ cells comments semicolon prev ts) :
    ∃ k, c.spaced = spaceBetween k c.token.kind := by
  fun_induction cells comments semicolon prev ts with
  | case1 => exact absurd hc List.not_mem_nil
  | case2 prev t ts h ih => exact ih hc
  | case3 prev t ts h h' ih => exact ih hc
  | case4 prev t ts h h' ih =>
    obtain rfl | hc := List.mem_cons.1 hc
    · exact ⟨prev, rfl⟩
    · exact ih hc

/-- A comment is written between spaces and comment marks. -/
theorem text_of_comment {c : Cell} (hc : c ∈ cells comments semicolon prev ts)
    (hk : c.token.kind = .comment) :
    c.text = [' ', '/', '*', ' '] ++ c.token.lexeme ++ [' ', '*', '/'] := by
  obtain ⟨k, hspaced⟩ := exists_spaced_of_mem_cells hc
  rw [hk] at hspaced
  simp [Cell.text, Token.written, hspaced, hk, spaceBetween]

/-! ## Two options -/

/-- What the semicolon adds to the text of the cells. -/
theorem flatMap_text_cells_semicolon (hlex : ∀ tok ∈ ts, tok.Lexical ks)
    (h : ts.Pairwise fun a _ => a.kind ≠ .semicolon) :
    (cells comments true prev ts).flatMap Cell.text =
      (cells comments false prev ts).flatMap Cell.text ++
        if ts.getLast?.any (·.kind = .semicolon) then [';'] else [] := by
  rw [cells_semicolon h, List.flatMap_append, filter_semicolon h]
  congr 1
  cases hlast : ts.getLast? with
  | none => rfl
  | some tok =>
    by_cases hk : tok.kind = .semicolon
    · simp [hk, written_of_semicolon (hlex tok (List.mem_of_getLast? hlast)) hk]
    · simp [hk]

theorem layout_semicolon (o : Options) (hlex : ∀ tok ∈ ts, tok.Lexical ks)
    (h : ts.Pairwise fun a _ => a.kind ≠ .semicolon) :
    layout { o with semicolon := true } ts =
      layout { o with semicolon := false } ts ++
        if 2 ≤ ts.length ∧ ts.getLast?.map Token.kind = some .semicolon then [';'] else [] := by
  have hlast : (ts.getLast?.any (·.kind = .semicolon)) = true ↔
      ts.getLast?.map Token.kind = some .semicolon := by
    cases ts.getLast? <;> simp
  rw [layout_eq_flatMap_text, layoutCells, layout_eq_flatMap_text, layoutCells]
  by_cases hlen : ts.length ≤ 1
  · have hshort : ¬2 ≤ ts.length := by omega
    simp [hlen, hshort]
  · have hlong : 2 ≤ ts.length := by omega
    simp only [Bool.true_or, Bool.false_or, hlen, decide_false, hlong, true_and, ← hlast]
    exact flatMap_text_cells_semicolon hlex h

/-- With comments, every token has a cell but a semicolon that is left out. -/
theorem map_token_layoutCells_with_comments (ho : o.comments = true)
    (h : ts.Pairwise fun a _ => a.kind ≠ .semicolon) :
    (layoutCells o ts).map Cell.token =
      if !o.semicolon && 1 < ts.length then withoutFinalSemicolon ts else ts := by
  rw [layoutCells, map_token_cells, ho, withoutFinalSemicolon_eq_filter h]
  split
  · apply List.filter_congr
    intro t _
    grind
  · rw [List.filter_eq_self]
    intro t _
    grind

/-- Each option changes its own text only. With the semicolon a compact form is the one without, and
a semicolon if the statement has two tokens or more and ends in one. With comments a compact form
has a cell for every token, except for a semicolon that is left out, and a cell for a comment is a
space and the comment between comment marks; without comments it has the same cells but those. -/
theorem options_change_own_text (o : Options) (t : Text) :
    let ts := scan o.keywordSet t
    let shown := compactCells { o with comments := true } t
    compact { o with semicolon := true } t =
        compact { o with semicolon := false } t ++
          (if 2 ≤ ts.length ∧ ts.getLast?.map Token.kind = some .semicolon then [';'] else []) ∧
      compact { o with comments := true } t = shown.flatMap Cell.text ∧
      shown.map Cell.token =
        (if !o.semicolon && 1 < ts.length then withoutFinalSemicolon ts else ts) ∧
      (∀ c ∈ shown, c.token.kind = .comment →
        c.text = [' ', '/', '*', ' '] ++ c.token.lexeme ++ [' ', '*', '/']) ∧
      compact { o with comments := false } t =
        (shown.filter (·.token.kind ≠ .comment)).flatMap Cell.text := by
  intro ts shown
  have hpairwise : ts.Pairwise fun a _ => a.kind ≠ .semicolon := pairwise_ne_semicolon_scan _ t
  refine ⟨layout_semicolon o lexical_of_mem_scan hpairwise, compact_eq_flatMap_text _ t,
    map_token_layoutCells_with_comments rfl hpairwise, fun c => text_of_comment, ?_⟩
  rw [compact_eq_flatMap_text, compactCells, layoutCells, cells_comments]
  rfl

/-- A statement with a comment in front of its semicolon. -/
theorem options_change_own_text_select :
    let o : Options := ⟨some .empty, true, false⟩
    let t : Text := "SELECT 1 -- one\n;".toList
    let c : Cell := ⟨true, .ofText .comment "one".toList⟩
    (c ∈ compactCells o t ∧ c.token.kind = .comment) ∧
      c.text = [' ', '/', '*', ' '] ++ c.token.lexeme ++ [' ', '*', '/'] ∧
      compact { o with semicolon := true } t = "select 1 /* one */;".toList ∧
      compact { o with comments := false } t = "select 1".toList := by
  intro o t c
  have hc : c ∈ compactCells { o with comments := true } t := by decide +kernel
  have hk : c.token.kind = .comment := rfl
  obtain ⟨-, -, -, htext, -⟩ := options_change_own_text o t
  exact ⟨⟨hc, hk⟩, htext c hc hk, by decide +kernel, by decide +kernel⟩

end CompactSql
