import CompactSql.Compact
import CompactSql.Proofs.Layout.ReadBack

/-!
# The tokens of a compact form

Compacting a statement keeps its tokens: a scan of the compact form finds them again, with the words
in lowercase. Where comments are written this holds as long as no comment is closed by its own text,
which a comment that ended with its line may be.

## Main definitions

* `live` — tokens without the comments among them.
* `kept` — the tokens that a compact form is to keep.
* `layoutCells` — the cells of a compact form.

## Main statements

* `isRow_layoutCells` — the cells of a compact form are a row.
* `scan_compact` — a compact form without comments has the tokens of the statement.
* `scan_compact_with_comments` — what a compact form with comments has.
-/

namespace CompactSql

variable {ks : Keywords} {o : Options} {ts : List Token}

/-! ## The tokens to keep -/

/-- The tokens that are no comments. -/
def live (ts : List Token) : List Token := ts.filter (·.kind ≠ .comment)

/-- The tokens without the semicolon that they end in, if they do. -/
def withoutFinalSemicolon (ts : List Token) : List Token :=
  if ts.getLast?.any (·.kind = .semicolon) then ts.dropLast else ts

/-- The tokens that the compact form of a statement is to keep: all but the comments and the final
semicolon, if that is not to be written, with the words in lowercase. -/
def kept (o : Options) (ts : List Token) : List Token :=
  let rest := if !o.semicolon && 1 < ts.length then withoutFinalSemicolon (live ts) else live ts
  rest.map Token.lowered

theorem withoutFinalSemicolon_eq_filter (h : ts.Pairwise fun a _ => a.kind ≠ .semicolon) :
    withoutFinalSemicolon ts = ts.filter (·.kind ≠ .semicolon) := by
  induction ts using List.reverseRecOn with
  | nil => rfl
  | append_singleton ts t _ =>
    have hts : ∀ a ∈ ts, a.kind ≠ .semicolon :=
      fun a ha => (List.pairwise_append.1 h).2.2 a ha t List.mem_cons_self
    have hfilter : ts.filter (·.kind ≠ .semicolon) = ts := by simpa using hts
    rw [List.filter_append, hfilter]
    by_cases ht : t.kind = .semicolon <;> simp [withoutFinalSemicolon, ht]

/-! ## The cells of a compact form -/

/-- The cells of the compact form of a statement. -/
def layoutCells (o : Options) (ts : List Token) : List Cell :=
  cells o.comments (o.semicolon || ts.length ≤ 1) .unknown ts

theorem layout_eq_flatMap_text (o : Options) (ts : List Token) :
    layout o ts = (layoutCells o ts).flatMap Cell.text := flatten_segments ..

theorem map_lowered_live_layoutCells (h : ts.Pairwise fun a _ => a.kind ≠ .semicolon) :
    (live ((layoutCells o ts).map Cell.token)).map Token.lowered = kept o ts := by
  rw [layoutCells, map_token_cells, live, List.filter_filter, kept]
  congr 1
  by_cases hdrop : (!o.semicolon && decide (1 < ts.length)) = true
  · rw [if_pos hdrop, live, withoutFinalSemicolon_eq_filter (h.filter _), List.filter_filter]
    apply List.filter_congr
    intro t _
    grind
  · rw [if_neg hdrop, live]
    apply List.filter_congr
    intro t _
    grind

/-- Whether two tokens in a row are neither taken for one nor cut elsewhere. -/
theorem isChain_fits {cs : List Cell} (hread : ∀ c ∈ cs, c.Readable ks)
    (hbehind : cs.IsChain Cell.Behind)
    (hruns : (live (cs.map Cell.token)).IsChain fun a b => a.kind.runsInto b.kind = false) :
    cs.IsChain Cell.Fits := by
  induction cs with
  | nil => exact .nil
  | cons b cs ih =>
    cases cs with
    | nil => exact .singleton b
    | cons c cs =>
      rw [List.isChain_cons_cons] at hbehind
      rw [List.forall_mem_cons] at hread
      have hrun : b.token.kind.runsInto c.token.kind = false := by
        by_cases hb : b.token.kind = .comment
        · simp [hb, Kind.runsInto]
        by_cases hc : c.token.kind = .comment
        · simp [hc, Kind.runsInto]
        simp only [live, List.map_cons, List.filter_cons, hb, hc, ne_eq, not_false_eq_true,
          decide_true, if_true, List.isChain_cons_cons] at hruns
        exact hruns.1
      have hfits : Cell.Fits b c := hbehind.1.fits (hread.2 c List.mem_cons_self) hrun
      refine .cons_cons hfits (ih hread.2 hbehind.2 ?_)
      exact hruns.suffix ((List.suffix_cons _ _).filter _)

/-- The last cell is no operator unless that is the last token to keep. -/
theorem getLast_layoutCells_ne_operator (hsemicolon : ts.Pairwise fun a _ => a.kind ≠ .semicolon)
    (hoperator : ∀ t ∈ (kept o ts).getLast?, t.kind ≠ .operator) :
    ∀ c ∈ (layoutCells o ts).getLast?, c.token.kind ≠ .operator := by
  intro c hc hk
  rw [← map_lowered_live_layoutCells hsemicolon] at hoperator
  obtain ⟨init, hinit⟩ := List.getLast?_eq_some_iff.1 hc
  refine hoperator c.token.lowered ?_ hk
  simp [hinit, live, hk]

theorem readable_of_mem_layoutCells (hlex : ∀ t ∈ ts, t.Lexical ks) (hI : ∀ t ∈ ts, t.Lowerable) :
    ∀ c ∈ layoutCells o ts, c.Readable ks := by
  intro c hc
  have htoken : c.token ∈ (layoutCells o ts).map Cell.token := List.mem_map_of_mem hc
  rw [layoutCells, map_token_cells] at htoken
  exact ⟨hlex _ (List.mem_of_mem_filter htoken), hI _ (List.mem_of_mem_filter htoken)⟩

theorem pairwise_layoutCells (h : ts.Pairwise fun a _ => a.kind ≠ .semicolon) :
    (layoutCells o ts).Pairwise fun a _ => a.token.kind ≠ .semicolon := by
  refine (List.pairwise_map (f := Cell.token) (R := fun a _ => a.kind ≠ .semicolon)).1 ?_
  rw [layoutCells, map_token_cells]
  exact h.filter _

/-- The cells of a compact form can be read back one by one. -/
theorem isRow_layoutCells (hlex : ∀ t ∈ ts, t.Lexical ks)
    (hsemicolon : ts.Pairwise fun a _ => a.kind ≠ .semicolon)
    (hruns : (kept o ts).IsChain fun a b => a.kind.runsInto b.kind = false)
    (hI : ∀ t ∈ ts, t.Lowerable) : IsRow ks (layoutCells o ts) := by
  have hread := readable_of_mem_layoutCells (o := o) hlex hI
  rw [← map_lowered_live_layoutCells hsemicolon] at hruns
  have hruns' := (List.isChain_map Token.lowered).1 hruns
  have hfits := isChain_fits hread (isChain_behind_cells ..) hruns'
  exact ⟨hread, hfits, pairwise_layoutCells hsemicolon⟩

/-! ## Compact forms without comments -/

theorem readBack_of_ne_comment {t : Token} (h : t.kind ≠ .comment) : t.readBack = t.lowered :=
  if_neg h

/-- A compact form without comments has the tokens that it is to keep, and no other. -/
theorem scan_compact (o : Options) (t : Text) (hcomments : o.comments = false)
    (hoperator : ∀ tok ∈ (kept o (scan o.keywordSet t)).getLast?, tok.kind ≠ .operator)
    (hruns : (kept o (scan o.keywordSet t)).IsChain fun a b => a.kind.runsInto b.kind = false)
    (hI : ∀ tok ∈ scan o.keywordSet t, tok.kind.isWord = true → 'İ' ∉ tok.lexeme) :
    scan o.keywordSet (compact o t) = kept o (scan o.keywordSet t) := by
  have hsemicolon := pairwise_ne_semicolon_scan o.keywordSet t
  have hrow := isRow_layoutCells lexical_of_mem_scan hsemicolon hruns hI
  have hlast := getLast_layoutCells_ne_operator hsemicolon hoperator
  have hnone : ∀ tok ∈ (layoutCells o (scan o.keywordSet t)).map Cell.token,
      tok.kind ≠ .comment := by
    intro tok htok hk
    rw [layoutCells, map_token_cells, List.mem_filter] at htok
    simp [hk, hcomments] at htok
  have hlive : live ((layoutCells o (scan o.keywordSet t)).map Cell.token) =
      (layoutCells o (scan o.keywordSet t)).map Cell.token := by
    simpa [live] using hnone
  rw [compact, layout_eq_flatMap_text,
    (hrow.scan_flatMap_text_iff hlast).2 fun tok htok hk => absurd hk (hnone tok htok),
    ← map_lowered_live_layoutCells hsemicolon, hlive]
  exact List.map_congr_left fun tok htok => readBack_of_ne_comment (hnone tok htok)

/-- A statement with a word in upper case, a comment and a semicolon, none of which is written. -/
theorem scan_compact_select :
    let o : Options := ⟨some (.ofList ["select".toList]), false, false⟩
    compact o "Select F(1)--c\n;".toList = "select f(1)".toList ∧
      scan o.keywordSet "select f(1)".toList =
        [.ofText .keyword "select".toList, .ofText .identifier ['f'], .bare .leftParen,
          .ofText .numeric ['1'], .bare .rightParen] := by
  intro o
  have hcompact : compact o "Select F(1)--c\n;".toList = "select f(1)".toList := by decide +kernel
  have hscan := scan_compact o "Select F(1)--c\n;".toList rfl (by decide +kernel)
    (by decide +kernel) (by decide +kernel)
  rw [hcompact] at hscan
  exact ⟨hcompact, hscan.trans (by decide +kernel)⟩

/-! ## Compact forms with comments -/

theorem kind_readBack (t : Token) : t.readBack.kind = t.kind := by
  unfold Token.readBack
  split
  · rename_i h
    exact h.symm
  · rfl

theorem live_map_readBack (ts : List Token) :
    live (ts.map Token.readBack) = (live ts).map Token.lowered := by
  rw [live, List.filter_map, live]
  simp only [Function.comp_def, kind_readBack]
  refine List.map_congr_left fun t ht => readBack_of_ne_comment ?_
  simpa using List.of_mem_filter ht

theorem live_append (ts us : List Token) : live (ts ++ us) = live ts ++ live us :=
  List.filter_append ..

theorem map_token_layoutCells_of_all (hcomments : o.comments = true)
    (hsemicolon : o.semicolon = true) (ts : List Token) :
    (layoutCells o ts).map Cell.token = ts := by
  simp [layoutCells, map_token_cells, hcomments, hsemicolon]

/-- The cells before and behind a comment. -/
theorem exists_layoutCells_eq (hcomments : o.comments = true) (hsemicolon : o.semicolon = true)
    (pre : List Token) (c : Token) (post : List Token) :
    ∃ s, layoutCells o (pre ++ c :: post) =
      layoutCells o pre ++ ⟨s, c⟩ :: cells true true c.kind post := by
  simpa [layoutCells, hcomments, hsemicolon] using cells_append_cons .unknown pre c post

/-- What is kept of a row whose first comment with the closing mark in its text is `c`. -/
theorem live_scan_flatMap_text_of_cutAt {pre cs : List Cell} {c : Cell} {before behind : Text}
    (hrow : IsRow ks (pre ++ c :: cs))
    (hpre : ∀ t ∈ pre.map Cell.token, t.kind = .comment → Comment.Closed t.lexeme)
    (hc : c.token.kind = .comment)
    (hcut : Text.cutAt ['*', '/'] c.token.lexeme = some (before, behind)) :
    live (scan ks ((pre ++ c :: cs).flatMap Cell.text)) =
      (live (pre.map Cell.token)).map Token.lowered ++
        live (scan ks (behind ++ [' ', '*', '/'] ++ cs.flatMap Cell.text)) := by
  rw [hrow.scan_append (List.cons_ne_nil _ _) hpre, IsRow.scan_cons_open_comment hc hcut,
    live_append, live_map_readBack]
  rfl

/-- What a compact form with comments holds. Every token is found again, the comments folded,
exactly if no comment text holds the mark that closes a comment, and then no text of a comment
becomes part of the statement. Behind the first comment that holds the mark, the statement goes on
with the text of that comment, and its tokens are kept exactly if that text changes nothing. -/
theorem scan_compact_with_comments (o : Options) (t : Text) (hcomments : o.comments = true)
    (hsemicolon : o.semicolon = true)
    (hoperator : ∀ tok ∈ (kept o (scan o.keywordSet t)).getLast?, tok.kind ≠ .operator)
    (hruns : (kept o (scan o.keywordSet t)).IsChain fun a b => a.kind.runsInto b.kind = false)
    (hI : ∀ tok ∈ scan o.keywordSet t, tok.kind.isWord = true → 'İ' ∉ tok.lexeme) :
    (scan o.keywordSet (compact o t) = (scan o.keywordSet t).map Token.readBack ↔
      ∀ tok ∈ scan o.keywordSet t, tok.kind = .comment → Comment.Closed tok.lexeme) ∧
    ((∀ tok ∈ scan o.keywordSet t, tok.kind = .comment → Comment.Closed tok.lexeme) →
      live (scan o.keywordSet (compact o t)) = kept o (scan o.keywordSet t)) ∧
    ∀ (pre : List Token) (c : Token) (post : List Token) (before behind : Text),
      scan o.keywordSet t = pre ++ c :: post →
      (∀ tok ∈ pre, tok.kind = .comment → Comment.Closed tok.lexeme) →
      c.kind = .comment → Text.cutAt ['*', '/'] c.lexeme = some (before, behind) →
      (live (scan o.keywordSet (compact o t)) = kept o (scan o.keywordSet t) ↔
        live (scan o.keywordSet
            (behind ++ [' ', '*', '/'] ++ (segments true true .comment post).flatten)) =
          (live post).map Token.lowered) := by
  have hpairwise := pairwise_ne_semicolon_scan o.keywordSet t
  have hrow := isRow_layoutCells lexical_of_mem_scan hpairwise hruns hI
  have hlast := getLast_layoutCells_ne_operator hpairwise hoperator
  have htokens := map_token_layoutCells_of_all hcomments hsemicolon (scan o.keywordSet t)
  have hkept : kept o (scan o.keywordSet t) = (live (scan o.keywordSet t)).map Token.lowered := by
    simp [kept, hsemicolon]
  have hall := hrow.scan_flatMap_text_iff hlast
  rw [← layout_eq_flatMap_text, htokens] at hall
  refine ⟨hall, ?_, ?_⟩
  · intro hclosed
    rw [compact, hall.2 hclosed, live_map_readBack, hkept]
  · intro pre c post before behind hts hpre hc hcut
    obtain ⟨s, hs⟩ := exists_layoutCells_eq hcomments hsemicolon pre c post
    rw [← hts] at hs
    have hpre' := map_token_layoutCells_of_all hcomments hsemicolon pre
    have hscan := live_scan_flatMap_text_of_cutAt (hs ▸ hrow) (by rwa [hpre']) hc hcut
    rw [← hs, ← layout_eq_flatMap_text, hpre'] at hscan
    have hpost : live (c :: post) = live post := by simp [live, hc]
    rw [compact, hscan, hkept, hts, live_append, hpost, List.map_append, List.append_right_inj,
      ← hc, flatten_segments]

/-- A comment that keeps to itself, and one whose last word becomes part of the statement. -/
theorem scan_compact_with_comments_select :
    let o : Options := ⟨some (.ofList ["select".toList]), true, true⟩
    live (scan o.keywordSet (compact o "select 1 -- b\n".toList)) =
        kept o (scan o.keywordSet "select 1 -- b\n".toList) ∧
      live (scan o.keywordSet (compact o "select 1 -- a */ b\n".toList)) ≠
        kept o (scan o.keywordSet "select 1 -- a */ b\n".toList) := by
  intro o
  constructor
  · have h := scan_compact_with_comments o "select 1 -- b\n".toList rfl rfl (by decide +kernel)
      (by decide +kernel) (by decide +kernel)
    exact h.2.1 (by decide +kernel)
  · have h := scan_compact_with_comments o "select 1 -- a */ b\n".toList rfl rfl (by decide +kernel)
      (by decide +kernel) (by decide +kernel)
    have hiff := h.2.2 [.ofText .keyword "select".toList, .ofText .numeric ['1']]
      (.ofText .comment "a */ b".toList) [] "a ".toList " b".toList (by decide +kernel)
      (by decide +kernel) rfl (by decide +kernel)
    rw [ne_eq, hiff]
    decide +kernel

end CompactSql
