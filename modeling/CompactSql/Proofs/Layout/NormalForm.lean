import CompactSql.Proofs.Layout.Options
import CompactSql.Proofs.Lexeme.LongestMatch

/-!
# The spacing of a compact form

Without comments a compact form has no blanks but those inside quotations and single spaces between
tokens. The rules of spacing put at most one space before a token; that spaces cannot pile up is
due to the tokens, none of which is empty or has a blank at its ends.

## Main definitions

* `gaps` — the characters that a scan passes over.
* `Kind.isQuotation` — the kinds whose tokens may hold such characters.
* `Neat` — a text with other characters at its ends.
* `InQuotation` — a place inside a quotation in a row of cells.

## Main statements

* `Token.Lexical.neat_written`, `Token.Lexical.not_mem_gaps` — what is written for a token.
* `inQuotation_of_gap` — where a row of cells has a tab, a newline or two spaces.
* `output_in_normal_form` — the compact form of a statement without comments.
-/

namespace CompactSql

variable {ks : Keywords} {tok : Token} {t u w : Text} {c : Char}

/-! ## Gaps -/

/-- The characters that a scan passes over. -/
def gaps : Text := [' ', '\t', '\n']

theorem not_mem_gaps_of {p : Char → Bool} (hp : gaps.all (!p ·) = true) (h : p c = true) :
    c ∉ gaps := fun hc => ne_of_all hp h c hc rfl

theorem not_mem_gaps_of_all (h : t.all (· ∉ gaps) = true) : ∀ c ∈ t, c ∉ gaps := by
  simpa using h

/-- A text that begins and ends with characters that are no gaps. -/
structure Neat (t : Text) : Prop where
  first : ∃ c ∈ t.head?, c ∉ gaps
  last : ∃ c ∈ t.getLast?, c ∉ gaps

theorem neat_of_forall (hne : t ≠ []) (h : ∀ c ∈ t, c ∉ gaps) : Neat t where
  first := ⟨_, List.head?_eq_some_head hne, h _ (List.head_mem hne)⟩
  last := ⟨_, List.getLast?_eq_some_getLast hne, h _ (List.getLast_mem hne)⟩

theorem neat_of_ends {e : Char} (hc : c ∉ gaps) (he : e ∉ gaps) (t : Text) :
    Neat (c :: t ++ [e]) :=
  ⟨⟨c, rfl, hc⟩, ⟨e, List.getLast?_concat, he⟩⟩

/-! ## Tokens -/

/-- Whether tokens of the kind may hold gaps. -/
def Kind.isQuotation : Kind → Bool
  | quotedIdentifier | string => true
  | _ => false

theorem Kind.isWord_of_isQuotation {k : Kind} (h : k.isQuotation = true) : k.isWord = false := by
  cases k <;> first | rfl | cases h

/-- Numeric constants consist of digits, dots, signs and the marks of exponents. -/
theorem Number.isDigit_or_mem {m e : Text} (hm : IsMantissa m) (he : IsExponent e) :
    ∀ c ∈ m ++ e, c.isDigit = true ∨ c ∈ ['.', 'e', 'E', '+', '-'] := by
  rw [List.forall_mem_append]
  constructor
  · intro c hc
    exact (hm.isDigit_or_dot c hc).imp_right fun h => by simp [h]
  · cases he with
    | absent => exact fun c hc => absurd hc List.not_mem_nil
    | marked he hs hd hds => grind

namespace Token

theorem Lexical.not_mem_gaps (h : tok.Lexical ks) (hk : tok.kind ≠ .comment)
    (hq : tok.kind.isQuotation = false) : ∀ c ∈ tok.written, c ∉ gaps := by
  cases h with
  | @bare k hbare => cases k <;> first | exact not_mem_gaps_of_all rfl | cases hbare
  | doubleDot | doubleColon => exact not_mem_gaps_of_all rfl
  | @word c w hc hw =>
    have hletters : ∀ d ∈ c :: w, isWordChar d = true :=
      List.forall_mem_cons.2 ⟨isWordChar_of_beginsWord hc, hw⟩
    rw [written_word]
    intro d hd
    obtain hd | rfl := mem_lowercaseAfter hletters hd
    · exact not_mem_gaps_of (by decide) hd
    · decide
  | numeric hm he =>
    intro d hd
    obtain hd | hd := Number.isDigit_or_mem hm he d hd
    · exact not_mem_gaps_of (by decide) hd
    · exact not_mem_gaps_of_all rfl d hd
  | parameter hd hds =>
    have hdigits := fun c hc => not_mem_gaps_of (p := Char.isDigit) (by decide) (hds c hc)
    exact List.forall_mem_cons.2
      ⟨by decide, List.forall_mem_cons.2 ⟨not_mem_gaps_of (by decide) hd, hdigits⟩⟩
  | @bitString form ds hds =>
    have hdigits := fun c hc => not_mem_gaps_of (by cases form <;> decide) (hds c hc)
    have hends : ∀ c ∈ [form.letter, '\'', '\''], c ∉ gaps :=
      not_mem_gaps_of_all (by cases form <;> rfl)
    have hwritten : (ofText form.kind (form.letter :: '\'' :: ds ++ ['\''])).written =
        form.letter :: '\'' :: ds ++ ['\''] := by cases form <;> rfl
    rw [hwritten]
    grind
  | operator hrun => exact fun d hd => not_mem_gaps_of (by decide) (hrun d hd)
  | quotedIdentifier | string | dollarQuoted => cases hq
  | lineComment | blockComment => exact absurd rfl hk

theorem Lexical.written_eq_lexeme (h : tok.Lexical ks) (hk : tok.kind ≠ .comment)
    (hword : tok.kind.isWord = false) : tok.written = tok.lexeme := by
  rw [h.written_eq hk, lowered_of_not_isWord hword]

theorem Lexical.written_ne_nil (h : tok.Lexical ks) (hk : tok.kind ≠ .comment) :
    tok.written ≠ [] := by
  obtain ⟨c, t, hlexeme, -⟩ := h.exists_lexeme hk
  have hne : tok.lexeme ≠ [] := hlexeme ▸ List.cons_ne_nil c t
  cases hword : tok.kind.isWord with
  | true =>
    rw [written_of_isWord hword]
    exact lowercase_ne_nil hne
  | false => rwa [h.written_eq_lexeme hk hword]

theorem Lexical.neat_written (h : tok.Lexical ks) (hk : tok.kind ≠ .comment) :
    Neat tok.written := by
  cases hq : tok.kind.isQuotation with
  | false => exact neat_of_forall (h.written_ne_nil hk) (h.not_mem_gaps hk hq)
  | true =>
    cases h with
    | quotedIdentifier hlead hb hne =>
      rcases hlead with rfl | rfl <;> exact neat_of_ends (by decide) (by decide) _
    | string form s => cases form <;> exact neat_of_ends (by decide) (by decide) _
    | @dollarQuoted name b hname hb =>
      have hneat : Neat ('$' :: (name ++ ['$'] ++ b ++ '$' :: name) ++ ['$']) :=
        neat_of_ends (by decide) (by decide) _
      simpa [written, lexeme] using hneat
    | @bare k hbare => cases k <;> simp_all [Kind.isBare, Kind.isQuotation]
    | word =>
      rw [kind_ofText, wordKind] at hq
      split at hq <;> cases hq
    | bitString form => cases form <;> cases hq
    | _ => cases hq

end Token

/-! ## Rows of cells -/

/-- A cell whose token has no gaps at its ends, and none inside unless it is a quotation. -/
structure Cell.Tidy (c : Cell) : Prop where
  neat : Neat c.token.written
  gapless : c.token.kind.isQuotation = false → ∀ d ∈ c.token.written, d ∉ gaps
  lexeme : c.token.kind.isQuotation = true → c.token.written = c.token.lexeme

theorem Token.Lexical.tidy (h : tok.Lexical ks) (hk : tok.kind ≠ .comment) (s : Bool) :
    Cell.Tidy ⟨s, tok⟩ where
  neat := h.neat_written hk
  gapless := h.not_mem_gaps hk
  lexeme hq := h.written_eq_lexeme hk (Kind.isWord_of_isQuotation hq)

/-- In the text of a row of cells, the characters `part` with `before` in front of them and `behind`
behind them belong to a token that is a quotation. -/
inductive InQuotation : List Cell → (before part behind : Text) → Prop where
  | here {c : Cell} {x part y : Text} (hk : c.token.kind.isQuotation = true)
      (hlexeme : c.token.lexeme = x ++ part ++ y) (cs : List Cell) :
      InQuotation (c :: cs) ((if c.spaced then [' '] else []) ++ x) part
        (y ++ cs.flatMap Cell.text)
  | there {cs : List Cell} {before part behind : Text} (c : Cell)
      (h : InQuotation cs before part behind) :
      InQuotation (c :: cs) (c.text ++ before) part behind

/-- A text that consists of gaps, other than one space. -/
structure Gap (part : Text) : Prop where
  ne_nil : part ≠ []
  ne_space : part ≠ [' ']
  forall_mem : ∀ c ∈ part, c ∈ gaps

variable {cs : List Cell} {before part behind : Text}

theorem gap_of_mem (h : part ∈ [['\t'], ['\n'], [' ', ' ']]) : Gap part := by
  obtain rfl | rfl | rfl : part = ['\t'] ∨ part = ['\n'] ∨ part = [' ', ' '] := by simpa using h
  all_goals exact ⟨by simp, by simp, by simp [gaps]⟩

namespace Cell.Tidy

variable {a : Cell}

theorem exists_getLast (h : a.Tidy) : ∃ c ∈ a.text.getLast?, c ∉ gaps := by
  obtain ⟨c, hc, hgap⟩ := h.neat.last
  exact ⟨c, by rw [text, List.getLast?_append, Option.mem_def.1 hc]; rfl, hgap⟩

/-- A cell begins with a space only where one stands before its token. -/
theorem head?_text (h : a.Tidy) (u : Text) : (a.text ++ u).head? = some ' ' ↔ a.spaced = true := by
  obtain ⟨c, hc, hgap⟩ := h.neat.first
  obtain ⟨v, hv⟩ := List.head?_eq_some_iff.1 hc
  have hne : c ≠ ' ' := fun hspace => hgap (hspace ▸ List.mem_cons_self)
  cases hspaced : a.spaced <;> simp [text, hspaced, hv, hne]

/-- A gap inside a cell is a gap inside its token, behind the space that may stand there. -/
theorem exists_written_eq (h : a.Tidy) (hpart : Gap part)
    (htext : a.text = before ++ part ++ behind) :
    ∃ x, before = (if a.spaced then [' '] else []) ++ x ∧
      a.token.written = x ++ part ++ behind := by
  cases hspaced : a.spaced with
  | false => exact ⟨before, rfl, by simpa [text, hspaced] using htext⟩
  | true =>
    have htext' : ' ' :: a.token.written = before ++ part ++ behind := by
      simpa [text, hspaced] using htext
    cases before with
    | cons b before =>
      obtain ⟨rfl, hwritten⟩ := List.cons.inj htext'
      exact ⟨before, rfl, hwritten⟩
    | nil =>
      -- The gap would go on with the first character of the token.
      obtain ⟨p, part, rfl⟩ := List.exists_cons_of_ne_nil hpart.ne_nil
      obtain ⟨rfl, hwritten⟩ := List.cons.inj htext'
      obtain ⟨q, part, rfl⟩ :=
        List.exists_cons_of_ne_nil fun hnil => hpart.ne_space (congrArg (' ' :: ·) hnil)
      obtain ⟨c, hc, hgap⟩ := h.neat.first
      obtain rfl : q = c := by simpa [hwritten] using hc
      exact absurd (hpart.forall_mem q (by simp)) hgap

/-- A gap inside a cell stands in a quotation. -/
theorem inQuotation (h : a.Tidy) (hpart : Gap part) (htext : a.text = before ++ part ++ behind)
    (cs : List Cell) : InQuotation (a :: cs) before part (behind ++ cs.flatMap Cell.text) := by
  obtain ⟨x, rfl, hwritten⟩ := h.exists_written_eq hpart htext
  have hquotation : a.token.kind.isQuotation = true := by
    rw [← Bool.not_eq_false]
    intro hq
    obtain ⟨c, w, rfl⟩ := List.exists_cons_of_ne_nil hpart.ne_nil
    exact h.gapless hq c (by simp [hwritten]) (hpart.forall_mem c List.mem_cons_self)
  exact .here hquotation ((h.lexeme hquotation).symm.trans hwritten) cs

end Cell.Tidy

/-- No gap goes on from a cell to the next one, because the last character of a cell is none. -/
theorem inQuotation_of_gap (hcs : ∀ c ∈ cs, c.Tidy) (hpart : Gap part)
    (h : cs.flatMap Cell.text = before ++ part ++ behind) : InQuotation cs before part behind := by
  induction cs generalizing before with
  | nil =>
    have hnil : part = [] := by simp_all
    exact absurd hnil hpart.ne_nil
  | cons c cs ih =>
    rw [List.forall_mem_cons] at hcs
    rw [List.flatMap_cons, List.append_assoc, List.append_eq_append_iff] at h
    rcases h with ⟨s, rfl, hrest⟩ | ⟨s, htext, hrest⟩
    · -- The gap begins behind the first cell.
      exact .there c (ih hcs.2 (hrest.trans (List.append_assoc ..).symm))
    · rcases List.append_eq_append_iff.1 hrest with ⟨y, rfl, rfl⟩ | ⟨y, rfl, hrest⟩
      · exact hcs.1.inQuotation hpart (htext.trans (List.append_assoc ..).symm) cs
      · -- The gap goes on behind the first cell, so it begins there too.
        obtain rfl : s = [] := by
          by_contra hne
          obtain ⟨d, hd, hgap⟩ := hcs.1.exists_getLast
          rw [htext, List.getLast?_append_of_ne_nil _ hne] at hd
          exact hgap (hpart.forall_mem d (List.mem_append_left y (List.mem_of_getLast? hd)))
        rw [List.append_nil] at htext
        have hbehind : InQuotation cs [] y behind := ih hcs.2 hrest.symm
        simpa [htext] using InQuotation.there c hbehind

theorem not_mem_gaps_of_getLast (hcs : ∀ c ∈ cs, c.Tidy) :
    ∀ d ∈ (cs.flatMap Cell.text).getLast?, d ∉ gaps := by
  induction cs with
  | nil => exact fun d hd => by cases hd
  | cons c cs ih =>
    rw [List.forall_mem_cons] at hcs
    obtain ⟨e, he, hgap⟩ := hcs.1.exists_getLast
    intro d hd
    rw [List.flatMap_cons, List.getLast?_append, Option.mem_def.1 he] at hd
    cases hlast : (cs.flatMap Cell.text).getLast? with
    | none =>
      obtain rfl : e = d := by simpa [hlast] using hd
      exact hgap
    | some d' =>
      obtain rfl : d' = d := by simpa [hlast] using hd
      exact ih hcs.2 d' hlast

theorem head?_flatMap_text (hcs : ∀ c ∈ cs, c.Tidy) :
    (cs.flatMap Cell.text).head? = some ' ' ↔ ∃ c ∈ cs.head?, c.spaced = true := by
  cases cs with
  | nil => simp
  | cons c cs => simpa using (hcs c List.mem_cons_self).head?_text (cs.flatMap Cell.text)

/-! ## The first space -/

/-- The first cell of a statement stands behind nothing, or behind a comment. -/
theorem spaced_of_mem_head {semicolon : Bool} {ts : List Token} {c : Cell}
    (h : ts.Pairwise fun a _ => a.kind ≠ .semicolon)
    (hc : c ∈ (cells false semicolon .unknown ts).head?) :
    c.spaced = spaceBetween (if ts.head?.any (·.kind = .comment) then .comment else .unknown)
      c.token.kind := by
  cases ts with
  | nil => cases hc
  | cons t ts =>
    by_cases hcomment : t.kind = .comment
    · rw [cells, if_pos (by simp [hcomment])] at hc
      simpa [hcomment] using spaced_of_mem_head_cells hc
    · rw [cells, if_neg (by simp [hcomment])] at hc
      split at hc
      · -- Nothing is written behind a semicolon that is left out, as nothing stands there.
        rename_i hsemicolon
        have hk : t.kind = .semicolon := by grind
        obtain rfl : ts = [] :=
          List.eq_nil_iff_forall_not_mem.2 fun a ha => (List.pairwise_cons.1 h).1 a ha hk
        cases hc
      · obtain rfl := Option.some.inj hc
        simp [hcomment]

theorem spaceBetween_unknown {k : Kind} (hk : k ≠ .comment) :
    spaceBetween .unknown k = true ↔ k = .doubleDot := by
  cases k <;> first | exact absurd rfl hk | decide

/-- What is written without a space behind a comment. -/
theorem spaceBetween_comment (k : Kind) :
    spaceBetween .comment k = true ↔
      k ∉ [.leftParen, .rightParen, .rightBracket, .semicolon, .comma, .doubleColon, .colon,
        .dot] := by
  cases k <;> decide

/-! ## The normal form -/

variable {o : Options}

theorem lexical_of_mem_compactCells (ho : o.comments = false) {c : Cell}
    (hc : c ∈ compactCells o t) :
    c.token.Lexical o.keywordSet ∧ c.token.kind ≠ .comment := by
  have htoken : c.token ∈ (compactCells o t).map Cell.token := List.mem_map_of_mem hc
  rw [compactCells, layoutCells, map_token_cells, List.mem_filter] at htoken
  exact ⟨lexical_of_mem_scan _ htoken.1, by simp_all⟩

theorem tidy_of_mem_compactCells (ho : o.comments = false) : ∀ c ∈ compactCells o t, c.Tidy := by
  intro c hc
  obtain ⟨hlex, hk⟩ := lexical_of_mem_compactCells ho hc
  exact hlex.tidy hk c.spaced

theorem map_lowered_compactCells (ho : o.comments = false) (t : Text) :
    (compactCells o t).map (·.token.lowered) = kept o (scan o.keywordSet t) := by
  have hlive : live ((compactCells o t).map Cell.token) = (compactCells o t).map Cell.token := by
    rw [live, List.filter_eq_self]
    intro tok htok
    obtain ⟨c, hc, rfl⟩ := List.mem_map.1 htok
    simpa using (lexical_of_mem_compactCells ho hc).2
  rw [← map_lowered_live_layoutCells (pairwise_ne_semicolon_scan _ t), ← compactCells, hlive,
    List.map_map]
  rfl

theorem head?_compact_eq_space_iff (ho : o.comments = false) (t : Text) :
    (compact o t).head? = some ' ' ↔
      ∃ tok ∈ (kept o (scan o.keywordSet t)).head?, tok.kind = .doubleDot ∨
        (scan o.keywordSet t).head?.any (·.kind = .comment) ∧
          tok.kind ∉ [.leftParen, .rightParen, .rightBracket, .semicolon, .comma, .doubleColon,
            .colon, .dot] := by
  rw [compact_eq_flatMap_text, head?_flatMap_text (tidy_of_mem_compactCells ho),
    ← map_lowered_compactCells ho, List.head?_map]
  cases hhead : (compactCells o t).head? with
  | none => simp
  | some c =>
    have hk := (lexical_of_mem_compactCells ho (List.mem_of_mem_head? hhead)).2
    rw [compactCells, layoutCells, ho] at hhead
    have hspaced := spaced_of_mem_head (pairwise_ne_semicolon_scan _ t) hhead
    simp only [Option.mem_def, Option.some.injEq, exists_eq_left', Option.map_some,
      Token.kind_lowered]
    rw [hspaced]
    cases hcomment : (scan o.keywordSet t).head?.any (·.kind = .comment) with
    | true =>
      rw [if_pos rfl, spaceBetween_comment]
      constructor
      · exact fun h => .inr ⟨rfl, h⟩
      · rintro (h | ⟨-, h⟩)
        · rw [h]
          decide
        · exact h
    | false =>
      rw [if_neg Bool.false_ne_true, spaceBetween_unknown hk]
      simp

/-- The compact form of a statement without comments is in normal form. It is made of the tokens to
keep, in order, each with a space before it or without; tabs, newlines and two spaces in a row stand
in quotations only; it does not end in a space, and begins with one where the first token to keep is
`..`, or where the statement begins with a comment and that token asks for a space behind it. -/
theorem output_in_normal_form (o : Options) (t : Text) (ho : o.comments = false) :
    let ts := scan o.keywordSet t
    let cs := compactCells o t
    cs.map (·.token.lowered) = kept o ts ∧
      compact o t =
        cs.flatMap (fun c => (if c.spaced then [' '] else []) ++ c.token.lowered.lexeme) ∧
      (∀ before part behind, compact o t = before ++ part ++ behind →
        part ∈ [['\t'], ['\n'], [' ', ' ']] → InQuotation cs before part behind) ∧
      (compact o t).getLast? ≠ some ' ' ∧
      ((compact o t).head? = some ' ' ↔ ∃ tok ∈ (kept o ts).head?, tok.kind = .doubleDot ∨
        ts.head?.any (·.kind = .comment) ∧
          tok.kind ∉ [.leftParen, .rightParen, .rightBracket, .semicolon, .comma, .doubleColon,
            .colon, .dot]) := by
  intro ts cs
  have htidy : ∀ c ∈ cs, c.Tidy := tidy_of_mem_compactCells ho
  have htext : compact o t = cs.flatMap Cell.text := compact_eq_flatMap_text o t
  refine ⟨map_lowered_compactCells ho t, ?_, ?_, ?_, head?_compact_eq_space_iff ho t⟩
  · rw [htext]
    refine List.flatMap_congr fun c hc => ?_
    obtain ⟨hlex, hk⟩ := lexical_of_mem_compactCells ho hc
    rw [Cell.text, hlex.written_eq hk]
  · intro before part behind heq hpart
    exact inQuotation_of_gap htidy (gap_of_mem hpart) (htext.symm.trans heq)
  · intro hlast
    rw [htext] at hlast
    exact not_mem_gaps_of_getLast htidy ' ' hlast (by decide)

/-- A statement that begins with a comment and has a newline and two spaces in a string constant. -/
theorem output_in_normal_form_string :
    let o : Options := ⟨some .empty, false, true⟩
    let t : Text := "--c\nA \t'x\n  '".toList
    o.comments = false ∧ compact o t = " a 'x\n  '".toList ∧
      InQuotation (compactCells o t) " a 'x".toList ['\n'] "  '".toList ∧
      InQuotation (compactCells o t) " a 'x\n".toList [' ', ' '] ['\''] ∧
      (compact o t).getLast? ≠ some ' ' := by
  intro o t
  have ho : o.comments = false := rfl
  have htext : compact o t = " a 'x\n  '".toList := by decide +kernel
  obtain ⟨-, -, hgaps, hlast, -⟩ := output_in_normal_form o t ho
  exact ⟨ho, htext, hgaps _ ['\n'] _ htext (by decide), hgaps _ [' ', ' '] _ htext (by decide),
    hlast⟩

end CompactSql
