import CompactSql.Proofs.Layout.Cells
import CompactSql.Proofs.Lexeme.Comment
import CompactSql.Proofs.Lexeme.ReadBack
import CompactSql.Proofs.Scan.Tokens

/-!
# Cells are read back

A scan of a row of cells finds their tokens again if none of them runs into the next one, and if no
comment is closed by its own text.

## Main definitions

* `Kind.runsInto` — the pairs of kinds that a scan may read as one when no space parts them.
* `Cell.Fits` — a cell that does not go on with the token before it.
* `Cell.Readable` — a cell whose token can be read back.
* `Token.readBack` — the token that is found again.

## Main statements

* `Behind.fits` — the spacing of a compact form parts all pairs but those of `Kind.runsInto`.
* `scan_text_of_operator` — an operator at the end of a text is not read back.
* `scan_flatMap_text_iff` — a row of cells that fit is read back exactly if its comments are closed.
-/

namespace CompactSql

variable {ks : Keywords} {a b : Cell} {cs : List Cell} {r : Text} {tok : Token}

/-! ## Neighbours -/

/-- Whether the scan may take a token of the kind `k`, or the beginning of it, for a part of a token
of the kind `prev` that is written right before it. -/
def Kind.runsInto : Kind → Kind → Bool
  | dot, dot | dot, numeric | numeric, dot | colon, colon | colon, doubleColon => true
  | _, _ => false

/-- There are finitely many pairs of kinds, and the marks are known. -/
theorem endsBefore_mark : ∀ prev ∈ Kind.all, ∀ k ∈ Kind.all,
    k.attaches = true ∨ k = .leftParen → prev.runsInto k = false →
      ((k.mark?.bind List.head?).all fun c => prev.endsBefore (some c)) = true := by
  decide

/-- What is always written without a space ends the token before it. -/
theorem endsBefore_of_attaches {prev k : Kind} {c : Char} (hk : k.attaches = true ∨ k = .leftParen)
    (hc : k.begins c = true) (hrun : prev.runsInto k = false) :
    prev.endsBefore (some c) = true := by
  have hmark : k.mark?.bind List.head? = some c := by
    cases k <;> first | exact absurd hk (by decide) | simpa [Kind.begins, Kind.mark?] using hc
  have hends := endsBefore_mark prev prev.mem_all k k.mem_all hk hrun
  rwa [hmark] at hends

theorem kind_of_begins_colon : ∀ k ∈ Kind.all, k.begins ':' = true →
    k = .colon ∨ k = .doubleColon := by
  decide

theorem kind_of_begins_dot : ∀ k ∈ Kind.all, k.begins '.' = true →
    k = .dot ∨ k = .doubleDot ∨ k = .numeric := by
  decide

theorem begins_eq_false_of_isDigit {k : Kind} {c : Char} (hk : k ≠ .numeric)
    (h : c.isDigit = true) : k.begins c = false := by
  refine eq_false_of_isDigit ?_ h
  cases k <;> first | exact absurd rfl hk | decide

/-- What is written without a space behind `prev` does not go on with it. -/
theorem endsBefore_of_attachesNext {prev k : Kind} {c : Char} (hprev : prev.attachesNext = true)
    (hk : k ≠ .doubleDot) (hc : k.begins c = true) (hrun : prev.runsInto k = false) :
    prev.endsBefore (some c) = true := by
  cases prev with
  | dot =>
    have hdigit : c.isDigit = false := by
      rw [Bool.eq_false_iff]
      intro hdigit
      have hnum : k ≠ .numeric := by
        rintro rfl
        exact Bool.noConfusion hrun
      exact Bool.noConfusion ((begins_eq_false_of_isDigit hnum hdigit).symm.trans hc)
    have hdot : c ≠ '.' := by
      rintro rfl
      rcases kind_of_begins_dot k k.mem_all hc with rfl | rfl | rfl
      · exact Bool.noConfusion hrun
      · exact hk rfl
      · exact Bool.noConfusion hrun
    simp [Kind.endsBefore, hdigit, hdot]
  | colon =>
    have hcolon : c ≠ ':' := by
      rintro rfl
      rcases kind_of_begins_colon k k.mem_all hc with rfl | rfl <;> exact Bool.noConfusion hrun
    simp [Kind.endsBefore, hcolon]
  | _ => first | rfl | cases hprev

/-! ## Cells that are read one by one -/

namespace Cell

/-- Whether the token of `a` ends where the cell `b` begins. -/
def Fits (a b : Cell) : Prop :=
  b.spaced = true ∨ ∀ c ∈ b.token.written.head?, a.token.kind.endsBefore (some c) = true

/-- A cell whose token can be read back. -/
structure Readable (ks : Keywords) (c : Cell) : Prop where
  lexical : c.token.Lexical ks
  lowerable : c.token.Lowerable

theorem spaceBetween_eq_false {prev k : Kind} (h : spaceBetween prev k = false) :
    k ≠ .doubleDot ∧ ((k.attaches = true ∨ k = .leftParen) ∨ prev.attachesNext = true) := by
  unfold spaceBetween at h
  split at h
  · cases h
  · cases h
  · exact ⟨nofun, .inl (.inr rfl)⟩
  · rename_i hdouble _
    have hor : k.attaches = true ∨ prev.attachesNext = true := by grind
    exact ⟨hdouble, hor.imp .inl id⟩

theorem Behind.fits (h : Behind a b) (hb : b.Readable ks)
    (hrun : a.token.kind.runsInto b.token.kind = false) : Fits a b := by
  obtain ⟨c, t, hwritten, hc⟩ := hb.lexical.exists_written hb.lowerable
  cases hspaced : b.spaced with
  | true => exact .inl hspaced
  | false =>
    right
    intro d hd
    obtain rfl : c = d := by simpa [hwritten] using hd
    rw [Behind, hspaced] at h
    rcases h with h | h
    · obtain ⟨hk, hattaches | hattaches⟩ := spaceBetween_eq_false h.symm
      · exact endsBefore_of_attaches hattaches hc hrun
      · exact endsBefore_of_attachesNext hattaches hk hc hrun
    · obtain ⟨-, hattaches | hattaches⟩ := spaceBetween_eq_false h.symm
      · exact endsBefore_of_attaches hattaches hc hrun
      · exact Bool.noConfusion hattaches

theorem Fits.endsBefore (h : Fits a b) (hb : b.Readable ks) (r : Text) :
    a.token.kind.endsBefore (b.text ++ r).head? = true := by
  obtain ⟨c, t, hwritten, -⟩ := hb.lexical.exists_written hb.lowerable
  cases hspaced : b.spaced with
  | true => simpa [text, hspaced] using endsBefore_space _
  | false =>
    have hc := (h.resolve_left (by simp [hspaced])) c (by simp [hwritten])
    simpa [text, hspaced, hwritten] using hc

/-- The space before a cell is nothing to a scan. -/
theorem scan_text_append (ks : Keywords) (c : Cell) (r : Text) :
    scan ks (c.text ++ r) = scan ks (c.token.written ++ r) := by
  cases hspaced : c.spaced <;> simp [text, hspaced]

/-- The step that reads a cell, unless it is a comment. -/
theorem exists_step (hb : b.Readable ks) (hk : b.token.kind ≠ .comment)
    (hr : b.token.kind.endsBefore r.head? = true) :
    ∃ c t, b.token.written ++ r = c :: t ∧ step ks c t = ⟨.token b.token.lowered, r⟩ := by
  rw [hb.lexical.written_eq hk]
  exact (hb.lexical.lowered hb.lowerable).exists_step hk hr

/-- The step that reads a comment. -/
theorem step_comment (hk : b.token.kind = .comment) (r : Text) :
    ∃ t, b.token.written ++ r = '/' :: t ∧
      step ks '/' t = Comment.readBlock (' ' :: b.token.lexeme ++ [' ', '*', '/'] ++ r) := by
  refine ⟨'*' :: (' ' :: b.token.lexeme ++ [' ', '*', '/'] ++ r), ?_, rfl⟩
  simp [Token.written, hk]

end Cell

/-- An operator at the end of a text is left out. -/
theorem scan_text_of_operator (hb : b.Readable ks) (hk : b.token.kind = .operator) :
    scan ks b.text = [] := by
  obtain ⟨d, w, htok, hrun, hcomment⟩ := hb.lexical.exists_of_operator hk
  have hwritten : b.token.written = d :: w := by rw [htok]; rfl
  rw [← List.append_nil b.text, Cell.scan_text_append, List.append_nil, hwritten, scan_cons,
    step_operator_of_end hrun hcomment]
  exact scan_nil ks

/-! ## A row of cells -/

/-- The token that is found where `t` is written: a comment is folded like a block comment, a word
is in lowercase. -/
def Token.readBack (t : Token) : Token :=
  if t.kind = .comment then .ofText .comment (Comment.foldBlock t.lexeme) else t.lowered

/-- A row of cells, each of which fits behind the one before it, with no semicolon but the last
cell. -/
structure IsRow (ks : Keywords) (cs : List Cell) : Prop where
  readable : ∀ c ∈ cs, c.Readable ks
  fits : cs.IsChain Cell.Fits
  semicolon : cs.Pairwise fun a _ => a.token.kind ≠ .semicolon

namespace IsRow

theorem tail (h : IsRow ks (b :: cs)) : IsRow ks cs :=
  ⟨(List.forall_mem_cons.1 h.readable).2, h.fits.tail, h.semicolon.of_cons⟩

/-- The first token of a row ends where the next one begins. At the end of a text an operator does
not end. -/
theorem endsBefore (h : IsRow ks (b :: cs)) (hlast : cs = [] → b.token.kind ≠ .operator) :
    b.token.kind.endsBefore (cs.flatMap Cell.text).head? = true := by
  cases cs with
  | nil => exact endsBefore_none (hlast rfl)
  | cons c cs =>
    rw [List.flatMap_cons]
    exact (h.fits.rel_head? rfl).endsBefore (h.readable c (by simp)) _

/-- Nothing stands behind a semicolon. -/
theorem eq_nil_of_semicolon (h : IsRow ks (b :: cs)) (hb : b.token.kind = .semicolon) :
    cs = [] := by
  cases cs with
  | nil => rfl
  | cons c cs => exact absurd hb (List.rel_of_pairwise_cons h.semicolon List.mem_cons_self)

/-- The scan of a row finds the token of the first cell, and those of the rest. -/
theorem scan_cons (h : IsRow ks (b :: cs)) (hk : b.token.kind ≠ .comment)
    (hlast : cs = [] → b.token.kind ≠ .operator) :
    scan ks ((b :: cs).flatMap Cell.text) = b.token.lowered :: scan ks (cs.flatMap Cell.text) := by
  obtain ⟨c, t, htext, hstep⟩ :=
    Cell.exists_step (h.readable b (by simp)) hk (h.endsBefore hlast)
  rw [List.flatMap_cons, Cell.scan_text_append, htext]
  by_cases hb : b.token.kind = .semicolon
  · obtain rfl := h.eq_nil_of_semicolon hb
    rw [scan_of_semicolon hstep hb, List.flatMap_nil, scan_nil]
  · exact scan_of_token hstep hb

theorem scan_cons_comment (hk : b.token.kind = .comment) (hclosed : Comment.Closed b.token.lexeme) :
    scan ks ((b :: cs).flatMap Cell.text) =
      .ofText .comment (Comment.foldBlock b.token.lexeme) :: scan ks (cs.flatMap Cell.text) := by
  obtain ⟨t, htext, hstep⟩ := Cell.step_comment hk (cs.flatMap Cell.text)
  rw [Comment.readBlock_of_closed hclosed] at hstep
  rw [List.flatMap_cons, Cell.scan_text_append, htext]
  exact scan_of_token hstep nofun

/-- The scan goes on behind the mark that closes a comment early. -/
theorem scan_cons_open_comment {before behind : Text} (hk : b.token.kind = .comment)
    (hcut : Text.cutAt ['*', '/'] b.token.lexeme = some (before, behind)) :
    scan ks ((b :: cs).flatMap Cell.text) =
      .ofText .comment (Comment.foldBlock (' ' :: before)) ::
        scan ks (behind ++ [' ', '*', '/'] ++ cs.flatMap Cell.text) := by
  obtain ⟨t, htext, hstep⟩ := Cell.step_comment hk (cs.flatMap Cell.text)
  rw [Comment.readBlock_of_cutAt hcut] at hstep
  rw [List.flatMap_cons, Cell.scan_text_append, htext]
  exact scan_of_token hstep nofun

/-- A row is read back up to its first comment that is closed by its own text. -/
theorem scan_append {pre : List Cell} (h : IsRow ks (pre ++ cs)) (hcs : cs ≠ [])
    (hclosed : ∀ t ∈ pre.map Cell.token, t.kind = .comment → Comment.Closed t.lexeme) :
    scan ks ((pre ++ cs).flatMap Cell.text) =
      (pre.map Cell.token).map Token.readBack ++ scan ks (cs.flatMap Cell.text) := by
  induction pre with
  | nil => rfl
  | cons b pre ih =>
    rw [List.map_cons, List.forall_mem_cons] at hclosed
    have hpre := ih h.tail hclosed.2
    rw [List.map_cons, List.map_cons, List.cons_append, List.cons_append, ← hpre]
    by_cases hk : b.token.kind = .comment
    · rw [Token.readBack, if_pos hk, scan_cons_comment hk (hclosed.1 hk)]
    · rw [Token.readBack, if_neg hk]
      exact scan_cons h hk fun hnil => absurd (List.append_eq_nil_iff.1 hnil).2 hcs

/-- A row of cells is read back exactly if no comment in it is closed by its own text. -/
theorem scan_flatMap_text_iff (h : IsRow ks cs)
    (hlast : ∀ c ∈ cs.getLast?, c.token.kind ≠ .operator) :
    scan ks (cs.flatMap Cell.text) = (cs.map Cell.token).map Token.readBack ↔
      ∀ t ∈ cs.map Cell.token, t.kind = .comment → Comment.Closed t.lexeme := by
  induction cs with
  | nil => simp
  | cons b cs ih =>
    have htail : ∀ c ∈ cs.getLast?, c.token.kind ≠ .operator := by
      intro c hc
      apply hlast c
      rw [Option.mem_def, List.getLast?_cons, Option.mem_def.1 hc]
      rfl
    rw [List.map_cons, List.map_cons, List.forall_mem_cons, ← ih h.tail htail]
    by_cases hk : b.token.kind = .comment
    · rw [Token.readBack, if_pos hk]
      by_cases hclosed : Comment.Closed b.token.lexeme
      · rw [scan_cons_comment hk hclosed, List.cons_inj_right]
        exact (and_iff_right fun _ => hclosed).symm
      · obtain ⟨before, behind, hcut⟩ := Comment.exists_cutAt_of_not_closed hclosed
        rw [scan_cons_open_comment hk hcut]
        apply iff_of_false
        · intro heq
          have htext := congrArg Token.text? (List.cons.inj heq).1
          exact Comment.foldBlock_ne_of_cutAt hcut (Option.some.inj htext)
        · intro hall
          exact hclosed (hall.1 hk)
    · have hb : cs = [] → b.token.kind ≠ .operator := by
        rintro rfl
        exact hlast b rfl
      rw [h.scan_cons hk hb, Token.readBack, if_neg hk, List.cons_inj_right]
      exact (and_iff_right fun hk' => absurd hk' hk).symm

end IsRow

end CompactSql
