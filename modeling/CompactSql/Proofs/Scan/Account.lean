import CompactSql.Compact
import CompactSql.Proofs.Scan.Tokens

/-!
# A scan accounts for every character

The pieces of a scan lie behind each other from the beginning of the statement up to its end, or up
to the end of its first semicolon. Each of them is a blank, or yields one token, or is reported as
left out.

## Main definitions

* `Piece.tokens`, `Piece.events` — the tokens of a piece, and what is reported about it.
* `Piece.Accounted` — a piece is a blank, a token or a report.
* `Piece.StandsIn` — a piece at its place in the statement.
* `placed` — pieces with the positions at which they begin.

## Main statements

* `exists_append_pieces` — the characters of the pieces are a beginning of the statement.
* `standsIn_of_mem_placed` — every piece is a part of the statement, and accounted for.
* `scan_accounts_for_every_character` — both, with the tokens and the events of the statement.
-/

namespace CompactSql

/-! ## What becomes of a piece -/

namespace Piece

/-- The tokens of a piece. -/
def tokens (p : Piece) : List Token := p.outcome.token?.toList

/-- What is reported about a piece that begins at `start`. -/
def events (start : Nat) (p : Piece) : List Event :=
  match p.outcome with
  | .dropped f => [.dropped (f.position start (start + p.slice.length)) f]
  | _ => []

/-- The three things that may become of a piece that begins at `start`. -/
inductive Accounted (start : Nat) (p : Piece) : Prop where
  | blank (hslice : p.slice = [' '] ∨ p.slice = ['\t'] ∨ p.slice = ['\n'])
    (htokens : p.tokens = []) (hevents : p.events start = [])
  | token (tok : Token) (htokens : p.tokens = [tok]) (hevents : p.events start = [])
  | dropped (pos : Nat) (f : Fault) (htokens : p.tokens = [])
    (hevents : p.events start = [.dropped pos f]) (hstart : start ≤ pos)
    (hstop : pos ≤ start + p.slice.length)

/-- A piece at its place in the statement: some characters that stand there, accounted for. -/
structure StandsIn (t : Text) (start : Nat) (p : Piece) : Prop where
  slice_ne_nil : p.slice ≠ []
  stop_le : start + p.slice.length ≤ t.length
  slice_eq : p.slice = (t.drop start).take p.slice.length
  accounted : p.Accounted start

end Piece

/-- The pieces with the positions at which they begin, which for the first one is `start`. -/
def placed (start : Nat) : List Piece → List (Nat × Piece)
  | [] => []
  | p :: ps => (start, p) :: placed (start + p.slice.length) ps

/-! ## One step -/

variable {ks : Keywords} {c : Char} {t : Text}

theorem Fault.position_mem_interval (f : Fault) {start stop : Nat} (h : start ≤ stop) :
    start ≤ f.position start stop ∧ f.position start stop ≤ stop := by
  cases f <;> simp [position, h]

@[simp] theorem Reading.outcome_ofText (k : Kind) (t rest : Text) :
    (ofText k t rest).outcome = .token (.ofText k t) := rfl

@[simp] theorem Reading.outcome_dropped (f : Fault) (rest : Text) :
    (dropped f rest).outcome = .dropped f := rfl

theorem readQuotedIdentifier_ne_blank (lead t : Text) :
    (readQuotedIdentifier lead t).outcome ≠ .blank := by
  simp only [readQuotedIdentifier]
  repeat' split
  all_goals simp

theorem readString_ne_blank (form : StringForm) (t : Text) :
    (readString form t).outcome ≠ .blank := by
  unfold readString
  split <;> simp

theorem readBitString_ne_blank (form : BitForm) (t : Text) :
    (readBitString form t).outcome ≠ .blank := by
  unfold readBitString
  repeat' split
  all_goals simp

theorem DollarQuotation.rule_ne_blank (t : Text) : (rule t).outcome ≠ .blank := by
  simp only [rule]
  repeat' split
  all_goals simp

theorem Comment.readBlock_ne_blank (t : Text) : (readBlock t).outcome ≠ .blank := by
  unfold readBlock
  split <;> simp

theorem Operator.rule_ne_blank (c : Char) (t : Text) : (rule c t).outcome ≠ .blank := by
  simp only [rule]
  repeat' split
  all_goals simp

theorem Number.complete_ne_blank (value t : Text) : (complete value t).outcome ≠ .blank := by
  unfold complete
  repeat' split
  all_goals simp

theorem Number.rule_ne_blank (c : Char) (t : Text) : (rule c t).outcome ≠ .blank := by
  simp only [rule]
  split
  · exact complete_ne_blank _ _
  · simp
  · exact complete_ne_blank _ _

theorem readUnicode_ne_blank (t : Text) : (readUnicode t).outcome ≠ .blank := by
  unfold readUnicode
  split
  · exact readQuotedIdentifier_ne_blank _ _
  · exact readString_ne_blank _ _
  · simp

/-- A step passes over nothing but a space, a tab or the end of a line. -/
theorem blank_of_step (h : (step ks c t).outcome = .blank) :
    (c = ' ' ∨ c = '\t' ∨ c = '\n') ∧ (step ks c t).rest = t := by
  have hopens := Form.opens_ofChars c t.head?
  rw [step_eq_rule] at h ⊢
  cases hf : Form.ofChars c t.head? with rw [hf] at h hopens
  | blank => exact ⟨hopens, rfl⟩
  | bare | double | parameter | lineComment | word | unexpected => cases h
  | quotedIdentifier => exact absurd h (readQuotedIdentifier_ne_blank _ _)
  | string | escapeString => exact absurd h (readString_ne_blank _ _)
  | dollarQuoted => exact absurd h (DollarQuotation.rule_ne_blank _)
  | blockComment => exact absurd h (Comment.readBlock_ne_blank _)
  | operator => exact absurd h (Operator.rule_ne_blank _ _)
  | number => exact absurd h (Number.rule_ne_blank _ _)
  | bitString => exact absurd h (readBitString_ne_blank _ _)
  | unicodeLead => exact absurd h (readUnicode_ne_blank _)

/-- A step accounts for the characters that it takes. -/
theorem accounted_ofStep (ks : Keywords) (c : Char) (t : Text) (start : Nat) :
    (Piece.ofStep ks c t).Accounted start := by
  cases hout : (step ks c t).outcome with
  | blank =>
    obtain ⟨hc, hrest⟩ := blank_of_step hout
    have hslice : (Piece.ofStep ks c t).slice = [c] := by
      have happend := append_slice_step ks c t
      rw [hrest] at happend
      exact List.append_cancel_right (happend.trans List.singleton_append.symm)
    refine .blank ?_ ?_ ?_
    · simpa [hslice] using hc
    · simp [Piece.tokens, hout, Outcome.token?]
    · simp [Piece.events, hout]
  | token tok =>
    refine .token tok ?_ ?_
    · simp [Piece.tokens, hout, Outcome.token?]
    · simp [Piece.events, hout]
  | dropped f =>
    obtain ⟨hstart, hstop⟩ := f.position_mem_interval (Nat.le_add_right start
      (Piece.ofStep ks c t).slice.length)
    refine .dropped _ f ?_ ?_ hstart hstop
    · simp [Piece.tokens, hout, Outcome.token?]
    · simp [Piece.events, hout]

/-! ## A whole statement -/

/-- The characters of the pieces are a beginning of the statement, and what stands behind them, if
anything does, stands behind a semicolon. -/
theorem exists_append_pieces (ks : Keywords) (t : Text) :
    ∃ behind, (pieces ks t).flatMap Piece.slice ++ behind = t ∧
      (behind = [] ∨ ∃ p ∈ (pieces ks t).getLast?, p.outcome.isTerminator = true) := by
  induction t using step_induction ks with
  | nil => exact ⟨[], by simp, .inl rfl⟩
  | cons c t ih =>
    rw [pieces_cons]
    cases hterm : (step ks c t).outcome.isTerminator with
    | true =>
      refine ⟨(step ks c t).rest, ?_, .inr ⟨Piece.ofStep ks c t, rfl, hterm⟩⟩
      simpa using append_slice_step ks c t
    | false =>
      obtain ⟨behind, happend, hend⟩ := ih hterm
      refine ⟨behind, ?_, hend.imp id fun ⟨p, hp, hp'⟩ => ⟨p, ?_, hp'⟩⟩
      · rw [if_neg Bool.false_ne_true, List.flatMap_cons, List.append_assoc, happend]
        exact append_slice_step ks c t
      · rw [if_neg Bool.false_ne_true, Option.mem_def, List.getLast?_cons, Option.mem_def.1 hp]
        rfl

/-- A scan goes on until it comes to a semicolon. -/
theorem isTerminator_of_mem_dropLast_pieces (ks : Keywords) (t : Text) :
    ∀ p ∈ (pieces ks t).dropLast, p.outcome.isTerminator = false := by
  induction t using step_induction ks with
  | nil => simp
  | cons c t ih =>
    rw [pieces_cons]
    cases hterm : (step ks c t).outcome.isTerminator with
    | true => simp
    | false =>
      rw [if_neg Bool.false_ne_true]
      cases hps : pieces ks (step ks c t).rest with
      | nil => simp
      | cons q qs =>
        rw [List.dropLast_cons_cons, List.forall_mem_cons, ← hps]
        exact ⟨hterm, ih hterm⟩

theorem length_pieces_le (ks : Keywords) (t : Text) : (pieces ks t).length ≤ t.length := by
  induction t using step_induction ks with
  | nil => simp
  | cons c t ih =>
    rw [pieces_cons]
    cases hterm : (step ks c t).outcome.isTerminator with
    | true => simp
    | false => exact Nat.succ_le_succ ((ih hterm).trans (length_step_le ks c t))

theorem scan_eq_flatMap_tokens (ks : Keywords) (t : Text) :
    scan ks t = (pieces ks t).flatMap Piece.tokens :=
  List.filterMap_eq_flatMap_toList _ _

theorem faultsFrom_eq_flatMap_events (start : Nat) (ps : List Piece) :
    (faultsFrom start ps).map (fun (pos, f) => Event.dropped pos f) =
      (placed start ps).flatMap fun q => q.2.events q.1 := by
  induction ps generalizing start with
  | nil => rfl
  | cons p ps ih =>
    rw [faultsFrom, placed, List.flatMap_cons, ← ih]
    cases hout : p.outcome <;> simp [Piece.events, hout]

/-- The detailed events of a statement are those of its pieces. -/
theorem traceEvents_eq_flatMap_events (o : Options) (t : Text) :
    (compactEvents o t).filter (·.level = .trace) =
      (placed 0 (pieces o.keywordSet t)).flatMap fun q => q.2.events q.1 := by
  have htrace : ∀ fs : List (Nat × Fault),
      (fs.map fun (pos, f) => Event.dropped pos f).filter (·.level = .trace) =
        fs.map fun (pos, f) => Event.dropped pos f := by
    intro fs
    rw [List.filter_eq_self]
    intro e he
    obtain ⟨q, -, rfl⟩ := List.mem_map.1 he
    rfl
  rw [← faultsFrom_eq_flatMap_events, compactEvents, List.filter_append, htrace]
  exact List.append_nil _

theorem standsIn_ofStep (ks : Keywords) (before : Text) (c : Char) (t : Text) :
    (Piece.ofStep ks c t).StandsIn (before ++ c :: t) before.length := by
  have happend := append_slice_step ks c t
  refine ⟨slice_ofStep_ne_nil ks c t, ?_, ?_, accounted_ofStep ks c t _⟩
  · rw [List.length_append, ← happend, List.length_append]
    omega
  · rw [List.drop_left, ← happend, List.take_left]

/-- Every piece is a part of the statement, and accounted for. -/
theorem standsIn_of_mem_placed (before : Text) {q : Nat × Piece}
    (hq : q ∈ placed before.length (pieces ks t)) : q.2.StandsIn (before ++ t) q.1 := by
  induction t using step_induction ks generalizing before with
  | nil => simp [placed] at hq
  | cons c t ih =>
    rw [pieces_cons] at hq
    cases hterm : (step ks c t).outcome.isTerminator with
    | true =>
      obtain rfl : q = (before.length, Piece.ofStep ks c t) := by simpa [hterm, placed] using hq
      exact standsIn_ofStep ks before c t
    | false =>
      rw [hterm, if_neg Bool.false_ne_true, placed, List.mem_cons] at hq
      rcases hq with rfl | hq
      · exact standsIn_ofStep ks before c t
      · have hbehind := ih hterm (before ++ (Piece.ofStep ks c t).slice)
          (by rwa [List.length_append])
        rwa [List.append_assoc, append_slice_step] at hbehind

/-- A scan accounts for every character and drops nothing silently. Its pieces lie behind each
other from the beginning of the statement to its end or to the end of its first semicolon; there are
no more of them than characters; each is a blank, or adds one token to the statement, or is reported
once as left out, at a position inside it. -/
theorem scan_accounts_for_every_character (o : Options) (t : Text) :
    (∃ behind, (pieces o.keywordSet t).flatMap Piece.slice ++ behind = t ∧
      (behind = [] ∨ ∃ p ∈ (pieces o.keywordSet t).getLast?, p.outcome.isTerminator = true)) ∧
    (∀ p ∈ (pieces o.keywordSet t).dropLast, p.outcome.isTerminator = false) ∧
    (pieces o.keywordSet t).length ≤ t.length ∧
    scan o.keywordSet t = (pieces o.keywordSet t).flatMap Piece.tokens ∧
    (compactEvents o t).filter (·.level = .trace) =
      (placed 0 (pieces o.keywordSet t)).flatMap (fun q => q.2.events q.1) ∧
    ∀ q ∈ placed 0 (pieces o.keywordSet t), q.2.StandsIn t q.1 :=
  ⟨exists_append_pieces _ t, isTerminator_of_mem_dropLast_pieces _ t, length_pieces_le _ t,
    scan_eq_flatMap_tokens _ t, traceEvents_eq_flatMap_events o t,
    fun _ hq => standsIn_of_mem_placed [] hq⟩

end CompactSql
