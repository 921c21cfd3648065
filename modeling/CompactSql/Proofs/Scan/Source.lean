import CompactSql.Proofs.Scan.Account
import Mathlib.Data.List.Forall2

/-!
# Where tokens come from

Every token of a statement is made of a part of it, the parts lie behind each other, and a token
that is no comment has the characters of its part. Only the letter that marks a literal may be
written in another case there.

## Main definitions

* `Text.lowerLead` — a text with the letter that marks a literal in lowercase.
* `Token.ReadFrom` — a token and the characters that it was read from.
* `Span` — a part of a text, by its two ends.
* `tokenSpans` — the parts of a statement that its tokens were read from.

## Main statements

* `readFrom_of_step` — a step makes a token of the characters that it takes.
* `pairwise_stop_le_start_tokenSpans` — the parts of the tokens lie behind each other.
* `tokens_stand_in_the_text` — the tokens of a statement, and its parts that they were read from.
-/

namespace CompactSql

variable {ks : Keywords} {c : Char} {t u r : Text} {tok : Token}

/-! ## The letter of a literal -/

namespace Text

/-- Whether a text begins with a letter that says how the quotation behind it is to be read, as do
`b'`, `x'`, `e'`, `u&'` and `u&"`. -/
def marksLiteral : Text → Bool
  | c :: '\'' :: _ => c ∈ ['b', 'B', 'x', 'X', 'e', 'E']
  | c :: '&' :: q :: _ => c ∈ ['u', 'U'] && q ∈ ['\'', '"']
  | _ => false

/-- The text with its first letter in lowercase, if that marks a literal. -/
def lowerLead : Text → Text
  | [] => []
  | c :: t => if marksLiteral (c :: t) then c.toLower :: t else c :: t

theorem lowerLead_of_not_mem (hc : c ∉ ['b', 'B', 'x', 'X', 'e', 'E', 'u', 'U']) (t : Text) :
    lowerLead (c :: t) = c :: t := by
  have hmark : marksLiteral (c :: t) = false := by
    unfold marksLiteral
    split <;> simp_all
  simp [lowerLead, hmark]

theorem lowerLead_of_head (ht : ∀ d ∈ t.head?, d ≠ '\'' ∧ d ≠ '&') :
    lowerLead (c :: t) = c :: t := by
  have hmark : marksLiteral (c :: t) = false := by
    unfold marksLiteral
    split <;> simp_all
  simp [lowerLead, hmark]

end Text

/-! ## What a token is read from -/

/-- How a token is made of the characters `slice`, where `behind` is what stands behind them. The
newline that ends a line comment belongs to it, unless the comment is at the end of the text. -/
inductive Token.ReadFrom : Token → Text → Text → Prop where
  | lexeme {tok : Token} {slice behind : Text} (hkind : tok.kind ≠ .comment)
    (hlexeme : tok.lexeme = Text.lowerLead slice) : ReadFrom tok slice behind
  | lineComment {body behind : Text} (hbody : '\n' ∉ body) :
    ReadFrom (.ofText .comment (Comment.foldLine body)) ('-' :: '-' :: body ++ ['\n']) behind
  | lastLine {body : Text} (hbody : '\n' ∉ body) :
    ReadFrom (.ofText .comment (Comment.foldLine body)) ('-' :: '-' :: body) []
  | blockComment {body behind : Text}
    (hbody : Text.cutAt ['*', '/'] (body ++ ['*', '/']) = some (body, [])) :
    ReadFrom (.ofText .comment (Comment.foldBlock body)) ('/' :: '*' :: body ++ ['*', '/']) behind

namespace Token

theorem readFrom_of_readLine (h : Comment.readLine (u ++ r) = ⟨.token tok, r⟩) :
    tok.ReadFrom ('-' :: '-' :: u) r := by
  obtain ⟨htok, hrest⟩ := Reading.mk.inj h
  obtain ⟨body, hbody⟩ : ∃ body, (u ++ r).takeWhile (· != '\n') = body := ⟨_, rfl⟩
  obtain ⟨behind, hbehind⟩ : ∃ behind, (u ++ r).dropWhile (· != '\n') = behind := ⟨_, rfl⟩
  obtain ⟨ht, hline, hend⟩ := Text.span_eq_iff.1 ⟨hbody, hbehind⟩
  rw [hbody] at htok
  rw [hbehind] at hrest
  obtain rfl := Outcome.token.inj htok
  have hnot : '\n' ∉ body := fun hmem => absurd (hline _ hmem) (by decide)
  cases behind with
  | nil =>
    obtain rfl : r = [] := by simpa using hrest.symm
    obtain rfl : u = body := by simpa using ht
    exact .lastLine hnot
  | cons e behind =>
    obtain rfl : behind = r := hrest
    obtain rfl : e = '\n' := by simpa using hend
    obtain rfl : u = body ++ ['\n'] := List.append_cancel_right (ht.trans (List.append_cons _ _ _))
    exact .lineComment hnot

theorem readFrom_of_readBlock (h : Comment.readBlock (u ++ r) = ⟨.token tok, r⟩) :
    tok.ReadFrom ('/' :: '*' :: u) r := by
  unfold Comment.readBlock at h
  split at h
  · rename_i body rest hcut
    cases h
    obtain rfl := List.append_cancel_right (Text.eq_of_cutAt hcut)
    exact .blockComment (by simpa using Text.cutAt_append hcut [])
  · cases h

theorem readFrom_of_readUnicode (hc : c = 'u' ∨ c = 'U')
    (h : readUnicode (u ++ r) = ⟨.token tok, r⟩) : tok.ReadFrom (c :: u) r := by
  unfold readUnicode at h
  split at h
  · rename_i t ht
    obtain ⟨b, rfl, -, -, rfl⟩ := readQuotedIdentifier_eq_token_iff.1 h
    obtain rfl : u = '&' :: '"' :: b ++ ['"'] :=
      List.append_cancel_right (ht.trans (by simp : _ = '&' :: '"' :: b ++ ['"'] ++ r))
    refine .lexeme (by simp) ?_
    rcases hc with rfl | rfl <;> rfl
  · rename_i t ht
    obtain ⟨s, rfl, -, rfl⟩ := readString_eq_token_iff.1 h
    obtain rfl : u = '&' :: '\'' :: doubled s ++ ['\''] :=
      List.append_cancel_right (ht.trans (by simp : _ = '&' :: '\'' :: doubled s ++ ['\''] ++ r))
    refine .lexeme (by simp) ?_
    rcases hc with rfl | rfl <;> rfl
  · cases h

theorem readFrom_of_readString {form : StringForm} (m : Text)
    (hm : ∀ s, Text.lowerLead (m ++ '\'' :: s) = form.lead ++ '\'' :: s)
    (h : readString form (u ++ r) = ⟨.token tok, r⟩) : tok.ReadFrom (m ++ '\'' :: u) r := by
  obtain ⟨s, ht, -, rfl⟩ := readString_eq_token_iff.1 h
  obtain rfl : u = doubled s ++ ['\''] :=
    List.append_cancel_right (ht.trans (List.append_cons _ _ _))
  refine .lexeme (by simp) ?_
  rw [hm, ← List.cons_append, ← List.append_assoc]
  rfl

theorem readFrom_of_readBitString {form : BitForm} (hc : (Form.bitString form).Opens c (some '\''))
    (h : readBitString form (u ++ r) = ⟨.token tok, r⟩) : tok.ReadFrom (c :: '\'' :: u) r := by
  obtain ⟨ds, ht, -, rfl⟩ := readBitString_eq_token_iff.1 h
  obtain rfl : u = ds ++ ['\''] := List.append_cancel_right (ht.trans (List.append_cons _ _ _))
  refine .lexeme (by cases form <;> exact Kind.noConfusion) ?_
  cases form <;> rcases hc.1 with rfl | rfl <;> rfl

/-- A step makes a token of the characters that it takes. -/
theorem readFrom_of_step (h : step ks c (u ++ r) = ⟨.token tok, r⟩) : tok.ReadFrom (c :: u) r := by
  have hopens := Form.opens_ofChars c (u ++ r).head?
  rw [step_eq_rule] at h
  cases hf : Form.ofChars c (u ++ r).head? with rw [hf] at h hopens
  | blank | unexpected => cases h
  | bare k =>
    obtain ⟨htok, hrest⟩ := Reading.mk.inj h
    obtain rfl : u = [] := by simpa using hrest
    obtain rfl := Outcome.token.inj htok
    refine .lexeme ?_ ?_
    · rintro (rfl : k = .comment)
      cases hopens.1
    · rw [Text.lowerLead_of_head (by simp)]
      simp [lexeme, hopens.2.1]
  | double k =>
    obtain ⟨u, rfl, hread⟩ := exists_cons_of_read_drop (f := .ofText k [c, c])
      (fun t => List.suffix_refl t) h hopens.2
    obtain ⟨htok, hrest⟩ := Reading.mk.inj hread
    obtain rfl : u = [] := by simpa using hrest
    obtain rfl := Outcome.token.inj htok
    obtain ⟨⟨rfl, rfl⟩ | ⟨rfl, rfl⟩, -⟩ := hopens <;> exact .lexeme Kind.noConfusion rfl
  | quotedIdentifier =>
    obtain rfl := hopens
    obtain ⟨b, ht, -, -, rfl⟩ := readQuotedIdentifier_eq_token_iff.1 h
    obtain rfl : u = b ++ ['"'] := List.append_cancel_right (ht.trans (List.append_cons _ _ _))
    exact .lexeme Kind.noConfusion (Text.lowerLead_of_not_mem (by decide) _).symm
  | string =>
    obtain rfl := hopens
    have hread : readString .plain (u ++ r) = ⟨.token tok, r⟩ := h
    refine readFrom_of_readString [] (fun s => ?_) hread
    exact Text.lowerLead_of_not_mem (by decide) s
  | escapeString =>
    obtain ⟨u, rfl, hread⟩ := exists_cons_of_read_drop (suffix_readString _) h hopens.2
    refine readFrom_of_readString [c] (fun s => ?_) hread
    rcases hopens.1 with rfl | rfl <;> rfl
  | parameter =>
    obtain ⟨rfl, -⟩ := hopens
    obtain ⟨ds, ht, -, -, rfl⟩ := readParameter_eq_token_iff.1 h
    obtain rfl := List.append_cancel_right ht
    exact .lexeme Kind.noConfusion (Text.lowerLead_of_not_mem (by decide) _).symm
  | dollarQuoted =>
    obtain ⟨rfl, -⟩ := hopens
    obtain ⟨name, b, -, ht, -, rfl⟩ := DollarQuotation.rule_eq_token_iff.1 h
    obtain rfl : u = name ++ '$' :: (b ++ ('$' :: name ++ ['$'])) :=
      List.append_cancel_right (ht.trans (by simp))
    refine .lexeme Kind.noConfusion ?_
    rw [Text.lowerLead_of_not_mem (by decide)]
    simp [lexeme]
  | lineComment =>
    obtain ⟨u, rfl, hread⟩ := exists_cons_of_read_drop Comment.suffix_readLine h hopens.2
    obtain ⟨rfl, -⟩ := hopens
    exact readFrom_of_readLine hread
  | blockComment =>
    obtain ⟨u, rfl, hread⟩ := exists_cons_of_read_drop Comment.suffix_readBlock h hopens.2
    obtain ⟨rfl, -⟩ := hopens
    exact readFrom_of_readBlock hread
  | operator =>
    obtain ⟨w, ht, -, -, -, -, -, rfl⟩ := Operator.rule_eq_token_iff.1 h
    obtain rfl := List.append_cancel_right ht
    have hc := ne_of_all (l := ['b', 'B', 'x', 'X', 'e', 'E', 'u', 'U']) (by decide) hopens.1
    exact .lexeme Kind.noConfusion (Text.lowerLead_of_not_mem (fun hmem => hc _ hmem rfl) _).symm
  | number =>
    obtain ⟨m, e, -, -, ht, -, rfl⟩ := (Number.rule_eq_token_iff hopens).1 h
    have hslice : c :: u = m ++ e :=
      List.append_cancel_right (ht.trans (List.append_assoc _ _ _).symm)
    have hc : c ∉ ['b', 'B', 'x', 'X', 'e', 'E', 'u', 'U'] := by
      rcases hopens with hdigit | ⟨rfl, -⟩
      · exact fun hmem => ne_of_all (p := Char.isDigit) (by decide) hdigit _ hmem rfl
      · decide
    refine .lexeme Kind.noConfusion ?_
    rw [Text.lowerLead_of_not_mem hc, hslice]
    rfl
  | bitString form =>
    have hnext : (u ++ r).head? = some '\'' := by cases form <;> exact hopens.2
    obtain ⟨u, rfl, hread⟩ := exists_cons_of_read_drop (suffix_readBitString form) h hnext
    exact readFrom_of_readBitString hopens hread
  | unicodeLead => exact readFrom_of_readUnicode hopens.1 h
  | word =>
    obtain ⟨w, ht, hw, -, rfl⟩ := readWord_eq_token_iff.1 h
    obtain rfl := List.append_cancel_right ht
    refine .lexeme (wordKind_ne rfl _) ?_
    rw [Text.lowerLead_of_head fun d hd => ?_]
    · rfl
    · have hd := hw d (List.mem_of_mem_head? hd)
      exact ⟨Text.ne_of_true_of_false hd (by decide), Text.ne_of_true_of_false hd (by decide)⟩

end Token

/-! ## The parts of a statement -/

/-- A part of a text: the characters from the position `start` up to the position `stop`. -/
structure Span where
  start : Nat
  stop : Nat
  deriving DecidableEq, Repr

namespace Span

/-- The characters of a part of the text `t`. -/
def text (s : Span) (t : Text) : Text := (t.drop s.start).take (s.stop - s.start)

/-- The characters behind a part of the text `t`. -/
def behind (s : Span) (t : Text) : Text := t.drop s.stop

end Span

/-- The part of the statement that a piece is, if it begins at `start`. -/
def Piece.span (start : Nat) (p : Piece) : Span := ⟨start, start + p.slice.length⟩

/-- Whether a token was made of a piece. -/
def Piece.isToken (p : Piece) : Bool := p.outcome.token?.isSome

/-- The parts of a statement that its tokens were read from. -/
def tokenSpans (ks : Keywords) (t : Text) : List Span :=
  ((placed 0 (pieces ks t)).filter fun q => q.2.isToken).map fun q => q.2.span q.1

theorem le_of_mem_placed {start : Nat} {ps : List Piece} {q : Nat × Piece}
    (hq : q ∈ placed start ps) : start ≤ q.1 := by
  induction ps generalizing start with
  | nil => cases hq
  | cons p ps ih =>
    rcases List.mem_cons.1 hq with rfl | hq
    · exact Nat.le_refl _
    · exact (Nat.le_add_right _ _).trans (ih hq)

/-- Pieces lie behind each other. -/
theorem pairwise_placed (start : Nat) (ps : List Piece) :
    (placed start ps).Pairwise fun a b => (a.2.span a.1).stop ≤ (b.2.span b.1).start := by
  induction ps generalizing start with
  | nil => exact .nil
  | cons p ps ih => exact .cons (fun q hq => le_of_mem_placed hq) (ih _)

theorem pairwise_stop_le_start_tokenSpans (ks : Keywords) (t : Text) :
    (tokenSpans ks t).Pairwise fun a b => a.stop ≤ b.start :=
  List.pairwise_map.2 ((pairwise_placed 0 (pieces ks t)).filter _)

theorem bounds_of_mem_tokenSpans {s : Span} (hs : s ∈ tokenSpans ks t) :
    s.start < s.stop ∧ s.stop ≤ t.length := by
  obtain ⟨q, hq, rfl⟩ := List.mem_map.1 hs
  have hstands : q.2.StandsIn t q.1 := standsIn_of_mem_placed [] (List.mem_of_mem_filter hq)
  have hlen := List.length_pos_iff.2 hstands.slice_ne_nil
  exact ⟨Nat.lt_add_of_pos_right hlen, hstands.stop_le⟩

/-- The tokens of what follows `before`, and the pieces that they were read from. -/
theorem forall₂_readFrom_placed (ks : Keywords) (before t : Text) :
    List.Forall₂
      (fun tok q => tok.ReadFrom ((q.2.span q.1).text (before ++ t))
        ((q.2.span q.1).behind (before ++ t)))
      (scan ks t) ((placed before.length (pieces ks t)).filter fun q => q.2.isToken) := by
  induction t using cut_induction ks generalizing before with
  | nil => simp [placed]
  | cons c u r out hstep ih =>
    have htail : List.Forall₂
        (fun tok q => tok.ReadFrom ((q.2.span q.1).text (before ++ c :: (u ++ r)))
          ((q.2.span q.1).behind (before ++ c :: (u ++ r))))
        ((if out.isTerminator then [] else pieces ks r).filterMap fun p => p.outcome.token?)
        ((placed (before.length + (c :: u).length)
          (if out.isTerminator then [] else pieces ks r)).filter fun q => q.2.isToken) := by
      cases hterm : out.isTerminator with
      | true => exact .nil
      | false => simpa [scan] using ih hterm (before ++ c :: u)
    rw [scan, pieces_of_step hstep, placed]
    cases out with
    | token tok =>
      have hslice : (Piece.span before.length ⟨c :: u, .token tok⟩).text (before ++ c :: (u ++ r)) =
          c :: u := by
        simp [Piece.span, Span.text]
      have hbehind : (Piece.span before.length ⟨c :: u, .token tok⟩).behind
          (before ++ c :: (u ++ r)) = r := by
        simp [Piece.span, Span.behind]
      refine List.Forall₂.cons ?_ htail
      rw [hslice, hbehind]
      exact Token.readFrom_of_step hstep
    | blank | dropped f => exact htail

namespace Token

/-- The text of a token is absent exactly for the single punctuation characters. -/
theorem Lexical.text?_eq_none_iff (h : tok.Lexical ks) :
    tok.text? = none ↔ tok.kind.isBare = true := by
  cases h with
  | bare hk => simpa using hk
  | @word c w =>
    rcases Kind.isWord_iff.1 (isWord_wordKind ks (c :: w)) with hk | hk <;> simp [hk, Kind.isBare]
  | bitString form => cases form <;> simp [BitForm.kind, Kind.isBare]
  | _ => simp [Kind.isBare]

theorem Lexical.kind_ne_unknown (h : tok.Lexical ks) : tok.kind ≠ .unknown := by
  cases h with
  | bare hk =>
    rintro (rfl : _ = Kind.unknown)
    cases hk
  | word => exact wordKind_ne rfl _
  | bitString form => cases form <;> simp [BitForm.kind]
  | _ => simp

end Token

/-- Tokens are faithful, ordered and disjoint parts of the statement: the characters of a part are
those of its token, up to the letter that marks a literal and up to the spaces of a comment. A token
has a text unless it is a single punctuation character, and its kind is known. -/
theorem tokens_stand_in_the_text (ks : Keywords) (t : Text) :
    (∀ s ∈ tokenSpans ks t, s.start < s.stop ∧ s.stop ≤ t.length) ∧
      (tokenSpans ks t).Pairwise (fun a b => a.stop ≤ b.start) ∧
      List.Forall₂ (fun tok s => tok.ReadFrom (s.text t) (s.behind t)) (scan ks t)
        (tokenSpans ks t) ∧
      ∀ tok ∈ scan ks t, (tok.text? = none ↔ tok.kind.isBare = true) ∧ tok.kind ≠ .unknown := by
  refine ⟨fun s => bounds_of_mem_tokenSpans, pairwise_stop_le_start_tokenSpans ks t, ?_, ?_⟩
  · exact List.forall₂_map_right_iff.2 (forall₂_readFrom_placed ks [] t)
  · intro tok htok
    have hlex := lexical_of_mem_scan tok htok
    exact ⟨hlex.text?_eq_none_iff, hlex.kind_ne_unknown⟩

end CompactSql
