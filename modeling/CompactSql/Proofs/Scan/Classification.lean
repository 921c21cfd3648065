import CompactSql.Compact
import CompactSql.Proofs.Scan.Tokens

/-!
# What a keyword set decides

A keyword set has a say in one place only: it tells whether a word is a keyword. So a scan with
another keyword set makes the same cuts, reports the same faults and finds the same tokens, with the
words among them classified anew.

## Main definitions

* `Token.classify` — a token with its kind chosen anew, if it is a word.
* `Outcome.classify`, `Piece.classify` — the same for what a step makes.

## Main statements

* `pieces_eq_map_classify` — the pieces of a statement with another keyword set.
* `scan_eq_map_classify`, `faults_eq_faults` — its tokens and its faults.
-/

namespace CompactSql

/-! ## Classifying tokens -/

/-- The token with its kind chosen anew by a keyword set, if it is a word. -/
def Token.classify (ks : Keywords) (t : Token) : Token :=
  if t.kind.isWord then { t with kind := wordKind ks t.lexeme } else t

/-- What a step made, classified anew. -/
def Outcome.classify (ks : Keywords) : Outcome → Outcome
  | token t => token (t.classify ks)
  | out => out

/-- A piece, classified anew. -/
def Piece.classify (ks : Keywords) (p : Piece) : Piece := ⟨p.slice, p.outcome.classify ks⟩

variable {ks : Keywords} {tok : Token}

namespace Token

theorem classify_of_not_isWord (h : tok.kind.isWord = false) : tok.classify ks = tok := by
  simp [classify, h]

@[simp] theorem text?_classify (ks : Keywords) (t : Token) : (t.classify ks).text? = t.text? := by
  unfold classify
  split <;> rfl

@[simp] theorem isWord_kind_classify (ks : Keywords) (t : Token) :
    (t.classify ks).kind.isWord = t.kind.isWord := by
  unfold classify
  split
  · rename_i h
    rw [isWord_wordKind, h]
  · rfl

@[simp] theorem classify_word (ks ks' : Keywords) (w : Text) :
    (ofText (wordKind ks' w) w).classify ks = ofText (wordKind ks w) w := by
  rw [classify, kind_ofText, isWord_wordKind, if_pos rfl]
  rfl

/-- A token of the language is classified already. -/
theorem Lexical.classify_eq (h : tok.Lexical ks) : tok.classify ks = tok := by
  cases hk : tok.kind.isWord with
  | true =>
    obtain ⟨c, w, rfl, -, -⟩ := h.exists_of_isWord hk
    exact classify_word ks ks (c :: w)
  | false => exact classify_of_not_isWord hk

/-- Two classifications of a token differ in nothing but whether a word is a keyword. -/
theorem kind_classify_cases (ks : Keywords) (t : Token) :
    (t.classify ks).kind = t.kind ∨
      t.kind.isWord = true ∧ (t.classify ks).kind.isWord = true := by
  cases hk : t.kind.isWord with
  | true => exact .inr ⟨rfl, by rw [isWord_kind_classify, hk]⟩
  | false => exact .inl (by rw [classify_of_not_isWord hk])

end Token

@[simp] theorem Outcome.isTerminator_classify (ks : Keywords) (out : Outcome) :
    (out.classify ks).isTerminator = out.isTerminator := by
  cases out with
  | token t =>
    rcases t.kind_classify_cases ks with hk | ⟨hk, hk'⟩
    · simp only [classify, isTerminator, hk]
    · cases h : t.kind <;> cases h' : (t.classify ks).kind <;>
        simp_all [classify, isTerminator, Kind.isWord]
  | _ => rfl

/-! ## Scanning with another keyword set -/

/-- The keyword set is asked about words only. -/
theorem Form.rule_eq_rule {f : Form} (hf : f ≠ word) (ks ks' : Keywords) (c : Char) (t : Text) :
    f.rule ks c t = f.rule ks' c t := by
  cases f <;> first | rfl | exact absurd rfl hf

/-- A step with another keyword set takes the same characters. -/
theorem step_eq_classify (ks ks' : Keywords) (c : Char) (t : Text) :
    step ks' c t = ⟨(step ks c t).outcome.classify ks', (step ks c t).rest⟩ := by
  by_cases hf : Form.ofChars c t.head? = .word
  · simp only [step_eq_rule, hf, Form.rule, readWord, Reading.ofText, Outcome.classify,
      Token.classify_word]
  · have hstep : step ks c t = step ks' c t := by
      rw [step_eq_rule, step_eq_rule, Form.rule_eq_rule hf]
    rw [hstep]
    cases hread : step ks' c t with
    | mk out r =>
      cases out with
      | token tok => simp only [Outcome.classify, (Token.lexical_of_step hread).classify_eq]
      | _ => rfl

theorem pieces_eq_map_classify (ks ks' : Keywords) (t : Text) :
    pieces ks' t = (pieces ks t).map (Piece.classify ks') := by
  have h : pieces ks' (t.map id) =
      (pieces ks t).map fun p => ⟨p.slice.map id, p.outcome.classify ks'⟩ :=
    pieces_map (Outcome.isTerminator_classify ks') fun c _ u => by
      simpa using step_eq_classify ks ks' c u
  simp only [List.map_id] at h
  exact h

/-- The tokens of a statement with another keyword set are the same, classified anew. -/
theorem scan_eq_map_classify (ks ks' : Keywords) (t : Text) :
    scan ks' t = (scan ks t).map (Token.classify ks') := by
  refine scan_map (f := id) (g := Outcome.classify ks') (fun out => ?_) ?_
  · cases out <;> rfl
  · simp only [List.map_id]
    exact pieces_eq_map_classify ks ks' t

theorem faultsFrom_map_classify (ks : Keywords) (start : Nat) (ps : List Piece) :
    faultsFrom start (ps.map (Piece.classify ks)) = faultsFrom start ps := by
  induction ps generalizing start with
  | nil => rfl
  | cons p ps ih =>
    obtain ⟨slice, out⟩ := p
    cases out <;> simp [faultsFrom, Piece.classify, Outcome.classify, ih]

/-- The keyword set has no part in what a scan leaves out. -/
theorem faults_eq_faults (ks ks' : Keywords) (t : Text) : faults ks' t = faults ks t := by
  rw [faults, pieces_eq_map_classify ks ks', faultsFrom_map_classify, faults]

end CompactSql
