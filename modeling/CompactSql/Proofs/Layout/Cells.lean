import CompactSql.Layout
import CompactSql.Proofs.Lexeme.Grammar
import CompactSql.Proofs.Text.Lowercase
import Mathlib.Data.List.Chain

/-!
# The compact form, token by token

A compact form is a row of cells, each a token with a space before it or without. Which tokens have
a cell, and whether it begins with a space, is all that the rules of spacing decide.

## Main definitions

* `Cell`, `Cell.text` — a token with or without a space before it, and how it is written.
* `cells` — the cells of a statement.
* `Cell.Behind` — the spacing of a cell behind another one.
* `Kind.begins` — the characters with which the tokens of a kind begin.
* `Token.lowered` — a token with its text in lowercase, if it is a word.

## Main statements

* `flatten_segments` — a compact form is the text of its cells.
* `isChain_behind_cells` — every cell stands behind the one before it.
* `Token.Lexical.written_eq` — a token is written as the lexeme of a token of the language.
* `Token.Lexical.exists_written` — what is written for a token begins as its kind does.
-/

namespace CompactSql

variable {ks : Keywords} {comments semicolon : Bool} {prev : Kind} {tok : Token} {ts : List Token}

/-! ## Cells -/

/-- A token as it stands in a compact form. -/
structure Cell where
  /-- Whether there is a space before it. -/
  spaced : Bool
  token : Token
  deriving DecidableEq, Repr

namespace Cell

/-- The characters of a cell. -/
def text (c : Cell) : Text := (if c.spaced then [' '] else []) ++ c.token.written

@[simp] theorem text_spaced (t : Token) : text ⟨true, t⟩ = ' ' :: t.written := rfl

@[simp] theorem text_unspaced (t : Token) : text ⟨false, t⟩ = t.written := rfl

/-- Whether the spacing of `b` is that of a token behind `a`, or behind a comment that has no cell
of its own. -/
def Behind (a b : Cell) : Prop :=
  b.spaced = spaceBetween a.token.kind b.token.kind ∨
    b.spaced = spaceBetween .comment b.token.kind

end Cell

/-- The cells of the tokens of a statement, of which the first follows one of the kind `prev`. -/
def cells (comments semicolon : Bool) (prev : Kind) : List Token → List Cell
  | [] => []
  | t :: ts =>
    if t.kind = .comment && !comments then cells comments semicolon .comment ts
    else if t.kind = .semicolon && !semicolon then cells comments semicolon prev ts
    else ⟨spaceBetween prev t.kind, t⟩ :: cells comments semicolon t.kind ts

/-- A compact form is the text of its cells. -/
theorem flatten_segments (comments semicolon : Bool) (prev : Kind) (ts : List Token) :
    (segments comments semicolon prev ts).flatten =
      (cells comments semicolon prev ts).flatMap Cell.text := by
  fun_induction segments comments semicolon prev ts with
  | case1 => rfl
  | case2 prev t ts h ih => rw [cells, if_pos h, List.flatten_cons, ih, List.nil_append]
  | case3 prev t ts h h' ih => rw [cells, if_neg h, if_pos h', ih]
  | case4 prev t ts h h' ih =>
    rw [cells, if_neg h, if_neg h', List.flatten_cons, List.flatMap_cons, ih]
    rfl

/-- The tokens that have a cell. -/
theorem map_token_cells (comments semicolon : Bool) (prev : Kind) (ts : List Token) :
    (cells comments semicolon prev ts).map Cell.token =
      ts.filter fun t =>
        !(t.kind = .comment && !comments) && !(t.kind = .semicolon && !semicolon) := by
  fun_induction cells comments semicolon prev ts with
  | case1 => rfl
  | case2 prev t ts h ih => rw [ih, List.filter_cons_of_neg (by simp [h])]
  | case3 prev t ts h h' ih => rw [ih, List.filter_cons_of_neg (by simp [h, h'])]
  | case4 prev t ts h h' ih =>
    rw [List.map_cons, ih, List.filter_cons_of_pos (by simp [h, h'])]

/-- Without comments and with the semicolon, every token has a cell. -/
theorem map_token_cells_of_live (prev : Kind) (h : ∀ t ∈ ts, t.kind ≠ .comment) :
    (cells false true prev ts).map Cell.token = ts := by
  rw [map_token_cells, List.filter_eq_self]
  intro t ht
  simp [h t ht]

theorem cells_append_cons (prev : Kind) (pre : List Token) (t : Token) (ts : List Token) :
    ∃ s, cells true true prev (pre ++ t :: ts) =
      cells true true prev pre ++ ⟨s, t⟩ :: cells true true t.kind ts := by
  induction pre generalizing prev with
  | nil => exact ⟨spaceBetween prev t.kind, by simp [cells]⟩
  | cons u pre ih =>
    obtain ⟨s, hs⟩ := ih u.kind
    exact ⟨s, by simp [cells, hs]⟩

/-- The first cell stands behind a token of the kind `prev`, or behind a comment. -/
theorem spaced_of_mem_head_cells {c : Cell} (hc : c ∈ (cells comments semicolon prev ts).head?) :
    c.spaced = spaceBetween prev c.token.kind ∨ c.spaced = spaceBetween .comment c.token.kind := by
  fun_induction cells comments semicolon prev ts with
  | case1 => simp at hc
  | case2 prev t ts h ih => exact .inr ((ih hc).elim id id)
  | case3 prev t ts h h' ih => exact ih hc
  | case4 prev t ts h h' ih =>
    obtain rfl := Option.some.inj hc
    exact .inl rfl

theorem isChain_behind_cells (comments semicolon : Bool) (prev : Kind) (ts : List Token) :
    (cells comments semicolon prev ts).IsChain Cell.Behind := by
  fun_induction cells comments semicolon prev ts with
  | case1 => exact .nil
  | case2 prev t ts h ih => exact ih
  | case3 prev t ts h h' ih => exact ih
  | case4 prev t ts h h' ih => exact ih.cons fun c hc => spaced_of_mem_head_cells hc

/-! ## Words in lowercase -/

namespace Token

/-- The token with its text in lowercase, if it is a word. -/
def lowered (t : Token) : Token :=
  { t with text? := if t.kind.isWord then t.text?.map lowercase else t.text? }

@[simp] theorem kind_lowered (t : Token) : t.lowered.kind = t.kind := rfl

theorem lowered_of_not_isWord (h : tok.kind.isWord = false) : tok.lowered = tok := by
  simp [lowered, h]

/-- Whether the token is not a word that a `İ` is part of: its lowercase form is two characters, and
the second goes on with no word. -/
def Lowerable (t : Token) : Prop := t.kind.isWord = true → 'İ' ∉ t.lexeme

@[simp] theorem wordKind_lowercase (ks : Keywords) (w : Text) :
    wordKind ks (lowercase w) = wordKind ks w := by rw [wordKind, Keywords.contains_lowercase]; rfl

theorem lowered_word (ks : Keywords) (w : Text) :
    (ofText (wordKind ks w) w).lowered =
      ofText (wordKind ks (lowercase w)) (lowercase w) := by
  rw [wordKind_lowercase, lowered, kind_ofText, isWord_wordKind, if_pos rfl]
  rfl

theorem written_word (ks : Keywords) (w : Text) :
    (ofText (wordKind ks w) w).written = lowercase w := by
  unfold wordKind
  split <;> rfl

theorem Lexical.lowered (h : tok.Lexical ks) (hI : tok.Lowerable) : tok.lowered.Lexical ks := by
  cases h with
  | @word c w hc hw =>
    obtain ⟨d, v, hv, hd, hdv⟩ := exists_lowercase_word hc hw (hI (isWord_wordKind ks _))
    rw [lowered_word, hv]
    exact .word hd hdv
  | @bare k hk =>
    have hword : k.isWord = false := by cases k <;> grind [Kind.isBare, Kind.isWord]
    rw [lowered_of_not_isWord (by simpa using hword)]
    exact .bare hk
  | bitString form hds =>
    rw [lowered_of_not_isWord (by cases form <;> rfl)]
    exact .bitString form hds
  | _ =>
    rw [lowered_of_not_isWord rfl]
    constructor <;> assumption

/-- What is written for a token is the lexeme of the token in lowercase. -/
theorem Lexical.written_eq (h : tok.Lexical ks) (hk : tok.kind ≠ .comment) :
    tok.written = tok.lowered.lexeme := by
  cases h with
  | word => rw [lowered_word, written_word]; rfl
  | @bare k hk => cases k <;> simp_all [Kind.isBare] <;> rfl
  | bitString form => cases form <;> rfl
  | lineComment | blockComment => exact absurd rfl hk
  | _ => rfl

end Token

@[simp] theorem written_lowered (t : Token) : t.lowered.written = t.written := by
  obtain ⟨k, text?⟩ := t
  cases k <;> cases text? <;> simp [Token.lowered, Kind.isWord, Token.written, Token.lexeme]

/-- A compact form is the same with its words in lowercase. -/
theorem flatMap_text_cells_lowered (prev : Kind) (ts : List Token) :
    (cells false true prev (ts.map Token.lowered)).flatMap Cell.text =
      (cells false true prev ts).flatMap Cell.text := by
  induction ts generalizing prev with
  | nil => rfl
  | cons t ts ih =>
    by_cases hk : t.kind = .comment
    · simpa [cells, hk] using ih .comment
    · simpa [cells, hk, Cell.text] using ih t.kind

/-! ## The first character of a token -/

/-- Whether a token of the kind may be written with `c` as its first character. -/
def Kind.begins : Kind → Char → Bool
  | keyword, c | identifier, c => beginsWord c
  | quotedIdentifier, c => c ∈ ['"', 'u']
  | string, c => c ∈ ['\'', 'e', 'u', '$']
  | numeric, c => c.isDigit || c == '.'
  | parameter, c => c == '$'
  | binaryBitString, c => c == 'b'
  | hexBitString, c => c == 'x'
  | operator, c => Operator.isRunChar c
  | comment, c => c == '/'
  | k, c => k.mark?.any (·.head? == some c)

theorem begins_wordKind (ks : Keywords) (w : Text) (c : Char) :
    (wordKind ks w).begins c = beginsWord c := by
  unfold wordKind
  split <;> rfl

/-- The first character of a mantissa. -/
theorem Number.IsMantissa.exists_head {m : Text} (hm : Number.IsMantissa m) :
    ∃ c t, m = c :: t ∧ (c.isDigit = true ∨ c = '.') := by
  cases hm with
  | whole hd _ | decimal hd _ _ => exact ⟨_, _, rfl, .inl hd⟩
  | fraction _ _ => exact ⟨_, _, rfl, .inr rfl⟩

namespace Token

theorem Lexical.exists_lexeme (h : tok.Lexical ks) (hk : tok.kind ≠ .comment) :
    ∃ c t, tok.lexeme = c :: t ∧ tok.kind.begins c = true := by
  cases h with
  | @bare k hbare => cases k <;> first | exact ⟨_, _, rfl, rfl⟩ | cases hbare
  | word hc _ => exact ⟨_, _, rfl, (begins_wordKind ks _ _).trans hc⟩
  | quotedIdentifier hlead _ _ => rcases hlead with rfl | rfl <;> exact ⟨_, _, rfl, rfl⟩
  | string form | bitString form => cases form <;> exact ⟨_, _, rfl, rfl⟩
  | numeric hm _ =>
    obtain ⟨c, t, rfl, hc⟩ := hm.exists_head
    exact ⟨c, _, rfl, by simpa [Kind.begins] using hc⟩
  | operator hrun => exact ⟨_, _, rfl, (List.forall_mem_cons.1 hrun).1⟩
  | lineComment | blockComment => exact absurd rfl hk
  | _ => exact ⟨_, _, rfl, rfl⟩

theorem Lexical.exists_written (h : tok.Lexical ks) (hI : tok.Lowerable) :
    ∃ c t, tok.written = c :: t ∧ tok.kind.begins c = true := by
  by_cases hk : tok.kind = .comment
  · refine ⟨'/', '*' :: ' ' :: (tok.lexeme ++ [' ', '*', '/']), ?_, by rw [hk]; rfl⟩
    rw [written, hk]
    rfl
  · rw [h.written_eq hk]
    exact (h.lowered hI).exists_lexeme hk

end Token

end CompactSql
