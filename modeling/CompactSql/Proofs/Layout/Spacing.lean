import CompactSql.Proofs.Layout.Colons
import CompactSql.Proofs.Layout.Rescan

/-!
# Spaces that comments leave behind

A comment that is not written still decides the spacing of the token behind it. Whether it does so
in another way than the token before it would is visible in the compact form.

## Main definitions

* `IsPlain` — cells that are spaced as if there were no comments.
* `inert` — tokens whose comments leave no trace.

## Main statements

* `isPlain_cells_iff` — the cells of a statement are plain exactly if its comments are inert.
* `eq_of_flatMap_text_eq` — the text of cells tells how their tokens are spaced.
* `ink_flatMap_text` — the text of cells without its spaces is that of their tokens.
-/

namespace CompactSql

variable {ks : Keywords} {o : Options} {p : Bool} {prev : Kind} {a b c : Cell} {cs ds : List Cell}
  {tok : Token} {ts : List Token}

/-! ## Plain cells -/

/-- Whether each cell is spaced as a token behind the one before it, the first one as a token behind
one of the kind `prev`. -/
def IsPlain (prev : Kind) : List Cell → Prop
  | [] => True
  | c :: cs => c.spaced = spaceBetween prev c.token.kind ∧ IsPlain c.token.kind cs

/-- Plain cells are those of their tokens. -/
theorem isPlain_iff_cells_eq (h : ∀ c ∈ cs, c.token.kind ≠ .comment) :
    IsPlain prev cs ↔ cells false true prev (cs.map Cell.token) = cs := by
  induction cs generalizing prev with
  | nil => simp [IsPlain, cells]
  | cons c cs ih =>
    rw [List.forall_mem_cons] at h
    obtain ⟨s, t⟩ := c
    have hk : t.kind ≠ .comment := h.1
    simp [IsPlain, cells, ih h.2, hk, eq_comm]

theorem isPlain_colon_iff : IsPlain .colon cs ↔ IsPlain .doubleColon cs := by
  cases cs with
  | nil => rfl
  | cons c cs => rw [IsPlain, IsPlain, spaceBetween_colon]

theorem isPlain_colonCell_cons : IsPlain prev (colonCell :: cs) ↔ IsPlain .colon cs :=
  and_iff_right rfl

theorem isPlain_doubleColonCell_cons :
    IsPlain prev (doubleColonCell :: cs) ↔ IsPlain .doubleColon cs := and_iff_right rfl

/-- Joining colons keeps cells plain, and makes none plain. -/
theorem isPlain_joinColons_iff :
    IsPlain prev (joinColons p cs) ↔ IsPlain (if p then .colon else prev) cs := by
  fun_induction joinColons p cs generalizing prev with
  | case1 => exact isPlain_colonCell_cons
  | case2 => rfl
  | case3 cs ih => exact ih.trans isPlain_colonCell_cons.symm
  | case4 c cs h ih => exact and_congr_right' ih
  | case5 cs ih =>
    rw [isPlain_doubleColonCell_cons, ih, if_pos rfl, isPlain_colonCell_cons, isPlain_colon_iff]
    rfl
  | case6 cs h ih =>
    rw [isPlain_doubleColonCell_cons, ih, if_pos rfl, if_pos rfl, isPlain_doubleColonCell_cons,
      isPlain_colon_iff]
  | case7 c cs h h' ih =>
    rw [isPlain_colonCell_cons]
    exact and_congr_right' ih

/-! ## Inert comments -/

/-- Whether the comments among the tokens leave no trace when they are not written: each token
behind comments is spaced like one behind the last token before them. That one is of the kind
`shown`, and `hidden` says that comments stand behind it. -/
def inert (shown : Kind) (hidden : Bool) : List Token → Bool
  | [] => true
  | t :: ts =>
    if t.kind = .comment then inert shown true ts
    else (!hidden || spaceBetween .comment t.kind == spaceBetween shown t.kind) &&
      inert t.kind false ts

theorem isPlain_cells_iff (shown : Kind) (hidden : Bool) (ts : List Token) :
    IsPlain shown (cells false true (if hidden then .comment else shown) ts) ↔
      inert shown hidden ts = true := by
  induction ts generalizing shown hidden with
  | nil => simp [cells, IsPlain, inert]
  | cons t ts ih =>
    by_cases hk : t.kind = .comment
    · have htail := ih shown true
      simpa [cells, inert, hk] using htail
    · have htail := ih t.kind false
      cases hidden
      · simpa [cells, inert, hk, IsPlain] using htail
      · simpa [cells, inert, hk, IsPlain] using fun _ => htail

/-! ## Text and spaces -/

theorem begins_space : ∀ k ∈ Kind.all, k.begins ' ' = false := by decide

/-- No token is written with a space in front, so the first character tells whether there is one
before it. -/
theorem spaced_eq_of_text_append_eq {s s' : Bool} {r r' : Text} (hread : Cell.Readable ks ⟨s, tok⟩)
    (h : Cell.text ⟨s, tok⟩ ++ r = Cell.text ⟨s', tok⟩ ++ r') : s = s' := by
  obtain ⟨e, w, hwritten, he⟩ := hread.lexical.exists_written hread.lowerable
  have hspace : e ≠ ' ' := by
    rintro rfl
    exact Bool.noConfusion ((begins_space _ (Kind.mem_all _)).symm.trans he)
  have hhead : ∀ (s : Bool) (r : Text),
      (Cell.text ⟨s, tok⟩ ++ r).head? = some (if s then ' ' else e) := by
    intro s r
    cases s <;> simp [hwritten]
  have hfirst := congrArg List.head? h
  rw [hhead, hhead, Option.some.injEq] at hfirst
  cases s <;> cases s'
  · rfl
  · exact absurd hfirst hspace
  · exact absurd hfirst.symm hspace
  · rfl

/-- The text of cells tells how their tokens are spaced. -/
theorem eq_of_flatMap_text_eq (hread : ∀ c ∈ cs, c.Readable ks)
    (htokens : cs.map Cell.token = ds.map Cell.token)
    (htext : cs.flatMap Cell.text = ds.flatMap Cell.text) : cs = ds := by
  induction cs generalizing ds with
  | nil => simpa using htokens.symm
  | cons c cs ih =>
    cases ds with
    | nil => cases htokens
    | cons d ds =>
      obtain ⟨s, t⟩ := c
      obtain ⟨s', t'⟩ := d
      obtain ⟨rfl, hrest⟩ : t = t' ∧ cs.map Cell.token = ds.map Cell.token := by
        simpa using htokens
      rw [List.forall_mem_cons] at hread
      rw [List.flatMap_cons, List.flatMap_cons] at htext
      obtain rfl := spaced_eq_of_text_append_eq hread.1 htext
      rw [ih hread.2 hrest (List.append_cancel_left htext)]

/-- The characters of cells that are no spaces are those of their tokens. -/
theorem ink_flatMap_text (cs : List Cell) :
    Comment.ink (cs.flatMap Cell.text) =
      (cs.map Cell.token).flatMap fun t => Comment.ink t.written := by
  induction cs with
  | nil => rfl
  | cons c cs ih =>
    obtain ⟨s, t⟩ := c
    cases s <;> simp [Cell.text, ih]

theorem ink_written_of_operator (h : tok.Lexical ks) (hk : tok.kind = .operator) :
    Comment.ink tok.written ≠ [] := by
  obtain ⟨d, w, rfl, hrun, -⟩ := h.exists_of_operator hk
  have hd : isSpace d = false := eq_false_of_isRunChar (by decide) (hrun d List.mem_cons_self)
  simp [Comment.ink, Token.written, Token.lexeme, hd]

end CompactSql
