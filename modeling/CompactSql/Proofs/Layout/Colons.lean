import CompactSql.Proofs.Layout.ReadBack

/-!
# Colons in a row

Colons are always written without a space, and a scan takes them in pairs. So a row of cells may be
found again as another one, with the same text and with other colons, which are spaced alike.

## Main definitions

* `Cell.Near` — a cell whose spacing is that of a compact form, with no dot that changes it.
* `Cell.Regular` — a cell of colons, if it is one, without a space.
* `joinColons` — the cells that a scan finds.

## Main statements

* `flatMap_text_joinColons` — joining colons does not change the text.
* `isRow_joinColons` — the cells that result are a row.

`regular_of_mem_cells` and `isChain_near` say that the cells of a statement are of this sort.
-/

namespace CompactSql

variable {ks : Keywords} {p : Bool} {a b c : Cell} {cs : List Cell}

/-! ## Dots and colons -/

/-- Whether a token of the kind `k` written right before one of the kind `next` makes a new token
with it, because of a dot. -/
def Kind.dotsInto : Kind → Kind → Bool
  | dot, dot | dot, numeric | numeric, dot => true
  | _, _ => false

/-- A token runs into the next one because of a dot, or because of two colons. -/
theorem runsInto_eq_false {prev k : Kind} (hdots : prev.dotsInto k = false)
    (hcolon : prev = .colon → k ≠ .colon ∧ k ≠ .doubleColon) : prev.runsInto k = false := by
  fun_cases Kind.runsInto prev k <;> grind [Kind.dotsInto]

/-- A colon and two colons are followed alike. -/
theorem spaceBetween_colon (k : Kind) : spaceBetween .colon k = spaceBetween .doubleColon k := by
  cases k <;> rfl

/-- The cell of a colon. -/
def colonCell : Cell := ⟨false, .bare .colon⟩

/-- The cell of two colons. -/
def doubleColonCell : Cell := ⟨false, .ofText .doubleColon [':', ':']⟩

@[simp] theorem text_colonCell : colonCell.text = [':'] := rfl

@[simp] theorem text_doubleColonCell : doubleColonCell.text = [':', ':'] := rfl

namespace Cell

/-- Whether `b` is spaced behind `a` as in a compact form, and no dot makes one token of both. -/
def Near (a b : Cell) : Prop :=
  Behind a b ∧ a.token.kind.dotsInto b.token.kind = false

/-- Whether a cell of colons is one of the two that occur in compact forms. -/
def Regular (c : Cell) : Prop :=
  (c.token.kind = .colon → c = colonCell) ∧ (c.token.kind = .doubleColon → c = doubleColonCell)

theorem behind_colonCell (a : Cell) : Behind a colonCell := .inr rfl

theorem behind_doubleColonCell (a : Cell) : Behind a doubleColonCell := .inr rfl

theorem behind_colonCell_iff : Behind colonCell b ↔ Behind doubleColonCell b := by
  have hspace := spaceBetween_colon b.token.kind
  exact or_congr_left (by simp [colonCell, doubleColonCell, hspace])

theorem near_colonCell_iff : Near colonCell b ↔ Near doubleColonCell b := by
  refine and_congr behind_colonCell_iff (iff_of_true ?_ ?_) <;> cases b.token.kind <;> rfl

end Cell

/-- Cells of colons have no space. -/
theorem regular_of_mem_cells {comments semicolon : Bool} (hlex : ∀ t ∈ ts, t.Lexical ks) :
    ∀ c ∈ cells comments semicolon prev ts, c.Regular := by
  fun_induction cells comments semicolon prev ts with
  | case1 => exact fun c hc => absurd hc List.not_mem_nil
  | case2 prev t ts h ih | case3 prev t ts h h' ih => exact ih (List.forall_mem_cons.1 hlex).2
  | case4 prev t ts h h' ih =>
    rw [List.forall_mem_cons] at hlex ⊢
    refine ⟨⟨?_, ?_⟩, ih hlex.2⟩
    · intro (hk : t.kind = .colon)
      have ht := hlex.1.eq_of_mark? (m := [':']) (by rw [hk]; rfl)
      rw [hk, ht, hk]
      rfl
    · intro (hk : t.kind = .doubleColon)
      have ht := hlex.1.eq_of_mark? (m := [':', ':']) (by rw [hk]; rfl)
      rw [hk, ht, hk]
      rfl

/-- The cells of a compact form are near each other if no dots meet. -/
theorem isChain_near (hbehind : cs.IsChain Cell.Behind)
    (hdots : (cs.map Cell.token).IsChain fun a b => a.kind.dotsInto b.kind = false) :
    cs.IsChain Cell.Near := by
  rw [List.isChain_map] at hdots
  rw [List.isChain_iff_getElem] at hbehind hdots ⊢
  exact fun i hi => ⟨hbehind i hi, hdots i hi⟩

/-! ## Joining colons -/

/-- The cells that a scan finds in the text of the given ones, before which a colon stands if it is
`pending`. -/
def joinColons : Bool → List Cell → List Cell
  | true, [] => [colonCell]
  | false, [] => []
  | false, c :: cs => if c = colonCell then joinColons true cs else c :: joinColons false cs
  | true, c :: cs =>
    if c = colonCell then doubleColonCell :: joinColons false cs
    else if c = doubleColonCell then doubleColonCell :: joinColons true cs
    else colonCell :: c :: joinColons false cs

/-- The cells with the colon that is pending. -/
def withPending : Bool → List Cell → List Cell
  | true, cs => colonCell :: cs
  | false, cs => cs

/-- Joining colons does not change the text. -/
theorem flatMap_text_joinColons (p : Bool) (cs : List Cell) :
    (joinColons p cs).flatMap Cell.text = (withPending p cs).flatMap Cell.text := by
  fun_induction joinColons p cs with
  | case1 | case2 => rfl
  | case3 cs ih => exact ih
  | case4 c cs h ih | case5 cs ih | case7 c cs h h' ih => simpa [withPending] using ih
  | case6 cs h ih =>
    rw [List.flatMap_cons, ih]
    simp [withPending]

theorem mem_joinColons (h : c ∈ joinColons p cs) :
    c = colonCell ∨ c = doubleColonCell ∨ c ∈ cs := by
  fun_induction joinColons p cs <;> grind

/-- What comes first is a colon, or the first of the cells. -/
theorem mem_head_joinColons (h : c ∈ (joinColons p cs).head?) :
    c = colonCell ∨ c = doubleColonCell ∨ p = false ∧ c ∈ cs.head? := by
  fun_induction joinColons p cs with
  | case3 cs ih => exact (ih h).imp_right fun h' => .inl (h'.resolve_right nofun)
  | _ => grind

theorem joinColons_eq_nil_iff : joinColons p cs = [] ↔ p = false ∧ cs = [] := by
  fun_induction joinColons p cs <;> grind

/-- What comes last is a colon, or the last of the cells. -/
theorem getLast_joinColons (h : c ∈ (joinColons p cs).getLast?) :
    c = colonCell ∨ c = doubleColonCell ∨ c ∈ cs.getLast? := by
  fun_induction joinColons p cs <;>
    grind [List.getLast?_cons, joinColons_eq_nil_iff]

theorem joinColons_concat (hcolon : c ≠ colonCell) (hdouble : c ≠ doubleColonCell) :
    joinColons p (cs ++ [c]) = joinColons p cs ++ [c] := by
  fun_induction joinColons p cs <;> grind [joinColons]

/-- Joining colons does not change whether the last cell is an operator. -/
theorem getLast_joinColons_ne_operator_iff :
    (∀ c ∈ (joinColons p cs).getLast?, c.token.kind ≠ .operator) ↔
      ∀ c ∈ cs.getLast?, c.token.kind ≠ .operator := by
  constructor
  · intro hlast c hc hk
    obtain ⟨init, rfl⟩ := List.getLast?_eq_some_iff.1 hc
    have hjoin : joinColons p (init ++ [c]) = joinColons p init ++ [c] := by
      apply joinColons_concat
      · rintro rfl
        cases hk
      · rintro rfl
        cases hk
    apply hlast c ?_ hk
    simp [hjoin]
  · intro hlast c hc
    rcases getLast_joinColons hc with rfl | rfl | hc
    · exact nofun
    · exact nofun
    · exact hlast c hc

/-- Whether `b` is spaced behind `a` as in a compact form, and neither runs into the other. -/
def Cell.Parted (a b : Cell) : Prop :=
  Behind a b ∧ a.token.kind.runsInto b.token.kind = false

theorem parted_of_mem_head_joinColons (ha : a.token.kind ≠ .colon)
    (hnear : p = false → ∀ d ∈ cs.head?, a.Near d) : ∀ d ∈ (joinColons p cs).head?, a.Parted d := by
  have hcolon : ∀ k, a.token.kind.dotsInto k = false → a.token.kind.runsInto k = false :=
    fun k hk => runsInto_eq_false hk fun h => absurd h ha
  intro d hd
  rcases mem_head_joinColons hd with rfl | rfl | ⟨hp, hd⟩
  · exact ⟨a.behind_colonCell, hcolon _ (by cases a.token.kind <;> rfl)⟩
  · exact ⟨a.behind_doubleColonCell, hcolon _ (by cases a.token.kind <;> rfl)⟩
  · exact ⟨(hnear hp d hd).1, hcolon _ (hnear hp d hd).2⟩

/-- The cells that result are parted. -/
theorem isChain_joinColons (hregular : ∀ c ∈ cs, c.Regular)
    (hchain : (withPending p cs).IsChain Cell.Near) : (joinColons p cs).IsChain Cell.Parted := by
  fun_induction joinColons p cs with
  | case1 => exact .singleton _
  | case2 => exact .nil
  | case3 cs ih => exact ih (List.forall_mem_cons.1 hregular).2 hchain
  | case4 c cs h ih =>
    rw [List.forall_mem_cons] at hregular
    refine .cons (ih hregular.2 hchain.tail) (parted_of_mem_head_joinColons ?_ ?_)
    · intro hk
      exact h (hregular.1.1 hk)
    · intro _ d hd
      exact hchain.rel_head? hd
  | case5 cs ih =>
    rw [List.forall_mem_cons] at hregular
    have hcs : (colonCell :: cs).IsChain Cell.Near := hchain.tail
    refine .cons (ih hregular.2 hcs.tail) (parted_of_mem_head_joinColons nofun ?_)
    intro _ d hd
    exact Cell.near_colonCell_iff.1 (hcs.rel_head? hd)
  | case6 cs h ih =>
    rw [List.forall_mem_cons] at hregular
    have hcs : (doubleColonCell :: cs).IsChain Cell.Near := hchain.tail
    have hcs' : (colonCell :: cs).IsChain Cell.Near := hcs.imp_head Cell.near_colonCell_iff.2
    exact .cons (ih hregular.2 hcs') (parted_of_mem_head_joinColons nofun nofun)
  | case7 c cs h h' ih =>
    rw [List.forall_mem_cons] at hregular
    have hcs : (c :: cs).IsChain Cell.Near := hchain.tail
    have hcolon : Cell.Near colonCell c := hchain.rel_head? rfl
    have hk : c.token.kind ≠ .colon := fun hk => h (hregular.1.1 hk)
    have hk' : c.token.kind ≠ .doubleColon := fun hk => h' (hregular.1.2 hk)
    have htail : (c :: joinColons false cs).IsChain Cell.Parted := by
      refine .cons (ih hregular.2 hcs.tail) (parted_of_mem_head_joinColons hk ?_)
      intro _ d hd
      exact hcs.rel_head? hd
    apply htail.cons
    intro d hd
    obtain rfl := Option.some.inj hd
    exact ⟨hcolon.1, runsInto_eq_false hcolon.2 fun _ => ⟨hk, hk'⟩⟩

theorem pairwise_joinColons (h : cs.Pairwise fun a _ => a.token.kind ≠ .semicolon) :
    (joinColons p cs).Pairwise fun a _ => a.token.kind ≠ .semicolon := by
  have hfirst : ∀ {c d : Cell} {cs : List Cell},
      (c :: cs).Pairwise (fun a _ => a.token.kind ≠ .semicolon) → d ∈ joinColons false cs →
        c.token.kind ≠ .semicolon := by
    intro c d cs hcs hd
    cases cs with
    | nil => exact absurd hd List.not_mem_nil
    | cons e cs => exact List.rel_of_pairwise_cons hcs List.mem_cons_self
  fun_induction joinColons p cs with
  | case1 => exact List.pairwise_singleton _ _
  | case2 => exact .nil
  | case3 cs ih => exact ih h.of_cons
  | case4 c cs hc ih => exact .cons (fun d hd => hfirst h hd) (ih h.of_cons)
  | case5 cs ih | case6 cs hc ih => exact .cons (fun _ _ => nofun) (ih h.of_cons)
  | case7 c cs hc hc' ih =>
    exact .cons (fun _ _ => nofun) (.cons (fun d hd => hfirst h hd) (ih h.of_cons))

/-- The cells that result are a row. -/
theorem isRow_joinColons (hread : ∀ c ∈ cs, c.Readable ks) (hregular : ∀ c ∈ cs, c.Regular)
    (hchain : (withPending p cs).IsChain Cell.Near)
    (hsemicolon : cs.Pairwise fun a _ => a.token.kind ≠ .semicolon) :
    IsRow ks (joinColons p cs) := by
  have hread' : ∀ c ∈ joinColons p cs, c.Readable ks := by
    intro c hc
    rcases mem_joinColons hc with rfl | rfl | hc
    · exact ⟨.bare rfl, nofun⟩
    · exact ⟨.doubleColon, nofun⟩
    · exact hread c hc
  refine ⟨hread', ?_, pairwise_joinColons hsemicolon⟩
  apply (isChain_joinColons hregular hchain).imp_of_mem_imp
  intro a b _ hb h
  exact h.1.fits (hread' b hb) h.2

end CompactSql
