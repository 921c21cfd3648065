import CompactSql.Proofs.Lexeme.Grammar

/-!
# The tokens of a statement

How a scan goes on behind each kind of step, and what it says about its tokens: each is a token of
the language, and a semicolon is the last one.

## Main statements

* `append_slice_step` — a step takes the characters between two places.
* `pieces_map` — two scans whose steps correspond.
* `scan_of_blank`, `scan_of_token`, `scan_of_semicolon` — a scan, step by step.
* `lexical_of_mem_scan`, `pairwise_ne_semicolon_scan` — the tokens of a statement.
-/

namespace CompactSql

variable {ks : Keywords} {c : Char} {t r : Text} {tok : Token}

/-! ## Pieces -/

/-- The piece that a step makes of the text `c :: t`. -/
def Piece.ofStep (ks : Keywords) (c : Char) (t : Text) : Piece :=
  ⟨(c :: t).take (t.length + 1 - (step ks c t).rest.length), (step ks c t).outcome⟩

@[simp] theorem outcome_ofStep (ks : Keywords) (c : Char) (t : Text) :
    (Piece.ofStep ks c t).outcome = (step ks c t).outcome := rfl

@[simp] theorem pieces_nil (ks : Keywords) : pieces ks [] = [] := by rw [pieces]

theorem pieces_cons (ks : Keywords) (c : Char) (t : Text) :
    pieces ks (c :: t) =
      if (step ks c t).outcome.isTerminator then [Piece.ofStep ks c t]
      else Piece.ofStep ks c t :: pieces ks (step ks c t).rest := by
  rw [pieces]
  rfl

/-- The characters of a step and those that it leaves are the text. -/
theorem append_slice_step (ks : Keywords) (c : Char) (t : Text) :
    (Piece.ofStep ks c t).slice ++ (step ks c t).rest = c :: t := by
  obtain ⟨u, hu⟩ := suffix_step ks c t
  have hlen : t.length + 1 - (step ks c t).rest.length = (c :: u).length := by
    have hsum := congrArg List.length hu
    rw [List.length_append] at hsum
    rw [List.length_cons]
    omega
  have htake : (c :: t).take (c :: u).length = c :: u := by
    conv_lhs => rw [← hu, ← List.cons_append]
    exact List.take_left
  rw [Piece.ofStep, hlen, htake, List.cons_append, hu]

theorem slice_ofStep_ne_nil (ks : Keywords) (c : Char) (t : Text) :
    (Piece.ofStep ks c t).slice ≠ [] := by
  intro hnil
  have hlen := congrArg List.length (append_slice_step ks c t)
  rw [hnil, List.nil_append, List.length_cons] at hlen
  have := length_step_le ks c t
  omega

/-- What holds of the empty text, and of a text if it holds of what the first step leaves of it,
holds of every text. A step that ends the statement leaves nothing to be looked at. -/
@[elab_as_elim]
theorem step_induction {P : Text → Prop} (ks : Keywords) (nil : P [])
    (cons : ∀ (c : Char) (t : Text),
      ((step ks c t).outcome.isTerminator = false → P (step ks c t).rest) → P (c :: t))
    (t : Text) : P t := by
  fun_induction pieces ks t with
  | case1 => exact nil
  | case2 c t r piece hterm => exact cons c t fun h => Bool.noConfusion (h.symm.trans hterm)
  | case3 c t r piece hterm ih => exact cons c t fun _ => ih

/-! ## Steps as cuts -/

section

variable {u : Text} {out : Outcome}

/-- The text behind the first character of a step, cut where the step stops. -/
theorem exists_step_eq (ks : Keywords) (c : Char) (t : Text) :
    ∃ u r out, t = u ++ r ∧ step ks c t = ⟨out, r⟩ := by
  obtain ⟨u, hu⟩ := suffix_step ks c t
  exact ⟨u, _, _, hu.symm, rfl⟩

theorem Piece.ofStep_eq (h : step ks c (u ++ r) = ⟨out, r⟩) :
    Piece.ofStep ks c (u ++ r) = ⟨c :: u, out⟩ := by
  have happend := append_slice_step ks c (u ++ r)
  rw [h, ← List.cons_append] at happend
  have hslice := List.append_cancel_right happend
  rw [Piece.ofStep, Piece.mk.injEq]
  exact ⟨hslice, by rw [h]⟩

/-- The pieces of a text whose first step is known. -/
theorem pieces_of_step (h : step ks c (u ++ r) = ⟨out, r⟩) :
    pieces ks (c :: (u ++ r)) = ⟨c :: u, out⟩ :: if out.isTerminator then [] else pieces ks r := by
  rw [pieces_cons, Piece.ofStep_eq h, h]
  cases out.isTerminator <;> rfl

/-- The induction over the steps of a scan, with the text cut where the first step stops. -/
@[elab_as_elim]
theorem cut_induction {P : Text → Prop} (ks : Keywords) (nil : P [])
    (cons : ∀ (c : Char) (u r : Text) (out : Outcome), step ks c (u ++ r) = ⟨out, r⟩ →
      (out.isTerminator = false → P r) → P (c :: (u ++ r)))
    (t : Text) : P t := by
  induction t using step_induction ks with
  | nil => exact nil
  | cons c t ih =>
    obtain ⟨u, r, out, rfl, hstep⟩ := exists_step_eq ks c t
    rw [hstep] at ih
    exact cons c u r out hstep ih

end

/-! ## Scans whose steps correspond -/

section

variable {ks' : Keywords} {f : Char → Char} {g : Outcome → Outcome}

/-- If every step in one statement corresponds to one in another, the pieces correspond. -/
theorem pieces_map (hterm : ∀ out, (g out).isTerminator = out.isTerminator)
    (hstep : ∀ c ∈ t, ∀ u, step ks' (f c) (u.map f) =
      ⟨g (step ks c u).outcome, (step ks c u).rest.map f⟩) :
    pieces ks' (t.map f) = (pieces ks t).map fun p => ⟨p.slice.map f, g p.outcome⟩ := by
  induction t using cut_induction ks with
  | nil => simp
  | cons c u r out h ih =>
    have h' : step ks' (f c) (u.map f ++ r.map f) = ⟨g out, r.map f⟩ := by
      rw [← List.map_append, hstep c List.mem_cons_self, h]
    rw [List.map_cons, List.map_append, pieces_of_step h', pieces_of_step h, hterm]
    cases hout : out.isTerminator with
    | true => rfl
    | false =>
      have hrest := ih hout fun d hd => hstep d (by simp [hd])
      rw [if_neg Bool.false_ne_true, if_neg Bool.false_ne_true, hrest]
      rfl

/-- If every step in one statement corresponds to one in another, the tokens correspond. -/
theorem scan_map {k : Token → Token} (htoken : ∀ out, (g out).token? = out.token?.map k)
    (h : pieces ks' r = (pieces ks t).map fun p => ⟨p.slice.map f, g p.outcome⟩) :
    scan ks' r = (scan ks t).map k := by
  rw [scan, scan, h, List.filterMap_map, List.map_filterMap]
  exact congrArg (List.filterMap · _) (funext fun p => htoken p.outcome)

end

/-! ## A scan, step by step -/

@[simp] theorem scan_nil (ks : Keywords) : scan ks [] = [] := by rw [scan, pieces_nil]; rfl

/-- The tokens of a statement are those of its first step and of what that leaves. -/
theorem scan_cons (ks : Keywords) (c : Char) (t : Text) :
    scan ks (c :: t) =
      (step ks c t).outcome.token?.toList ++
        if (step ks c t).outcome.isTerminator then [] else scan ks (step ks c t).rest := by
  rw [scan, pieces_cons]
  cases hterm : (step ks c t).outcome.isTerminator <;>
    cases hout : (step ks c t).outcome <;> simp_all [scan, Outcome.token?, Outcome.isTerminator]

theorem scan_of_blank (h : step ks c t = ⟨.blank, r⟩) : scan ks (c :: t) = scan ks r := by
  rw [scan_cons, h]
  rfl

theorem scan_of_token (h : step ks c t = ⟨.token tok, r⟩) (hk : tok.kind ≠ .semicolon) :
    scan ks (c :: t) = tok :: scan ks r := by
  rw [scan_cons, h]
  simp [Outcome.token?, Outcome.isTerminator, hk]

theorem scan_of_semicolon (h : step ks c t = ⟨.token tok, r⟩) (hk : tok.kind = .semicolon) :
    scan ks (c :: t) = [tok] := by
  rw [scan_cons, h]
  simp [Outcome.token?, Outcome.isTerminator, hk]

/-- A space in front of a statement is nothing to it. -/
@[simp] theorem scan_space (ks : Keywords) (t : Text) : scan ks (' ' :: t) = scan ks t :=
  scan_of_blank rfl

/-! ## The tokens of a scan -/

/-- What holds of the tokens of every statement holds if every step keeps it. -/
theorem scan_induction {P : List Token → Prop} (hnil : P [])
    (hsemicolon : ∀ tok : Token, tok.Lexical ks → tok.kind = .semicolon → P [tok])
    (htoken : ∀ (tok : Token) (ts : List Token), tok.Lexical ks → tok.kind ≠ .semicolon → P ts →
      P (tok :: ts)) (t : Text) : P (scan ks t) := by
  induction t using step_induction ks with
  | nil => rwa [scan_nil]
  | cons c t ih =>
    obtain ⟨outcome, r, hstep⟩ : ∃ outcome r, step ks c t = ⟨outcome, r⟩ := ⟨_, _, rfl⟩
    rw [hstep] at ih
    cases outcome with
    | blank =>
      rw [scan_of_blank hstep]
      exact ih rfl
    | dropped f =>
      rw [scan_cons, hstep]
      exact ih rfl
    | token tok =>
      have hlex := Token.lexical_of_step hstep
      by_cases hk : tok.kind = .semicolon
      · rw [scan_of_semicolon hstep hk]
        exact hsemicolon tok hlex hk
      · rw [scan_of_token hstep hk]
        exact htoken tok _ hlex hk (ih (by simpa [Outcome.isTerminator] using hk))

theorem lexical_of_mem_scan {t : Text} : ∀ tok ∈ scan ks t, tok.Lexical ks := by
  refine scan_induction (P := fun ts => ∀ tok ∈ ts, tok.Lexical ks) (by simp)
    (fun tok hlex _ => ?_) (fun tok ts hlex _ hts => ?_) t
  · simpa using hlex
  · exact List.forall_mem_cons.2 ⟨hlex, hts⟩

/-- Nothing stands behind a semicolon. -/
theorem pairwise_ne_semicolon_scan (ks : Keywords) (t : Text) :
    (scan ks t).Pairwise fun a _ => a.kind ≠ .semicolon := by
  refine scan_induction (P := List.Pairwise fun a _ => a.kind ≠ .semicolon) .nil ?_ ?_ t
  · exact fun tok _ _ => List.pairwise_singleton _ tok
  · exact fun tok ts _ hk hts => .cons (fun _ _ => hk) hts

end CompactSql
