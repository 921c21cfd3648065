import CompactSql.Proofs.Lexeme.Outlook
import CompactSql.Proofs.Scan.Classification
import CompactSql.Proofs.Scan.Source

/-!
# The semicolon ends a statement

The first semicolon that is a token is the last thing that a scan looks at. Whatever stands behind
it, the tokens, the faults and the compact form of the statement are the same.

## Main statements

* `eq_semicolon_of_step` — a step ends the statement at the character `;` only.
* `exists_pieces_eq_of_terminator` — the pieces of a statement do not depend on what stands behind
  its semicolon.
* `semicolon_ends_statement` — the same for all that is made of the pieces.
-/

namespace CompactSql

variable {ks : Keywords} {c : Char} {t u r : Text} {out : Outcome} {tok : Token}

/-! ## One step -/

theorem lexeme_eq_of_semicolon (h : tok.Lexical ks) (hk : tok.kind = .semicolon) :
    tok.lexeme = [';'] := by
  have htok := h.eq_of_mark? (m := [';']) (by rw [hk]; rfl)
  rw [hk] at htok
  rw [htok]
  rfl

/-- A step ends the statement at a semicolon, and takes nothing else. -/
theorem eq_semicolon_of_step (h : step ks c (u ++ r) = ⟨out, r⟩) (hterm : out.isTerminator = true) :
    c = ';' ∧ u = [] := by
  cases out with
  | blank | dropped f => cases hterm
  | token tok =>
    have hk : tok.kind = .semicolon := by simpa [Outcome.isTerminator] using hterm
    cases Token.readFrom_of_step h with
    | lexeme hkind hlexeme =>
      rw [lexeme_eq_of_semicolon (Token.lexical_of_step h) hk, Text.lowerLead] at hlexeme
      split at hlexeme
      · rename_i hmark
        obtain rfl : u = [] := by simpa using congrArg List.tail hlexeme.symm
        cases hmark
      · simpa using hlexeme.symm
    | lineComment | lastLine | blockComment => cases hk

/-! ## A whole statement -/

/-- The pieces of a statement with a semicolon are those of its characters up to that, whatever
stands behind. -/
theorem exists_pieces_eq_of_terminator (ks : Keywords) (t : Text)
    (h : ∃ p ∈ pieces ks t, p.outcome.isTerminator = true) :
    ∃ before behind, t = before ++ ';' :: behind ∧
      ∀ s, pieces ks (before ++ ';' :: s) = pieces ks t := by
  induction t using cut_induction ks with
  | nil => simp at h
  | cons c u r out hstep ih =>
    rw [pieces_of_step hstep] at h ⊢
    cases hterm : out.isTerminator with
    | true =>
      obtain ⟨rfl, rfl⟩ := eq_semicolon_of_step hstep hterm
      refine ⟨[], r, rfl, fun s => ?_⟩
      have hstep' : step ks ';' ([] ++ s) = ⟨out, s⟩ := by
        obtain ⟨rfl, -⟩ := Reading.mk.inj hstep
        rfl
      exact (pieces_of_step hstep').trans (by rw [hterm, if_pos rfl, if_pos rfl])
    | false =>
      rw [hterm, if_neg Bool.false_ne_true] at h
      have hbehind : ∃ p ∈ pieces ks r, p.outcome.isTerminator = true := by
        obtain ⟨p, hp, hp'⟩ := h
        rcases List.mem_cons.1 hp with rfl | hp
        · exact absurd hp' (by simp [hterm])
        · exact ⟨p, hp, hp'⟩
      obtain ⟨before, behind, rfl, hpieces⟩ := ih hterm hbehind
      refine ⟨c :: (u ++ before), behind, by simp, fun s => ?_⟩
      -- The step leaves the semicolon, so it does not look behind that.
      have hstep' : step ks c (u ++ (before ++ ';' :: s)) = ⟨out, before ++ ';' :: s⟩ := by
        cases before with
        | nil => exact step_congr hstep fun hamp => absurd hamp (by decide)
        | cons e before => exact step_congr hstep fun _ => head?_congr before s behind ';'
      rw [List.cons_append, List.append_assoc, pieces_of_step hstep', hterm,
        if_neg Bool.false_ne_true, if_neg Bool.false_ne_true, hpieces s]

theorem exists_terminator_of_mem_scan (htok : tok ∈ scan ks t) (hk : tok.kind = .semicolon) :
    ∃ p ∈ pieces ks t, p.outcome.isTerminator = true := by
  obtain ⟨p, hp, hout⟩ := List.mem_filterMap.1 htok
  refine ⟨p, hp, ?_⟩
  cases h : p.outcome with
  | token tok' =>
    obtain rfl : tok' = tok := by simpa [h, Outcome.token?] using hout
    simpa [Outcome.isTerminator] using hk
  | blank | dropped f => simp [h, Outcome.token?] at hout

/-- No token but the last one is a semicolon. -/
theorem kind_ne_semicolon_of_mem_dropLast_scan (ks : Keywords) (t : Text) :
    ∀ tok ∈ (scan ks t).dropLast, tok.kind ≠ .semicolon := by
  intro tok htok
  have hne : scan ks t ≠ [] := by
    rintro hnil
    simp [hnil] at htok
  have hpairwise := pairwise_ne_semicolon_scan ks t
  rw [← List.dropLast_append_getLast hne, List.pairwise_append] at hpairwise
  exact hpairwise.2.2 tok htok _ List.mem_cons_self

/-- A semicolon is the last token of a statement, and ends it: with any other text behind it, the
tokens and the faults of the statement are the same with every keyword set, and its compact form and
its events are the same with all options. -/
theorem semicolon_ends_statement (ks : Keywords) (t : Text) :
    (∀ tok ∈ (scan ks t).dropLast, tok.kind ≠ .semicolon) ∧
      ((∃ tok ∈ scan ks t, tok.kind = .semicolon) →
        ∃ before behind, t = before ++ ';' :: behind ∧
          (∀ ks' s, scan ks' (before ++ ';' :: s) = scan ks' t ∧
            faults ks' (before ++ ';' :: s) = faults ks' t) ∧
          ∀ o s, compact o (before ++ ';' :: s) = compact o t ∧
            compactEvents o (before ++ ';' :: s) = compactEvents o t) := by
  refine ⟨kind_ne_semicolon_of_mem_dropLast_scan ks t, ?_⟩
  rintro ⟨tok, htok, hk⟩
  obtain ⟨before, behind, ht, hpieces⟩ :=
    exists_pieces_eq_of_terminator ks t (exists_terminator_of_mem_scan htok hk)
  have hscan : ∀ ks' s, scan ks' (before ++ ';' :: s) = scan ks' t ∧
      faults ks' (before ++ ';' :: s) = faults ks' t := by
    intro ks' s
    have hpieces' : pieces ks' (before ++ ';' :: s) = pieces ks' t := by
      rw [pieces_eq_map_classify ks ks', hpieces s, ← pieces_eq_map_classify]
    exact ⟨by rw [scan, scan, hpieces'], by rw [faults, faults, hpieces']⟩
  refine ⟨before, behind, ht, hscan, fun o s => ?_⟩
  obtain ⟨htokens, hfaults⟩ := hscan o.keywordSet s
  exact ⟨by rw [compact, compact, htokens], by rw [compactEvents, compactEvents, htokens, hfaults]⟩

/-- A statement with one semicolon in a string constant and one that ends it. -/
theorem semicolon_ends_statement_quoted :
    let t : Text := ['\'', ';', '\'', ';', 'x']
    (∃ tok ∈ scan .empty t, tok.kind = .semicolon) ∧
      ∃ before behind, t = before ++ ';' :: behind ∧
        (∀ ks' s, scan ks' (before ++ ';' :: s) = scan ks' t ∧
          faults ks' (before ++ ';' :: s) = faults ks' t) ∧
        ∀ o s, compact o (before ++ ';' :: s) = compact o t ∧
          compactEvents o (before ++ ';' :: s) = compactEvents o t := by
  intro t
  have h : ∃ tok ∈ scan .empty t, tok.kind = .semicolon :=
    ⟨.bare .semicolon, by decide +kernel, rfl⟩
  exact ⟨h, (semicolon_ends_statement .empty t).2 h⟩

end CompactSql
