import CompactSql.Proofs.Lexeme.Outlook
import CompactSql.Proofs.Scan.Source

/-!
# Statements put together

Where a scan stops between two steps, nothing that it made of the text in front depends on what
stands behind, but for the first character there and, if that is a `&`, the one behind it. So a
space that a scan passes over parts a statement in two, which may be scanned one by one.

## Main definitions

* `ComesTo` — the scan of a text comes to a place in it, between two steps.

## Main statements

* `exists_comesTo_of_mem_placed` — a scan comes to every place where one of its pieces begins.
* `ComesTo.congr` — a scan comes to a place whatever stands behind the next character.
* `ComesTo.scan_append` — the tokens in front of such a place, and those behind it.
* `scan_append_space` — two statements with a space between them.
-/

namespace CompactSql

variable {ks : Keywords} {c d : Char} {p r u a b : Text} {ps : List Piece} {q : Piece} {n : Nat}
  {out : Outcome}

/-! ## Places that a scan comes to -/

/-- The scan of `p ++ r` comes to the beginning of `r`: it cuts `p` into the pieces `ps`, and no
semicolon among them ends the statement. -/
inductive ComesTo (ks : Keywords) : Text → Text → List Piece → Prop where
  | here (r : Text) : ComesTo ks [] r []
  | step {c : Char} {u p r : Text} {out : Outcome} {ps : List Piece}
    (hstep : step ks c (u ++ (p ++ r)) = ⟨out, p ++ r⟩) (hterm : out.isTerminator = false)
    (hrest : ComesTo ks p r ps) : ComesTo ks (c :: (u ++ p)) r (⟨c :: u, out⟩ :: ps)

/-- A scan that comes to a place goes on there. -/
theorem ComesTo.pieces_append (h : ComesTo ks p r ps) :
    pieces ks (p ++ r) = ps ++ pieces ks r := by
  induction h with
  | here r => rfl
  | step hstep hterm _ ih =>
    rw [List.cons_append, List.append_assoc, pieces_of_step hstep, hterm, if_neg Bool.false_ne_true,
      ih, List.cons_append]

theorem ComesTo.scan_append (h : ComesTo ks p r ps) :
    scan ks (p ++ r) = ps.filterMap (·.outcome.token?) ++ scan ks r := by
  rw [scan, h.pieces_append, List.filterMap_append, scan]

/-- Nothing but the first character behind a place, and the one behind a `&` there, decides whether
a scan comes to it. -/
theorem ComesTo.congr (h : ComesTo ks p (d :: a) ps) (hlead : d = '&' → b.head? = a.head?) :
    ComesTo ks p (d :: b) ps := by
  generalize hr : d :: a = r at h
  induction h with
  | here => exact .here _
  | @step c u p r out ps hstep hterm _ ih =>
    subst hr
    refine .step ?_ hterm (ih rfl)
    cases p with
    | nil => exact step_congr hstep hlead
    | cons e p => exact step_congr hstep fun _ => head?_congr p b a d

/-- A scan comes to every place where one of its pieces begins. -/
theorem exists_comesTo_of_mem_placed {t : Text} (ht : t = p ++ r)
    (h : (n + p.length, q) ∈ placed n (pieces ks t)) : ∃ ps, ComesTo ks p r ps := by
  induction t using cut_induction ks generalizing p n with
  | nil => simp [placed] at h
  | cons c u t out hstep ih =>
    rw [pieces_of_step hstep, placed, List.mem_cons] at h
    rcases h with hfirst | hbehind
    · obtain rfl : p = [] := by simpa using congrArg Prod.fst hfirst
      exact ⟨[], .here r⟩
    · cases hterm : out.isTerminator with
      | true => simp [hterm, placed] at hbehind
      | false =>
        rw [hterm, if_neg Bool.false_ne_true] at hbehind
        have hlen : (c :: u).length ≤ p.length := by
          have := le_of_mem_placed hbehind
          dsimp only at this
          omega
        -- The piece in front is a part of `p`.
        obtain ⟨p', rfl⟩ : c :: u <+: p :=
          List.prefix_of_prefix_length_le ⟨t, rfl⟩ ⟨r, ht.symm⟩ hlen
        obtain rfl : t = p' ++ r := by simpa using ht
        rw [List.length_append, ← Nat.add_assoc] at hbehind
        obtain ⟨ps, hps⟩ := ih hterm rfl hbehind
        exact ⟨_, .step hstep hterm hps⟩

/-! ## A space between two statements -/

/-- Scanning is compositional at a space. If the scan of `p` and a space passes over that space, not
taking it for a part of a lexeme and not ending at a semicolon before it, then `p` and `s` with a
space between them have the tokens of `p` and that space, followed by those of `s`. -/
theorem scan_append_space (ks : Keywords) (p s : Text)
    (h : (p.length, ⟨[' '], .blank⟩) ∈ placed 0 (pieces ks (p ++ [' ']))) :
    scan ks (p ++ ' ' :: s) = scan ks (p ++ [' ']) ++ scan ks s := by
  obtain ⟨ps, hps⟩ : ∃ ps, ComesTo ks p [' '] ps :=
    exists_comesTo_of_mem_placed (n := 0) rfl (by rwa [Nat.zero_add])
  have hps' : ComesTo ks p (' ' :: s) ps := hps.congr nofun
  rw [hps'.scan_append, hps.scan_append, scan_space, scan_space, scan_nil, List.append_nil]

/-- A `u&` that is no beginning of a string constant, because a space stands between. -/
theorem scan_append_space_lead :
    let p : Text := "select 1.e U&".toList
    let s : Text := "'a'; b".toList
    (p.length, ⟨[' '], .blank⟩) ∈ placed 0 (pieces .empty (p ++ [' '])) ∧
      scan .empty (p ++ ' ' :: s) = scan .empty (p ++ [' ']) ++ scan .empty s := by
  intro p s
  have h : (p.length, ⟨[' '], .blank⟩) ∈ placed 0 (pieces .empty (p ++ [' '])) := by
    decide +kernel
  exact ⟨h, scan_append_space .empty p s h⟩

end CompactSql
