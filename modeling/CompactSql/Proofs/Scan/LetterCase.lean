import CompactSql.Proofs.Lexeme.LetterCase
import CompactSql.Proofs.Scan.Tokens

/-!
# Scans and letter case

The scan of the caseless form of a statement without dollar signs is the caseless form of its scan.

## Main definitions

* `Piece.caseless` — a piece with its texts caseless.

## Main statements

* `pieces_caseless`, `scan_caseless` — the pieces and the tokens of a statement.
-/

namespace CompactSql

variable {ks : Keywords} {t : Text}

/-- The piece with its texts caseless. -/
def Piece.caseless (p : Piece) : Piece := ⟨Text.caseless p.slice, p.outcome.caseless⟩

theorem pieces_caseless (ks : Keywords) (h : '$' ∉ t) :
    pieces ks (Text.caseless t) = (pieces ks t).map Piece.caseless := by
  refine pieces_map Outcome.isTerminator_caseless fun c hc u => ?_
  exact step_caseless (ne_of_mem_of_not_mem hc h) ks u

/-- The tokens of a statement do not depend on the case of its letters, but for that of their
own. -/
theorem scan_caseless (ks : Keywords) (h : '$' ∉ t) :
    scan ks (Text.caseless t) = (scan ks t).map Token.caseless := by
  refine scan_map (fun out => ?_) (pieces_caseless ks h)
  cases out <;> rfl

end CompactSql
