import CompactSql.Keywords

/-!
# Options

What may be chosen about the compact form of a statement.

## Main definitions

* `Options` — whether comments and the final semicolon are written, and which words are keywords.
* `Options.keywordSet` — the keyword set in use.
-/

namespace CompactSql

/-- The choices about the compact form of a statement. -/
structure Options where
  /-- A keyword set that takes the place of the default one. -/
  keywords? : Option Keywords := none
  /-- Whether comments are written. -/
  comments : Bool := false
  /-- Whether the final semicolon is written. -/
  semicolon : Bool := true
  deriving DecidableEq, Inhabited

/-- The keyword set in use. -/
def Options.keywordSet (o : Options) : Keywords := o.keywords?.getD .reserved

end CompactSql
