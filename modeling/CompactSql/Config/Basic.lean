import CompactSql.Options

/-!
# Configurations

A configuration holds what a user has settled about the compact form of statements.

## Main definitions

* `Config` — the settings.
* `Config.keywordSet?`, `Config.options` — the keyword set and the options that they stand for.
* `Config.hasNoKeywords` — whether a list of keywords is given that holds no word.
-/

namespace CompactSql

/-- What a user has settled about the compact form of statements. -/
structure Config where
  /-- Whether comments are written. -/
  comments : Bool := false
  /-- Whether the final semicolon is written. -/
  semicolon : Bool := true
  /-- The words that take the place of the default keywords. -/
  keywords? : Option (List Text) := none
  deriving DecidableEq, Repr, Inhabited

namespace Config

/-- The keyword set that takes the place of the default one. -/
def keywordSet? (c : Config) : Option Keywords := c.keywords?.map .ofList

/-- The options that a configuration stands for. -/
def options (c : Config) : Options := ⟨c.keywordSet?, c.comments, c.semicolon⟩

/-- Whether the keywords are replaced by words that are all blank. -/
def hasNoKeywords (c : Config) : Bool := c.keywords?.any (·.all Text.allBlank)

end Config

end CompactSql
