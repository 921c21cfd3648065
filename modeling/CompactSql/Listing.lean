import CompactSql.Json.Value
import CompactSql.Token

/-!
# Listings of tokens

The tokens of a statement can be listed one after the other by the codes of their kinds, or written
as a JSON array.

## Main definitions

* `Token.line`, `listing` — the entry of a token in a listing, and the whole listing.
* `Token.toJson`, `jsonListing` — a token as a JSON object, and the JSON text of all tokens.
-/

namespace CompactSql

/-- The entry of a token in a listing: the code of its kind and, if it has one, its text behind a
tab. -/
def Token.line (t : Token) : Text :=
  t.kind.code ++ (match t.text? with | some text => '\t' :: text | none => []) ++ ['\n']

/-- The entries of the tokens, in order. -/
def listing (ts : List Token) : Text := ts.flatMap Token.line

/-- A token as a JSON object: the name of its kind and, if it has one, its text. -/
def Token.toJson (t : Token) : Json.Value :=
  .object <|
    ("kind".toList, .string t.kind.name.toList) ::
      (match t.text? with | some text => [("text".toList, .string text)] | none => [])

/-- The JSON text of the tokens. -/
def jsonListing (ts : List Token) : Text := (Json.Value.array (ts.map Token.toJson)).pretty

end CompactSql
