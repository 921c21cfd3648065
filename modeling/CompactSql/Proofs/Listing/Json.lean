import CompactSql.Listing
import CompactSql.Proofs.Json.Grammar

/-!
# The JSON text of tokens

The JSON text of a list of tokens is a text of one value only: an array with an object for each
token, in order. The tokens can be read off that value, whatever characters their texts are made of,
and an empty text is not the same as none.

## Main definitions

* `Token.ofJson?`, `tokensOfJson?` — the token that an object stands for, and those of an array.

## Main statements

* `Token.ofJson?_toJson` — a token is read off its object.
* `jsonListing_decodes` — the tokens are read off their JSON text.
-/

namespace CompactSql

open Json (Value IsTextOf)

/-! ## Reading values -/

/-- The text of a value that is a string. -/
def Json.Value.text? : Value → Option Text
  | .string t => some t
  | _ => none

/-- The members of a value that is an object. -/
def Json.Value.members : Value → List (Text × Value)
  | .object ms => ms
  | _ => []

/-- The elements of a value that is an array. -/
def Json.Value.elements? : Value → Option (List Value)
  | .array vs => some vs
  | _ => none

/-- The token that an object stands for: its kind is given by name, and it has a text if there is a
member for one. -/
def Token.ofJson? (v : Value) : Option Token := do
  let name ← (← v.members.lookup "kind".toList).text?
  let kind ← Kind.ofName? (String.ofList name)
  match v.members.lookup "text".toList with
  | some w => return ⟨kind, some (← w.text?)⟩
  | none => return ⟨kind, none⟩

/-- The tokens that an array of objects stands for. -/
def tokensOfJson? (v : Value) : Option (List Token) := do
  (← v.elements?).mapM Token.ofJson?

/-! ## Reading tokens back -/

/-- The object of a token has a member for its text exactly if it has one. -/
theorem Token.toJson_eq (tok : Token) :
    tok.toJson = .object (("kind".toList, .string tok.kind.name.toList) ::
      tok.text?.toList.map fun text => ("text".toList, .string text)) := by
  cases htext : tok.text? <;> rw [toJson, htext] <;> rfl

@[simp] theorem Token.ofJson?_toJson (tok : Token) : ofJson? tok.toJson = some tok := by
  obtain ⟨kind, text?⟩ := tok
  cases text? <;>
    simp [ofJson?, toJson, Value.members, Value.text?, List.lookup_cons]

theorem tokensOfJson?_array (ts : List Token) :
    tokensOfJson? (.array (ts.map Token.toJson)) = some ts := by
  have hread : (ts.map Token.toJson).mapM Token.ofJson? = some ts := by
    induction ts with
    | nil => rfl
    | cons tok ts ih => simp [ih]
  exact hread

/-- The JSON text of a list of tokens is a text of the array of their objects, and of no other
value; and that value gives the tokens back. -/
theorem jsonListing_decodes (ts : List Token) :
    (∀ v, IsTextOf (jsonListing ts) v ↔
        v = .array (ts.map fun tok =>
          .object (("kind".toList, .string tok.kind.name.toList) ::
            tok.text?.toList.map fun text => ("text".toList, .string text)))) ∧
      ∀ v, IsTextOf (jsonListing ts) v → tokensOfJson? v = some ts := by
  have hiff : ∀ v, IsTextOf (jsonListing ts) v ↔ v = .array (ts.map Token.toJson) :=
    fun v => Json.isTextOf_pretty_iff
  constructor
  · rwa [funext Token.toJson_eq] at hiff
  · intro v hv
    rw [(hiff v).1 hv, tokensOfJson?_array]

end CompactSql
