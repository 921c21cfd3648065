import CompactSql.Lexeme.Reading

/-!
# Quoted lexemes

String constants, quoted identifiers and bit-strings. In a string constant a quote is written
twice; a quoted identifier ends at the first quote; a bit-string holds digits only. The letter
before a quote is kept in lowercase.

## Main definitions

* `StringForm`, `readString` — string constants, plain, with escapes or with code points.
* `readQuotedIdentifier` — identifiers between double quotes, perhaps with code points.
* `BitForm`, `readBitString` — binary and hexadecimal bit-strings.
-/

namespace CompactSql

/-! ## String constants -/

/-- How a string constant is introduced. -/
inductive StringForm where
  | plain
  | escape
  | unicode
  deriving DecidableEq, Repr

/-- What stands before the opening quote. -/
def StringForm.lead : StringForm → Text
  | plain => []
  | escape => ['e']
  | unicode => ['u', '&']

/-- The text up to the first quote that is not doubled, doubled ones kept as they are written, and
what follows that quote. -/
def stringBody : Text → Option (Text × Text)
  | '\'' :: '\'' :: r => (stringBody r).map fun (b, r') => ('\'' :: '\'' :: b, r')
  | '\'' :: r => some ([], r)
  | c :: r => (stringBody r).map fun (b, r') => (c :: b, r')
  | [] => none

/-- Reads a string constant whose opening quote has been passed. -/
def readString (form : StringForm) (t : Text) : Reading :=
  match stringBody t with
  | some (body, rest) => .ofText .string (form.lead ++ '\'' :: body ++ ['\'']) rest
  | none => .dropped .unterminatedString []

theorem suffix_of_stringBody {t body rest : Text} (h : stringBody t = some (body, rest)) :
    rest <:+ t := by
  fun_induction stringBody t generalizing body with
  | case1 r ih =>
    obtain ⟨⟨b, r'⟩, hr, heq⟩ := Option.map_eq_some_iff.1 h
    simp only [Prod.mk.injEq] at heq
    obtain ⟨rfl, rfl⟩ := heq
    exact (ih hr).trans ⟨['\'', '\''], rfl⟩
  | case2 r =>
    simp only [Option.some.injEq, Prod.mk.injEq] at h
    obtain ⟨rfl, rfl⟩ := h
    exact List.suffix_cons _ _
  | case3 c r _ _ ih =>
    obtain ⟨⟨b, r'⟩, hr, heq⟩ := Option.map_eq_some_iff.1 h
    simp only [Prod.mk.injEq] at heq
    obtain ⟨rfl, rfl⟩ := heq
    exact (ih hr).trans (List.suffix_cons _ _)
  | case4 => simp at h

theorem suffix_readString (form : StringForm) (t : Text) : (readString form t).rest <:+ t := by
  unfold readString
  split
  · rename_i h
    exact suffix_of_stringBody h
  · exact List.nil_suffix

/-! ## Quoted identifiers -/

/-- Reads a quoted identifier whose opening quote has been passed; `lead` is what stands before that
quote. The identifier written as two quotes alone is left out, because it names nothing. -/
def readQuotedIdentifier (lead : Text) (t : Text) : Reading :=
  match Text.cutAt ['"'] t with
  | some (body, rest) =>
    let name := lead ++ '"' :: body ++ ['"']
    if 2 < name.length then .ofText .quotedIdentifier name rest
    else .dropped .emptyQuotedIdentifier rest
  | none => .dropped .unterminatedQuotedIdentifier []

theorem suffix_readQuotedIdentifier (lead t : Text) :
    (readQuotedIdentifier lead t).rest <:+ t := by
  unfold readQuotedIdentifier
  split
  · rename_i h
    simp only
    split <;> exact Text.suffix_of_cutAt h
  · exact List.nil_suffix

/-! ## Bit-strings -/

/-- The base in which a bit-string is written. -/
inductive BitForm where
  | binary
  | hexadecimal
  deriving DecidableEq, Repr

namespace BitForm

/-- The letter before the opening quote. -/
def letter : BitForm → Char
  | binary => 'b'
  | hexadecimal => 'x'

/-- The kind of the tokens of this form. -/
def kind : BitForm → Kind
  | binary => .binaryBitString
  | hexadecimal => .hexBitString

/-- Whether `c` is a digit of the base. -/
def accepts : BitForm → Char → Bool
  | binary, c => c ∈ ['0', '1']
  | hexadecimal, c => c ∈ "0123456789abcdefABCDEF".toList

end BitForm

/-- Reads a bit-string whose opening quote has been passed. A character that is no digit of the base
is left out with what stands before it. -/
def readBitString (form : BitForm) (t : Text) : Reading :=
  let collected := form.letter :: '\'' :: t.takeWhile form.accepts
  match t.dropWhile form.accepts with
  | [] => .dropped (.malformedBitString collected) []
  | c :: r =>
    if c = '\'' then .ofText form.kind (collected ++ ['\'']) r
    else .dropped (.malformedBitString collected) r

theorem suffix_readBitString (form : BitForm) (t : Text) : (readBitString form t).rest <:+ t := by
  have h : t.dropWhile form.accepts <:+ t := List.dropWhile_suffix _
  simp only [readBitString]
  split
  · exact List.nil_suffix
  · rename_i c r hr
    rw [hr] at h
    split <;> exact (List.suffix_cons _ _).trans h

end CompactSql
