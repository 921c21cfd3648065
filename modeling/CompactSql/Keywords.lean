import CompactSql.Text.Blank
import CompactSql.Text.Lowercase

/-!
# Keyword sets

A set of words that are told from identifiers whatever their case. The words are kept in lowercase
and in ascending order, each once, so that two sets with the same words are equal.

## Main definitions

* `Keywords` — a set of lowercase words.
* `Keywords.insert`, `Keywords.contains`, `Keywords.size` — adding a word, looking it up, counting.
* `Keywords.add` — adding a word and learning whether it is new.
* `Keywords.ofList`, `Keywords.ofText` — the set of a list of words, of a text with words in it.
* `Keywords.reserved` — the words that Postgres reserves.

`mem_insertSorted` says what an insertion does to the words.
-/

namespace CompactSql

/-! ## Insertion in order -/

/-- The ascending list `ws` with the word `w` in its place. -/
def insertSorted (w : Text) : List Text → List Text
  | [] => [w]
  | v :: vs => if w < v then w :: v :: vs else if w = v then v :: vs else v :: insertSorted w vs

theorem mem_insertSorted {v w : Text} {ws : List Text} :
    v ∈ insertSorted w ws ↔ v = w ∨ v ∈ ws := by
  fun_induction insertSorted w ws <;> grind

/-- Of two different words one precedes the other. -/
theorem lt_of_not_lt_of_ne {v w : Text} (h : ¬w < v) (hne : w ≠ v) : v < w := by
  induction w generalizing v with
  | nil =>
    cases v with
    | nil => exact absurd rfl hne
    | cons b bs => exact absurd (List.nil_lt_cons b bs) h
  | cons a as ih =>
    cases v with
    | nil => exact List.nil_lt_cons a as
    | cons b bs =>
      rw [List.cons_lt_cons_iff, not_or] at h
      rw [List.cons_lt_cons_iff]
      by_cases hba : b < a
      · exact .inl hba
      · have hab : a = b := Char.ltTrichotomous.trichotomous a b h.1 hba
        subst hab
        exact .inr ⟨rfl, ih (fun hlt => h.2 ⟨rfl, hlt⟩) fun heq => hne (heq ▸ rfl)⟩

theorem pairwise_insertSorted {w : Text} {ws : List Text} (h : ws.Pairwise (· < ·)) :
    (insertSorted w ws).Pairwise (· < ·) := by
  induction ws with
  | nil => simp [insertSorted]
  | cons v vs ih =>
    rw [List.pairwise_cons] at h
    simp only [insertSorted]
    split
    · rename_i hw
      refine List.pairwise_cons.2 ⟨fun u hu => ?_, List.pairwise_cons.2 h⟩
      rcases List.mem_cons.1 hu with rfl | hu
      · exact hw
      · exact List.lt_trans hw (h.1 u hu)
    · split
      · exact List.pairwise_cons.2 h
      · rename_i hw hne
        refine List.pairwise_cons.2 ⟨fun u hu => ?_, ih h.2⟩
        rcases mem_insertSorted.1 hu with rfl | hu
        · exact lt_of_not_lt_of_ne hw hne
        · exact h.1 u hu

/-! ## Sets -/

/-- A set of keywords: its words in lowercase, in ascending order. -/
structure Keywords where
  words : List Text
  ascending : words.Pairwise (· < ·)
  deriving DecidableEq

namespace Keywords

/-- The set without words. -/
def empty : Keywords := ⟨[], .nil⟩

instance : Inhabited Keywords := ⟨empty⟩

/-- Whether `w` is a keyword, in whatever case it is written. -/
def contains (ks : Keywords) (w : Text) : Bool := ks.words.contains (lowercase w)

/-- The set with the word `w` added. -/
def insert (ks : Keywords) (w : Text) : Keywords :=
  ⟨insertSorted (lowercase w) ks.words, pairwise_insertSorted ks.ascending⟩

/-- The number of words. -/
def size (ks : Keywords) : Nat := ks.words.length

/-- The set with the word `w` added, and whether that has made it larger. -/
def add (ks : Keywords) (w : Text) : Keywords × Bool :=
  let ks' := ks.insert w
  (ks', ks.size < ks'.size)

/-- Whether the set has no word. -/
def isEmpty (ks : Keywords) : Bool := ks.words.isEmpty

/-- The set of the words of a list. -/
def ofList (ws : List Text) : Keywords := ws.foldl insert empty

/-- The set of the words of a text. -/
def ofText (t : Text) : Keywords := ofList t.words

/-- The words that Postgres reserves, the names of its built-in types among them. -/
def reservedWords : String :=
  "all analyse analyze and any array as asc asymmetric authorization between bigint binary bit " ++
  "boolean both case cast character check collate collation column concurrently constraint " ++
  "create cross current_catalog current_date current_role current_schema current_time " ++
  "current_timestamp current_user dec decimal default deferrable desc distinct do else end " ++
  "except exists extract false fetch float for foreign freeze from full grant group grouping " ++
  "having ilike in initially inner inout int integer intersect interval into is isnull join " ++
  "lateral leading least left like limit localtime localtimestamp national natural nchar none " ++
  "not notnull null nullif numeric offset on only or order out outer overlaps overlay placing " ++
  "position precision primary real references returning right row select session_user setof " ++
  "similar smallint some symmetric table tablesample then time timestamp to trailing treat trim " ++
  "true union unique user using values variadic verbose when where window with xmlattributes " ++
  "xmlconcat xmlelement xmlexists xmlforest xmlnamespaces xmlparse xmlpi xmlroot xmlserialize " ++
  "xmltable"

/-- The default set. -/
def reserved : Keywords := ofText reservedWords.toList

end Keywords

end CompactSql
