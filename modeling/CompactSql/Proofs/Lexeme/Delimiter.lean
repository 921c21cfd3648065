import CompactSql.Lexeme.DollarQuotation
import CompactSql.Proofs.Text.Cut

/-!
# The end of a dollar-quoted string

The reader of dollar-quoted strings takes one character after the other and compares the characters
from the last `$` on with the delimiter. Here the tag is taken as a whole, and the end of the string
is the first place where the delimiter stands. The two agree because a tag holds no `$`: wherever a
comparison is given up, no delimiter begins between its `$` and the character that did not fit, so
that it never has to be taken up again further to the front.

## Main definitions

* `DollarQuotation.tag`, `DollarQuotation.rule` — the tag that a text begins with, and the reading
  of a dollar-quoted string by the first place of its delimiter.
* `DollarQuotation.IsTag`, `DollarQuotation.delimiter` — the tags of dollar-quoted strings, and the
  delimiter of a tag.
* `DollarQuotation.Search.inTag`, `DollarQuotation.Search.inside` — the searches that a reader comes
  to inside the first delimiter and behind it.

## Main statements

* `tag_eq_iff` — the tag that is read is the one that does not go on.
* `next_inTag`, `exists_next_inside` — the search behind one more character.
* `readFrom_inside` — the string ends where the delimiter stands first, counted from the `$` of the
  comparison under way.
* `read_eq_rule` — the reading of a dollar-quoted string.
-/

namespace CompactSql.DollarQuotation

variable {name w r t body : Text} {c : Char} {i : Nat}

/-! ## The rule -/

/-- Whether `c` goes on with a tag. -/
def isTagChar (c : Char) : Bool := isWordChar c && c != '$'

/-- Whether a tag and the dollar sign behind it may begin with `c`. -/
def beginsTag (c : Char) : Bool := isLetter c || c == '$'

/-- The tag at the beginning of a text, which is empty where none may begin, and what follows it. -/
def tag : Text → Text × Text
  | [] => ([], [])
  | c :: t =>
    if beginsTag c then ((c :: t).takeWhile isTagChar, (c :: t).dropWhile isTagChar)
    else ([], c :: t)

/-- The reading of a dollar-quoted string whose first `$` has been passed, by the first place of its
delimiter. A character that cannot go on with the tag is left out with what stands before it. -/
def rule (t : Text) : Reading :=
  let (name, behind) := tag t
  match behind with
  | [] => .dropped .unterminatedDollarQuote []
  | c :: r =>
    if c = '$' then
      let delimiter := '$' :: name ++ ['$']
      match Text.cutAt delimiter r with
      | some (body, rest) => .ofText .string (delimiter ++ body ++ delimiter) rest
      | none => .dropped .unterminatedDollarQuote []
    else .dropped .unterminatedDollarQuote r

/-! ## Tags -/

/-- The tags of dollar-quoted strings: nothing, or a letter and word characters other than `$`. -/
def IsTag : Text → Prop
  | [] => True
  | c :: w => isLetter c = true ∧ ∀ d ∈ w, isTagChar d = true

theorem isTagChar_of_isLetter {c : Char} (h : isLetter c = true) : isTagChar c = true := by
  have hne : c ≠ '$' := Text.ne_of_true_of_false h (by decide)
  simp [isTagChar, isWordChar, h, hne]

theorem isTagChar_dollar : isTagChar '$' = false := by decide

theorem IsTag.isTagChar (h : IsTag name) : ∀ c ∈ name, isTagChar c = true := by
  cases name with
  | nil => exact fun c hc => absurd hc List.not_mem_nil
  | cons c w => exact List.forall_mem_cons.2 ⟨isTagChar_of_isLetter h.1, h.2⟩

/-- A beginning of a tag is a tag. -/
theorem IsTag.of_append (h : IsTag (name ++ w)) : IsTag name := by
  cases name with
  | nil => trivial
  | cons c name => exact ⟨h.1, fun d hd => h.2 d (List.mem_append_left w hd)⟩

theorem isTag_tag (t : Text) : IsTag (tag t).1 := by
  unfold tag
  split
  · trivial
  · rename_i c t
    split
    · rename_i hc
      rw [List.takeWhile_cons]
      split
      · rename_i htag
        have hne : c ≠ '$' := Text.ne_of_true_of_false htag isTagChar_dollar
        exact ⟨by simpa [beginsTag, hne] using hc, fun d => List.mem_takeWhile_imp⟩
      · trivial
    · trivial

theorem tag_append (t : Text) : t = (tag t).1 ++ (tag t).2 := by
  unfold tag
  split
  · rfl
  · split
    · exact List.takeWhile_append_dropWhile.symm
    · rfl

/-- What follows the tag does not go on with it. -/
theorem not_isTag_concat (t : Text) : ∀ c ∈ (tag t).2.head?, ¬IsTag ((tag t).1 ++ [c]) := by
  intro c hc htag
  unfold tag at hc htag
  split at hc
  · cases hc
  · rename_i c' t
    split at hc <;> rename_i hbegins
    · have hend := Text.head_dropWhile isTagChar (c' :: t) c hc
      simp only [if_pos hbegins] at htag
      exact Bool.noConfusion (hend.symm.trans (htag.isTagChar c (by simp)))
    · obtain rfl : c' = c := by simpa using hc
      simp only [if_neg hbegins] at htag
      exact hbegins (by simp [beginsTag, htag.1])

/-- A tag that does not go on is the longest one. -/
theorem IsTag.prefix_of_end (hw : IsTag w) (h : w <+: name ++ r)
    (hr : ∀ c ∈ r.head?, ¬IsTag (name ++ [c])) : w <+: name := by
  refine (List.prefix_or_prefix_of_prefix h (List.prefix_append name r)).elim id ?_
  rintro ⟨x, rfl⟩
  cases x with
  | nil => simp
  | cons c x =>
    obtain ⟨r', rfl⟩ := (List.prefix_append_right_inj name).1 h
    exact absurd (IsTag.of_append (w := x) (by simpa using hw)) (hr c rfl)

/-- The tag at the beginning of a text is the one that does not go on. -/
theorem tag_eq_iff : tag t = (name, r) ↔
    t = name ++ r ∧ IsTag name ∧ ∀ c ∈ r.head?, ¬IsTag (name ++ [c]) := by
  constructor
  · intro h
    have hr := not_isTag_concat t
    rw [h] at hr
    exact ⟨by simpa [h] using tag_append t, by simpa [h] using isTag_tag t, hr⟩
  · rintro ⟨ht, hname, hr⟩
    have heq : (tag t).1 ++ (tag t).2 = name ++ r := (tag_append t).symm.trans ht
    have hprefix : (tag t).1 <+: name := (isTag_tag t).prefix_of_end ⟨_, heq⟩ hr
    have hprefix' : name <+: (tag t).1 :=
      hname.prefix_of_end ⟨r, heq.symm⟩ (not_isTag_concat t)
    obtain ⟨h₁, h₂⟩ := List.append_inj heq (Nat.le_antisymm hprefix.length_le hprefix'.length_le)
    exact Prod.ext h₁ h₂

theorem not_isTag_dollar : ¬IsTag (name ++ ['$']) := by
  intro h
  exact Bool.noConfusion (isTagChar_dollar.symm.trans (h.isTagChar '$' (by simp)))

theorem tag_of_dollar (h : IsTag name) (r : Text) : tag (name ++ '$' :: r) = (name, '$' :: r) :=
  tag_eq_iff.2 ⟨rfl, h, fun c hc => by cases hc; exact not_isTag_dollar⟩

/-- The delimiter of a tag. -/
def delimiter (name : Text) : Text := '$' :: name ++ ['$']

theorem delimiter_ne_nil : delimiter name ≠ [] := List.cons_ne_nil _ _


theorem getElem?_delimiter_iff :
    (delimiter name)[i + 1]? = some c ↔ name[i]? = some c ∨ i = name.length ∧ c = '$' := by
  rw [delimiter, List.cons_append, List.getElem?_cons_succ]
  grind

/-! ## Inside the first delimiter -/

namespace Search

/-- The search behind a `$` and the tag `name`. -/
def inTag (name : Text) : Search := ⟨'$' :: name, '$' :: name, false, none⟩

/-- A character that goes on with the tag is taken. -/
theorem next_inTag (h : IsTag (name ++ [c])) :
    (inTag name).breaksAt c = false ∧ (inTag name).closesAt c = false ∧
      (inTag name).next c = inTag (name ++ [c]) := by
  have htag : isTagChar c = true := h.isTagChar c (by simp)
  obtain ⟨hword, hdollar⟩ : isWordChar c = true ∧ c ≠ '$' := by simpa [isTagChar] using htag
  refine ⟨?_, by simp [closesAt, hdollar], by simp [next, push, inTag, hdollar]⟩
  cases name with
  | nil =>
    have hletter : isLetter c = true := h.1
    simp [breaksAt, inTag, hletter, hword]
  | cons a name => simp [breaksAt, inTag, hword]

/-- A character that neither goes on with the tag nor ends the delimiter breaks it off. -/
theorem breaksAt_inTag (hname : IsTag name) (hdollar : c ≠ '$') (hend : ¬IsTag (name ++ [c])) :
    (inTag name).breaksAt c = true := by
  cases name with
  | nil =>
    have hletter : isLetter c = false := by
      rw [Bool.eq_false_iff]
      exact fun h => hend ⟨h, by simp⟩
    simp [breaksAt, inTag, hletter, hdollar]
  | cons a name =>
    have hword : isWordChar c = false := by
      rw [Bool.eq_false_iff]
      intro h
      apply hend
      refine ⟨hname.1, List.forall_mem_append.2 ⟨hname.2, ?_⟩⟩
      simpa [isTagChar, h] using hdollar
    simp [breaksAt, inTag, hword]

end Search

/-- A tag is taken up to its end. -/
theorem readFrom_inTag (h : IsTag (name ++ w)) (t : Text) :
    readFrom (.inTag name) (w ++ t) = readFrom (.inTag (name ++ w)) t := by
  induction w generalizing name with
  | nil => simp
  | cons c w ih =>
    have happ : name ++ c :: w = name ++ [c] ++ w := by simp
    rw [happ] at h ⊢
    obtain ⟨hbreaks, hcloses, hnext⟩ := Search.next_inTag h.of_append
    rw [List.cons_append, readFrom, hbreaks, hcloses, hnext]
    exact ih h

/-! ## Inside the string -/

namespace Search

/-- The characters from the last `$` on that repeat the delimiter. -/
def repetition (name : Text) : Option Nat → Text
  | none => []
  | some i => '$' :: name.take i

/-- The search behind the delimiter, the characters `body`, and a repetition of the delimiter up to
the place `place?`. -/
def inside (name body : Text) (place? : Option Nat) : Search :=
  ⟨delimiter name ++ body ++ repetition name place?, delimiter name, true, place?⟩

/-- The second `$` of the delimiter is not the first one of a repetition. -/
theorem next_inTag_dollar (name : Text) :
    (inTag name).breaksAt '$' = false ∧ (inTag name).closesAt '$' = false ∧
      (inTag name).next '$' = inside name [] none := by
  have hword : isWordChar '$' = true := by decide
  refine ⟨by simp [breaksAt, inTag, hword], by simp [closesAt, push, inTag], ?_⟩
  simp [next, push, inTag, inside, repetition, delimiter]

theorem breaksAt_inside (name body : Text) (place? : Option Nat) (c : Char) :
    (inside name body place?).breaksAt c = false := by
  simp [breaksAt, inside, delimiter]

theorem closesAt_inside_iff {place? : Option Nat} :
    (inside name body place?).closesAt c = true ↔ c = '$' ∧ place? = some name.length := by
  cases place? <;> simp [closesAt, push, inside, delimiter]

theorem next_inside_dollar (place? : Option Nat) :
    (inside name body place?).next '$' =
      inside name (body ++ repetition name place?) (some 0) := by
  simp [next, push, inside, repetition]

theorem next_inside_none (hc : c ≠ '$') :
    (inside name body none).next c = inside name (body ++ [c]) none := by
  simp [next, push, inside, repetition, hc]

theorem next_inside_of_ne (hc : c ≠ '$') (hne : (delimiter name)[i + 1]? ≠ some c) :
    (inside name body (some i)).next c =
      inside name (body ++ repetition name (some i) ++ [c]) none := by
  simp [next, push, inside, hc, hne, repetition]

theorem next_inside_of_eq (hc : c ≠ '$') (heq : name[i]? = some c) :
    (inside name body (some i)).next c = inside name body (some (i + 1)) := by
  have hnext : (delimiter name)[i + 1]? = some c := getElem?_delimiter_iff.2 (.inl heq)
  have htake : name.take (i + 1) = name.take i ++ [c] := by
    rw [List.take_add_one, heq, Option.toList_some]
  simp [next, push, inside, hc, hnext, repetition, htake]

end Search

/-! ## The end of the string -/

/-- What is read behind the delimiter and the characters `body`. -/
def found (name body t : Text) : Reading :=
  match Text.cutAt (delimiter name) t with
  | some (b, r) => .ofText .string (delimiter name ++ (body ++ b) ++ delimiter name) r
  | none => .dropped .unterminatedDollarQuote []

theorem found_delimiter (name body t : Text) :
    found name body (delimiter name ++ t) =
      .ofText .string (delimiter name ++ body ++ delimiter name) t := by
  simp [found, Text.cutAt_self]

theorem found_cons (h : ¬delimiter name <+: c :: t) :
    found name body (c :: t) = found name (body ++ [c]) t := by
  rw [found, Text.cutAt_cons_of_not_prefix h, found]
  cases Text.cutAt (delimiter name) t <;> simp

theorem not_prefix_of_ne (hc : c ≠ '$') : ¬delimiter name <+: c :: t := by
  rw [delimiter, List.cons_append, List.cons_prefix_cons]
  exact fun h => hc h.1.symm

theorem found_append (hw : '$' ∉ w) : found name body (w ++ t) = found name (body ++ w) t := by
  induction w generalizing body with
  | nil => simp
  | cons c w ih =>
    rw [List.mem_cons, not_or] at hw
    rw [List.cons_append, found_cons (not_prefix_of_ne (Ne.symm hw.1)), ih hw.2]
    simp

theorem IsTag.dollar_not_mem (h : IsTag name) : '$' ∉ name := fun hmem =>
  Bool.noConfusion (isTagChar_dollar.symm.trans (h.isTagChar '$' hmem))

/-- Where a comparison is given up, no delimiter begins at its `$` or behind that. -/
theorem found_repetition (hname : IsTag name) (hi : i ≤ name.length)
    (hne : (delimiter name)[i + 1]? ≠ some c) :
    found name body (Search.repetition name (some i) ++ c :: t) =
      found name (body ++ Search.repetition name (some i)) (c :: t) := by
  have hstart : ¬delimiter name <+: '$' :: (name.take i ++ c :: t) := by
    intro h
    have hlen : i + 1 < (delimiter name).length := by
      simp only [delimiter, List.length_cons, List.length_append, List.length_nil]
      omega
    have hget := h.getElem hlen
    apply hne
    rw [List.getElem?_eq_getElem hlen, hget]
    simp [hi]
  have htake : '$' ∉ name.take i := fun h => hname.dollar_not_mem (List.mem_of_mem_take h)
  rw [Search.repetition, List.cons_append, found_cons hstart, found_append htake]
  simp

/-- A repetition that the text breaks off is shorter than the delimiter. -/
theorem found_repetition_nil (name body : Text) (place? : Option Nat) :
    found name body (Search.repetition name place? ++ []) =
      .dropped .unterminatedDollarQuote [] := by
  have hlen : (Search.repetition name place?).length < (delimiter name).length := by
    cases place? with
    | none => exact Nat.succ_pos _
    | some i =>
      have htake : (name.take i).length ≤ name.length := List.length_take_le' i name
      simp only [Search.repetition, delimiter, List.length_cons, List.length_append,
        List.length_nil]
      omega
  have hcut : Text.cutAt (delimiter name) (Search.repetition name place?) = none :=
    (Text.cutAt_eq_none_iff delimiter_ne_nil).2 fun h => absurd h.length_le (by omega)
  rw [List.append_nil, found, hcut]

/-- The `$` that was missing from a repetition ends the string. -/
theorem found_of_closesAt {place? : Option Nat}
    (h : (Search.inside name body place?).closesAt c = true) (t : Text) :
    found name body (Search.repetition name place? ++ c :: t) =
      .ofText .string ((Search.inside name body place?).value ++ [c]) t := by
  obtain ⟨rfl, rfl⟩ := Search.closesAt_inside_iff.1 h
  have hwhole : Search.repetition name (some name.length) ++ '$' :: t = delimiter name ++ t := by
    simp [Search.repetition, delimiter]
  rw [hwhole, found_delimiter]
  simp [Search.inside, Search.repetition, delimiter]

/-- Any other character is put to the repetition, or to the characters of the string with the
repetition in front of it; the end of the string stays where it is. -/
theorem exists_next_inside (hname : IsTag name) {place? : Option Nat}
    (hplace : ∀ i ∈ place?, i ≤ name.length)
    (hcloses : ¬(Search.inside name body place?).closesAt c = true) (t : Text) :
    ∃ body' place?', (Search.inside name body place?).next c = .inside name body' place?' ∧
      (∀ i ∈ place?', i ≤ name.length) ∧
      found name body (Search.repetition name place? ++ c :: t) =
        found name body' (Search.repetition name place?' ++ t) := by
  cases place? with
  | none =>
    by_cases hc : c = '$'
    · subst hc
      exact ⟨_, some 0, Search.next_inside_dollar none, by simp, by simp [Search.repetition]⟩
    · exact ⟨_, none, Search.next_inside_none hc, by simp, found_cons (not_prefix_of_ne hc)⟩
  | some i =>
    have hi : i ≤ name.length := hplace i rfl
    by_cases hc : c = '$'
    · -- A tag holds no `$`, so this one can only end the delimiter, and it does not.
      subst hc
      have hne : (delimiter name)[i + 1]? ≠ some '$' := by
        rw [Ne, getElem?_delimiter_iff, not_or]
        exact ⟨fun h => hname.dollar_not_mem (List.mem_of_getElem? h),
          fun h => hcloses (Search.closesAt_inside_iff.2 ⟨rfl, by rw [h.1]⟩)⟩
      refine ⟨_, some 0, Search.next_inside_dollar (some i), by simp, ?_⟩
      rw [found_repetition hname hi hne]
      simp [Search.repetition]
    · by_cases heq : name[i]? = some c
      · have hlt : i + 1 ≤ name.length := (List.getElem?_eq_some_iff.1 heq).1
        refine ⟨_, some (i + 1), Search.next_inside_of_eq hc heq, by simpa using hlt, ?_⟩
        simp [Search.repetition, List.take_add_one, heq]
      · have hne : (delimiter name)[i + 1]? ≠ some c := by
          simp [getElem?_delimiter_iff, heq, hc]
        refine ⟨_, none, Search.next_inside_of_ne hc hne, by simp, ?_⟩
        rw [found_repetition hname hi hne, found_cons (not_prefix_of_ne hc)]
        simp [Search.repetition]

/-- The string ends where the delimiter stands first, counted from the `$` of the comparison under
way. -/
theorem readFrom_inside (hname : IsTag name) {place? : Option Nat}
    (hplace : ∀ i ∈ place?, i ≤ name.length) (body t : Text) :
    readFrom (.inside name body place?) t =
      found name body (Search.repetition name place? ++ t) := by
  induction t generalizing body place? with
  | nil => exact (found_repetition_nil name body place?).symm
  | cons c t ih =>
    rw [readFrom, Search.breaksAt_inside, if_neg Bool.false_ne_true]
    by_cases hcloses : (Search.inside name body place?).closesAt c = true
    · rw [if_pos hcloses, found_of_closesAt hcloses]
    · obtain ⟨body', place?', hnext, hplace', hfound⟩ := exists_next_inside hname hplace hcloses t
      rw [if_neg hcloses, hnext, ih hplace', hfound]

/-- A dollar-quoted string ends at the first place where its delimiter stands again. -/
theorem read_eq_rule (t : Text) : read t = rule t := by
  obtain ⟨name, behind, htag⟩ : ∃ name behind, tag t = (name, behind) := ⟨_, _, rfl⟩
  obtain ⟨rfl, hname, hend⟩ := tag_eq_iff.1 htag
  have hstart : IsTag ([] ++ name) := hname
  have hread : read (name ++ behind) = readFrom (.inTag name) behind :=
    readFrom_inTag hstart behind
  rw [hread]
  simp only [rule, htag]
  cases behind with
  | nil => rfl
  | cons c r =>
    by_cases hc : c = '$'
    · subst hc
      obtain ⟨hbreaks, hcloses, hnext⟩ := Search.next_inTag_dollar name
      rw [readFrom, hbreaks, hcloses, hnext]
      exact readFrom_inside hname (by simp) [] r
    · rw [readFrom, Search.breaksAt_inTag hname hc (hend c rfl)]
      simp [hc]

end CompactSql.DollarQuotation
