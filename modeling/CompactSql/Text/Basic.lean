/-!
# Text

A text is the list of its characters, and a position in it counts characters from its start.

## Main definitions

* `Text` — a list of characters.
* `Text.behind` — a text without the character that is known to stand at its front.
* `Text.cutAt` — a text cut at the first place where a delimiter stands.

`eq_of_cutAt` says that the two parts of a cut make up the text with the delimiter between them, so
that what is behind it is never longer than the text itself.
-/

namespace CompactSql

/-- A text, as the list of its characters. -/
abbrev Text := List Char

namespace Text

/-- What stands behind the first character of a text, which is known to be `q`. -/
def behind {q : Char} : (t : Text) → t.head? = some q → Text
  | _ :: r, _ => r

theorem cons_behind {q : Char} : ∀ (t : Text) (h : t.head? = some q), q :: t.behind h = t
  | _ :: _, rfl => rfl

/-- A character less is left of a text than it has. -/
theorem suffix_behind {q : Char} (t : Text) (h : t.head? = some q) : t.behind h <:+ t :=
  ⟨[q], t.cons_behind h⟩

/-- The text before and the text behind the first place where `delimiter` stands. -/
def cutAt (delimiter : Text) : Text → Option (Text × Text)
  | [] => if delimiter.isEmpty then some ([], []) else none
  | c :: cs =>
    if delimiter.isPrefixOf (c :: cs) then some ([], (c :: cs).drop delimiter.length)
    else (cutAt delimiter cs).map fun (before, behind) => (c :: before, behind)

/-- Nothing is lost by a cut. -/
theorem eq_of_cutAt {delimiter t before behind : Text}
    (h : cutAt delimiter t = some (before, behind)) : before ++ delimiter ++ behind = t := by
  induction t generalizing before with
  | nil =>
    simp only [cutAt] at h
    split at h <;> simp_all
  | cons c cs ih =>
    simp only [cutAt] at h
    split at h
    · rename_i hd
      obtain ⟨r, hr⟩ := List.isPrefixOf_iff_prefix.1 hd
      simp only [Option.some.injEq, Prod.mk.injEq] at h
      obtain ⟨rfl, rfl⟩ := h
      rw [← hr]
      simp
    · obtain ⟨⟨b, r⟩, hcut, heq⟩ := Option.map_eq_some_iff.1 h
      simp only [Prod.mk.injEq] at heq
      obtain ⟨rfl, rfl⟩ := heq
      simpa using ih hcut

/-- What is behind a cut is an end of the text. -/
theorem suffix_of_cutAt {delimiter t before behind : Text}
    (h : cutAt delimiter t = some (before, behind)) : behind <:+ t :=
  ⟨before ++ delimiter, eq_of_cutAt h⟩

end Text

end CompactSql
