import CompactSql.Text.Blank
import Mathlib.Data.List.Basic

/-!
# The words of a text

A blank parts the words before it from those behind it, so a text that is put together from others
with blanks between them has the words of all of them.

## Main statements

* `words_eq_nil_iff` — a text has no words exactly if it holds blanks only.
* `words_append_blank`, `words_intercalate` — the words of two texts, and of a list of texts.
-/

namespace CompactSql.Text

variable {b c : Char} {t : Text}

theorem fields_ne_nil (t : Text) : fields t ≠ [] := by
  fun_cases fields t <;> exact List.cons_ne_nil _ _

theorem fields_of_not_isBlank (hc : isBlank c = false) (t : Text) :
    ∃ field others, fields t = field :: others ∧ fields (c :: t) = (c :: field) :: others := by
  obtain ⟨field, others, h⟩ := List.exists_cons_of_ne_nil (fields_ne_nil t)
  exact ⟨field, others, h, by simp [fields, hc, h]⟩

theorem fields_append_blank (hb : isBlank b = true) (t u : Text) :
    fields (t ++ b :: u) = fields t ++ fields u := by
  induction t with
  | nil => simp [fields, hb]
  | cons c t ih =>
    cases hc : isBlank c with
    | true => simp [fields, hc, ih]
    | false =>
      obtain ⟨field, others, ht, hcons⟩ := fields_of_not_isBlank hc t
      rw [hcons, List.cons_append, fields, hc, ih, ht]
      rfl

@[simp] theorem words_nil : words [] = [] := rfl

theorem words_append_blank (hb : isBlank b = true) (t u : Text) :
    words (t ++ b :: u) = words t ++ words u := by
  rw [words, fields_append_blank hb, List.filter_append]
  rfl

/-- Texts with spaces between them have the words of all of them. -/
theorem words_intercalate (ts : List Text) : words ([' '].intercalate ts) = ts.flatMap words := by
  induction ts with
  | nil => rfl
  | cons t ts ih =>
    cases ts with
    | nil => simp [List.intercalate_singleton]
    | cons u ts =>
      rw [List.flatMap_cons, ← ih, List.intercalate_cons_cons, List.append_assoc,
        List.singleton_append, words_append_blank (by decide)]

theorem words_eq_nil_iff : words t = [] ↔ t.allBlank = true := by
  induction t with
  | nil => exact iff_of_true rfl rfl
  | cons c t ih =>
    cases hc : isBlank c with
    | true =>
      rw [← List.nil_append (c :: t), words_append_blank hc, words_nil, List.nil_append, ih]
      simp [allBlank, hc]
    | false =>
      obtain ⟨field, others, -, hcons⟩ := fields_of_not_isBlank hc t
      simp [words, hcons, allBlank, hc]

end CompactSql.Text
