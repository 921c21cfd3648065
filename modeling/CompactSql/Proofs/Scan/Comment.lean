import CompactSql.Proofs.Lexeme.Folding
import CompactSql.Proofs.Lexeme.LineEnding

/-!
# Comments in a statement

Where a comment ends, and what its text is. A block comment goes up to the first mark that closes
one, and is made of the words before it; without that mark nothing is made of the rest of the
statement. A line comment goes up to the end of its line, and there always is one.

## Main definitions

* `Comment.ReadsBlock` — what is read behind the opening of a block comment.
* `Comment.EndsLine` — a text as its first line and what follows the line.

## Main statements

* `comments_end_at_first_mark` — a step at the beginning of a comment.
-/

namespace CompactSql.Comment

variable {t body rest : Text} {out : Reading}

/-! ## Block comments -/

/-- What is read behind the opening of a block comment. -/
inductive ReadsBlock (t : Text) : Reading → Prop where
  /-- The closing mark stands in the text: the comment ends where it does so first. -/
  | closed {body rest : Text} (hfirst : Text.FirstAt ['*', '/'] t body rest) :
      ReadsBlock t (.ofText .comment ([' '].intercalate (words body)) rest)
  /-- The closing mark does not stand in the text, which is all left out. -/
  | unclosed (hno : ¬['*', '/'] <:+: t) : ReadsBlock t (.dropped .unterminatedBlockComment [])

theorem mark_ne_nil : ['*', '/'] ≠ [] := List.cons_ne_nil _ _

theorem readBlock_eq_iff : readBlock t = out ↔ ReadsBlock t out := by
  constructor
  · rintro rfl
    rw [readBlock]
    split
    · rename_i body rest hcut
      rw [foldBlock_eq]
      exact .closed (Text.firstAt_of_cutAt hcut)
    · rename_i hcut
      exact .unclosed ((Text.cutAt_eq_none_iff mark_ne_nil).1 hcut)
  · intro h
    cases h with
    | closed hfirst =>
      rw [readBlock, (Text.cutAt_eq_some_iff mark_ne_nil).2 hfirst, ← foldBlock_eq]
    | unclosed hno => rw [readBlock, (Text.cutAt_eq_none_iff mark_ne_nil).2 hno]

/-! ## Line comments -/

/-- The text `t` is its first line `body`, the end of the line and `rest`, or a last line alone. -/
inductive EndsLine : (t body rest : Text) → Prop where
  | newline {body : Text} (hbody : '\n' ∉ body) (rest : Text) :
      EndsLine (body ++ '\n' :: rest) body rest
  | last {body : Text} (hbody : '\n' ∉ body) : EndsLine body body []

theorem exists_endsLine (t : Text) : ∃ body rest, EndsLine t body rest := by
  by_cases h : '\n' ∈ t
  · obtain ⟨body, rest, rfl, hbody⟩ := List.eq_append_cons_of_mem h
    exact ⟨body, rest, .newline hbody rest⟩
  · exact ⟨t, [], .last h⟩

theorem EndsLine.not_mem (h : EndsLine t body rest) : '\n' ∉ body := by
  cases h <;> assumption

theorem EndsLine.readLine_eq (h : EndsLine t body rest) :
    readLine t = .ofText .comment (foldLine body) rest := by
  cases h with
  | newline hbody rest => exact readLine_append hbody fun c hc => (Option.mem_some.1 hc).symm
  | last hbody => simpa using readLine_append (r := []) hbody nofun

theorem EndsLine.not_mem_foldLine (h : EndsLine t body rest) : '\n' ∉ foldLine body := by
  intro hmem
  obtain hspace | hmem := mem_of_mem_foldLine hmem
  · exact absurd hspace (by decide)
  · exact h.not_mem hmem

/-! ## Steps -/

/-- A step at `/*` makes a comment of the words before the first `*/`, if there is one, and ends
the scan otherwise. A step at `--` makes a comment of the line, whose text keeps all but spaces and
has no spaces at its ends or side by side. -/
theorem comments_end_at_first_mark (ks : Keywords) :
    (∀ t out, step ks '/' ('*' :: t) = out ↔ ReadsBlock t out) ∧
      ∀ t, ∃ body rest, EndsLine t body rest ∧
        step ks '-' ('-' :: t) = .ofText .comment (foldLine body) rest ∧
        '\n' ∉ foldLine body ∧ Folded (foldLine body) ∧ ink (foldLine body) = ink body := by
  constructor
  · intro t out
    have hstep : step ks '/' ('*' :: t) = readBlock t :=
      step_of_opens (f := .blockComment) ⟨rfl, rfl⟩ (by simp)
    rw [hstep, readBlock_eq_iff]
  · intro t
    obtain ⟨body, rest, hline⟩ := exists_endsLine t
    have hstep : step ks '-' ('-' :: t) = readLine t :=
      step_of_opens (f := .lineComment) ⟨rfl, rfl⟩ (by simp)
    exact ⟨body, rest, hline, hstep.trans hline.readLine_eq, hline.not_mem_foldLine,
      folded_foldLine body, ink_foldLine body⟩

end CompactSql.Comment
