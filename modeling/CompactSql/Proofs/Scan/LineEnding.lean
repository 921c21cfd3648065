import CompactSql.Compact
import CompactSql.Proofs.Lexeme.LineEnding
import CompactSql.Proofs.Scan.Tokens

/-!
# Scans and line ends

A statement without quotes and dollar signs has the same tokens, comments included, whether its
lines end in a line feed or in a carriage return and a line feed.

## Main statements

* `scan_crlf` — the tokens of a statement.
* `scan_ignores_line_ends` — the tokens and the compact form.
-/

namespace CompactSql

open Text (crlf Unquoted)

variable {ks : Keywords} {c : Char} {t u : Text}

/-- What a step leaves of a text without quotations has none either. -/
theorem unquoted_of_suffix (h : Unquoted t) (hu : u <:+ t) : Unquoted u :=
  fun c hc => h c (hu.subset hc)

/-- The end of a line is no token: a carriage return is left out, a line feed passed over. -/
theorem scan_crlf_newline (ks : Keywords) (t : Text) :
    scan ks (crlf ('\n' :: t)) = scan ks (crlf t) := by
  have hform : Form.ofChars '\r' (some '\n') = .unexpected := by decide
  have hreturn : step ks '\r' ('\n' :: crlf t) =
      .dropped (.unexpectedCharacter '\r') ('\n' :: crlf t) := by
    rw [step_eq_rule, List.head?_cons, hform]
    rfl
  have hline : scan ks ('\n' :: crlf t) = scan ks (crlf t) := scan_of_blank rfl
  rw [Text.crlf_newline, scan_cons, hreturn]
  exact hline

/-- The tokens of a statement without quotations do not depend on its line ends. -/
theorem scan_crlf (ks : Keywords) (h : Unquoted t) : scan ks (crlf t) = scan ks t := by
  induction t using step_induction ks with
  | nil => rfl
  | cons c t ih =>
    have hstep := step_crlf h ks
    have hrest : Unquoted (step ks c t).rest := unquoted_of_suffix h
      ((suffix_step ks c t).trans (List.suffix_cons c t))
    by_cases hc : c = '\n'
    · subst hc
      rw [scan_crlf_newline, scan_of_blank (c := '\n') (r := t) rfl]
      exact ih rfl hrest
    · rw [Text.crlf_cons hc, scan_cons, scan_cons, hstep]
      cases hterm : (step ks c t).outcome.isTerminator with
      | true => simp [Reading.crlf, hterm]
      | false => simp [Reading.crlf, hterm, ih hterm hrest]

/-- Line ends do not matter outside quotations. In a statement without quotes and dollar signs,
line feeds may be written as a carriage return and a line feed: its tokens are the same, with the
texts of its comments, and so are its compact forms. -/
theorem scan_ignores_line_ends (ks : Keywords) (t : Text) (h : Unquoted t) :
    scan ks (crlf t) = scan ks t ∧ ∀ o, compact o (crlf t) = compact o t :=
  ⟨scan_crlf ks h, fun o => by rw [compact, scan_crlf _ h, compact]⟩

/-- A statement of four lines, with both kinds of comments and an operator at the end of one. -/
theorem scan_ignores_line_ends_comments :
    let t : Text := "select --a\n1 +\n/* b\n c */ 2.\n;".toList
    Unquoted t ∧ scan .reserved (crlf t) = scan .reserved t ∧
      ∀ o, compact o (crlf t) = compact o t := by
  intro t
  have h : Unquoted t := by decide +kernel
  exact ⟨h, scan_ignores_line_ends .reserved t h⟩

end CompactSql
