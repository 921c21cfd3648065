import CompactSql.Proofs.Layout.Cells
import CompactSql.Proofs.Lexeme.ReadBack
import CompactSql.Proofs.Scan.Tokens

/-!
# Tokens on their own

A token does not owe its kind to what stood around it: its lexeme alone is scanned as the same
token. In lowercase, as a compact form has it, a word on its own is still one word of the same kind,
unless there is a `İ` in it.

## Main statements

* `scan_lexeme_append_space` — a lexeme and a space in front of any text.
* `scan_flatMap_lexeme` — a row of lexemes with a space behind each of them.
* `lexeme_is_one_token` — a lexeme on its own.
* `scan_lowercase_of_dottedI` — a word with a `İ`, in lowercase.
* `lowercase_word_is_one_token` — which words are one word in lowercase.
-/

namespace CompactSql

variable {ks : Keywords} {c : Char} {w t r : Text} {tok : Token} {ts : List Token} {f : Fault}

/-! ## Lexemes -/

/-- A space ends every lexeme. -/
theorem scan_lexeme_append_space (h : tok.Lexical ks) (hk : tok.kind ≠ .comment) (r : Text) :
    scan ks (tok.lexeme ++ ' ' :: r) =
      tok :: if tok.kind = .semicolon then [] else scan ks r := by
  obtain ⟨c, t, htext, hstep⟩ :=
    h.exists_step hk (r := ' ' :: r) (endsBefore_space tok.kind)
  rw [htext]
  split
  · rename_i hsemicolon
    exact scan_of_semicolon hstep hsemicolon
  · rename_i hsemicolon
    rw [scan_of_token hstep hsemicolon, scan_space]

/-- Lexemes with a space behind each of them are scanned one by one, as long as none but the last is
a semicolon. -/
theorem scan_flatMap_lexeme (hts : ∀ tok ∈ ts, tok.Lexical ks)
    (hk : ∀ tok ∈ ts, tok.kind ≠ .comment)
    (hsemicolon : ts.Pairwise fun tok _ => tok.kind ≠ .semicolon) :
    scan ks (ts.flatMap fun tok => tok.lexeme ++ [' ']) = ts := by
  induction ts with
  | nil => exact scan_nil ks
  | cons tok ts ih =>
    rw [List.forall_mem_cons] at hts hk
    obtain ⟨hfirst, hrest⟩ := List.pairwise_cons.1 hsemicolon
    rw [List.flatMap_cons, List.append_assoc, List.singleton_append,
      scan_lexeme_append_space hts.1 hk.1, ih hts.2 hk.2 hrest]
    split
    · -- Nothing stands behind a semicolon.
      rename_i hlast
      rw [List.eq_nil_iff_forall_not_mem.2 fun tok' htok' => hfirst tok' htok' hlast]
    · rfl

/-- Every lexeme but that of a comment is scanned as its own token. -/
theorem lexeme_is_one_token (ks : Keywords) (t : Text) (tok : Token) (htok : tok ∈ scan ks t)
    (hk : tok.kind ≠ .comment) : scan ks (tok.lexeme ++ [' ']) = [tok] := by
  have hlex : tok.Lexical ks := lexical_of_mem_scan tok htok
  have hrow : scan ks ([tok].flatMap fun tok => tok.lexeme ++ [' ']) = [tok] :=
    scan_flatMap_lexeme (List.forall_mem_singleton.2 hlex) (List.forall_mem_singleton.2 hk)
      (List.pairwise_singleton _ tok)
  rwa [List.flatMap_singleton] at hrow

/-- An operator that was read in front of a digit, and a string constant whose letter was in upper
case. -/
theorem lexeme_is_one_token_operator :
    (.ofText .operator "@-".toList ∈ scan .empty "1@-2".toList ∧
      scan .empty "@- ".toList = [.ofText .operator "@-".toList]) ∧
    .ofText .string "u&'a'''".toList ∈ scan .empty "1||U&'a'''".toList ∧
      scan .empty "u&'a''' ".toList = [.ofText .string "u&'a'''".toList] := by
  have hoperator : .ofText .operator "@-".toList ∈ scan .empty "1@-2".toList := by decide +kernel
  have hstring : .ofText .string "u&'a'''".toList ∈ scan .empty "1||U&'a'''".toList := by
    decide +kernel
  exact ⟨⟨hoperator, lexeme_is_one_token .empty _ _ hoperator nofun⟩, hstring,
    lexeme_is_one_token .empty _ _ hstring nofun⟩

/-! ## Words in lowercase -/

theorem scan_of_dropped (h : step ks c t = ⟨.dropped f, r⟩) : scan ks (c :: t) = scan ks r := by
  rw [scan_cons, h]
  rfl

theorem scan_of_word (h : step ks c t = .ofText (wordKind ks w) w r) :
    scan ks (c :: t) = .ofText (wordKind ks w) w :: scan ks r :=
  scan_of_token h (Token.wordKind_ne rfl w)

/-- A combining dot begins nothing, and is left out. -/
theorem scan_combiningDot (ks : Keywords) (t : Text) : scan ks ('\u0307' :: t) = scan ks t := by
  have hbegins : beginsWord '\u0307' = false := by decide
  have hform : Form.ofChars '\u0307' t.head? = .unexpected := by
    simp [Form.ofChars, Form.ofWordChar, hbegins]
    decide
  exact scan_of_dropped (by rw [step_eq_rule, hform]; rfl)

theorem isWordChar_combiningDot : isWordChar '\u0307' = false := by decide

/-- A word without a `İ` is one word in lowercase. -/
theorem scan_lowercase (hc : beginsWord c = true) (hw : ∀ d ∈ w, isWordChar d = true)
    (hI : 'İ' ∉ c :: w) :
    scan ks (lowercase (c :: w)) = [.ofText (wordKind ks (c :: w)) (lowercase (c :: w))] := by
  obtain ⟨d, v, hlower, hd, hv⟩ := exists_lowercase_word hc hw hI
  have hstep : step ks d (v ++ []) = .ofText (wordKind ks (d :: v)) (d :: v) [] :=
    step_word hd hv rfl
  rw [List.append_nil] at hstep
  rw [hlower, scan_of_word hstep, scan_nil, ← hlower, Token.wordKind_lowercase]

/-- A word with a `İ` falls apart in lowercase: the scan ends the word at the combining dot of the
first one, leaves the dot out and goes on behind it. -/
theorem scan_lowercase_of_dottedI (ks : Keywords) (hc : beginsWord c = true)
    (hw : ∀ d ∈ w, isWordChar d = true) (hI : 'İ' ∈ c :: w) :
    ∃ v r, lowercase (c :: w) = v ++ '\u0307' :: r ∧ '\u0307' ∉ v ∧
      scan ks (lowercase (c :: w)) = .ofText (wordKind ks v) v :: scan ks r := by
  obtain ⟨d, v, r, hlower, hd, hv⟩ := exists_lowercase_of_dottedI hc hw hI
  refine ⟨d :: v, r, hlower, ?_, ?_⟩
  · intro hdot
    rcases List.mem_cons.1 hdot with rfl | hdot
    · exact absurd hd (by decide)
    · exact Bool.noConfusion (isWordChar_combiningDot.symm.trans (hv _ hdot))
  · have hend : Kind.identifier.endsBefore ('\u0307' :: r).head? = true := by
      simp [Kind.endsBefore, isWordChar_combiningDot]
    rw [hlower, List.cons_append, scan_of_word (step_word hd hv hend), scan_combiningDot]

/-- In lowercase, as it is written in a compact form, a word is one word of the same kind, unless
there is a `İ` in it. A word with a `İ` is cut at the combining dot that its lowercase form has
there, and the dot is lost. -/
theorem lowercase_word_is_one_token (ks : Keywords) (t : Text) (tok : Token)
    (htok : tok ∈ scan ks t) (hk : tok.kind.isWord = true) :
    tok.written = lowercase tok.lexeme ∧
      (scan ks tok.written = [.ofText tok.kind tok.written] ↔ 'İ' ∉ tok.lexeme) ∧
      ('İ' ∈ tok.lexeme → ∃ v r, tok.written = v ++ '\u0307' :: r ∧ '\u0307' ∉ v ∧
        scan ks tok.written = .ofText (wordKind ks v) v :: scan ks r) := by
  obtain ⟨c, w, rfl, hc, hw⟩ := (lexical_of_mem_scan tok htok).exists_of_isWord hk
  rw [Token.written_word]
  refine ⟨rfl, ⟨fun hscan hI => ?_, scan_lowercase hc hw⟩, scan_lowercase_of_dottedI ks hc hw⟩
  -- The text of the first token has no combining dot, and the lowercase form has one.
  obtain ⟨v, r, hlower, hdot, hscan'⟩ := scan_lowercase_of_dottedI ks hc hw hI
  rw [hscan'] at hscan
  have htext := congrArg Token.text? (List.cons.inj hscan).1
  obtain rfl : v = lowercase (c :: w) := Option.some.inj htext
  rw [hlower] at hdot
  simp at hdot

/-- A keyword that keeps its kind, and an identifier that is cut. -/
theorem lowercase_word_is_one_token_dotted :
    let ks : Keywords := .ofList ["select".toList]
    (.ofText .keyword "SELECT".toList ∈ scan ks "SELECT fİx".toList ∧
      scan ks "select".toList = [.ofText .keyword "select".toList]) ∧
    .ofText .identifier "fİx".toList ∈ scan ks "SELECT fİx".toList ∧
      scan ks "fi\u0307x".toList ≠ [.ofText .identifier "fi\u0307x".toList] := by
  intro ks
  have hselect : .ofText .keyword "SELECT".toList ∈ scan ks "SELECT fİx".toList := by
    decide +kernel
  have hname : .ofText .identifier "fİx".toList ∈ scan ks "SELECT fİx".toList := by
    decide +kernel
  obtain ⟨-, hiff, -⟩ := lowercase_word_is_one_token ks _ _ hselect rfl
  obtain ⟨-, hiff', -⟩ := lowercase_word_is_one_token ks _ _ hname rfl
  have hlower : (Token.ofText .keyword "SELECT".toList).written = "select".toList := by
    decide
  have hlower' : (Token.ofText .identifier "fİx".toList).written = "fi\u0307x".toList := by
    decide
  rw [hlower] at hiff
  rw [hlower'] at hiff'
  exact ⟨⟨hselect, hiff.2 (by decide)⟩, hname, fun hscan => absurd (hiff'.1 hscan) (by decide)⟩

end CompactSql
