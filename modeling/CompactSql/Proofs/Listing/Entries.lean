import CompactSql.Listing
import CompactSql.Proofs.Layout.NormalForm
import CompactSql.Proofs.Lexeme.Folding
import CompactSql.Proofs.Scan.Classification

/-!
# The entries of a listing

An entry is the code of a kind, the text of the token behind a tab, and a newline. Texts are listed
as they stand, so that the text of a quotation may have newlines in it and look like further
entries. Still no entry is the beginning of another one: a text that is no quotation ends at the
newline behind it, and a quotation where its own closing mark stands.

## Main definitions

* `Token.entry` — the entry of a token without its newline.
* `Token.OnOneLine` — a token whose text has no newline.

## Main statements

* `Token.Lexical.onOneLine` — tokens that are no quotations.
* `lines_of_listing` — the lines of a listing.
* `Token.Lexical.line_append_inj` — entries can be told apart, whatever follows them.
* `listing_determines_tokens` — a listing is that of one list of tokens.
-/

namespace CompactSql

variable {ks ks' : Keywords} {tok tok' : Token} {t r r' : Text}

/-! ## Entries -/

namespace Token

/-- The text of a token as it stands in an entry, behind a tab; nothing if it has no text. -/
def field (tok : Token) : Text :=
  match tok.text? with | some text => '\t' :: text | none => []

/-- The entry of a token in a listing, without the newline that ends it. -/
def entry (tok : Token) : Text := tok.kind.code ++ tok.field

theorem line_append (tok : Token) (r : Text) : tok.line ++ r = tok.entry ++ '\n' :: r :=
  List.append_assoc ..

theorem field_of_text {text : Text} (h : tok.text? = some text) : tok.field = '\t' :: text := by
  rw [field, h]

theorem field_of_no_text (h : tok.text? = none) : tok.field = [] := by
  rw [field, h]

end Token

theorem listing_cons (tok : Token) (ts : List Token) :
    listing (tok :: ts) = tok.entry ++ '\n' :: listing ts :=
  tok.line_append (listing ts)

theorem Kind.code_injective : Function.Injective code := by
  have hall : ∀ a ∈ all, ∀ b ∈ all, a.code = b.code → a = b := by decide
  exact fun a b => hall a a.mem_all b b.mem_all

/-- The characters of a code are no others than can stand in front of a tab or a newline. -/
theorem Kind.ne_of_mem_code {k : Kind} {c : Char} (h : c ∈ k.code) :
    (c != '\t' && c != '\n') = true := by
  have hall : (k.code.all fun c => c != '\t' && c != '\n') = true := by cases k <;> rfl
  exact List.all_eq_true.1 hall c h

/-! ## Tokens on one line -/

/-- The text of the token, if it has one, has no newline. -/
def Token.OnOneLine (tok : Token) : Prop := ∀ text ∈ tok.text?, '\n' ∉ text

namespace Comment

/-- The only space that is left in the text of a block comment is the one between words. -/
theorem mem_foldRuns_one {c : Char} (h : c ∈ foldRuns 1 t) : c = ' ' ∨ isSpace c = false := by
  fun_induction foldRuns 1 t with
  | case1 => exact absurd h List.not_mem_nil
  | case2 d t hd ih =>
    have hrun : foldRun 1 (d :: t.takeWhile isSpace) = [' '] := by simp [foldRun]
    rw [hrun, List.mem_append, List.mem_singleton] at h
    exact h.elim .inl ih
  | case3 d t hd ih => grind

theorem newline_not_mem_foldBlock (t : Text) : '\n' ∉ foldBlock t := by
  rw [foldBlock_eq_foldRuns]
  exact fun h => absurd (mem_foldRuns_one h) (by decide)

theorem newline_not_mem_foldLine (h : '\n' ∉ t) : '\n' ∉ foldLine t := fun hmem =>
  (mem_of_mem_foldLine hmem).elim (by decide) h

end Comment

namespace Token

/-- What is written for a token that is neither a word nor a comment is its text. Words are written
in lower case and comments with their marks, so that these are looked at on their own. -/
theorem Lexical.onOneLine (h : tok.Lexical ks) (hq : tok.kind.isQuotation = false) :
    tok.OnOneLine := by
  intro text htext
  cases hword : tok.kind.isWord with
  | true =>
    obtain ⟨c, w, rfl, hc, hw⟩ := h.exists_of_isWord hword
    obtain rfl : c :: w = text := by simpa using htext
    intro hmem
    have hletter : isWordChar '\n' = true := by
      obtain rfl | hmem := List.mem_cons.1 hmem
      · exact isWordChar_of_beginsWord hc
      · exact hw _ hmem
    exact absurd hletter (by decide)
  | false =>
    by_cases hcomment : tok.kind = .comment
    · cases h with
      | lineComment hb =>
        obtain rfl : Comment.foldLine _ = text := by simpa using htext
        exact Comment.newline_not_mem_foldLine hb
      | blockComment hb =>
        obtain rfl : Comment.foldBlock _ = text := by simpa using htext
        exact Comment.newline_not_mem_foldBlock _
      | word => exact absurd hcomment (wordKind_ne rfl _)
      | bare => cases htext
      | bitString form => cases form <;> cases hcomment
      | _ => cases hcomment
    · have hwritten : tok.written = text := by
        rw [h.written_eq_lexeme hcomment hword, lexeme, Option.mem_def.1 htext]
        rfl
      intro hmem
      exact h.not_mem_gaps hcomment hq '\n' (hwritten ▸ hmem) (by decide)

end Token

/-! ## Lines -/

theorem length_splitOn (c : Char) (t : Text) : (t.splitOn c).length = t.count c + 1 := by
  induction t with
  | nil => simp
  | cons d t ih =>
    rw [List.splitOn_eq_splitOnP] at ih ⊢
    rw [List.splitOnP_cons_eq_if_modifyHead, List.count_cons]
    cases hd : d == c <;> simp [ih]

theorem Token.count_entry (tok : Token) :
    tok.entry.count '\n' = (tok.text?.getD []).count '\n' := by
  have hcode : tok.kind.code.count '\n' = 0 :=
    List.count_eq_zero.2 fun hmem => absurd (Kind.ne_of_mem_code hmem) (by decide)
  rw [entry, List.count_append, hcode, Nat.zero_add]
  cases htext : tok.text? <;> simp [field, htext]

theorem Token.onOneLine_iff (tok : Token) :
    tok.OnOneLine ↔ (tok.text?.getD []).count '\n' = 0 := by
  cases htext : tok.text? <;> simp [OnOneLine, htext, List.count_eq_zero]

/-- A listing has a newline for each token, besides those in the texts. -/
theorem count_listing (ts : List Token) :
    (listing ts).count '\n' =
      ts.length + (ts.flatMap fun tok => tok.text?.getD []).count '\n' := by
  induction ts with
  | nil => rfl
  | cons tok ts ih =>
    rw [listing_cons, List.count_append, List.count_cons_self, tok.count_entry, ih,
      List.flatMap_cons, List.count_append, List.length_cons]
    omega

theorem count_listing_eq_length_iff (ts : List Token) :
    (listing ts).count '\n' = ts.length ↔ ∀ tok ∈ ts, tok.OnOneLine := by
  simp only [count_listing, Nat.add_eq_left, List.count_eq_zero, List.mem_flatMap, not_exists,
    not_and, Token.onOneLine_iff]

theorem splitOn_listing {ts : List Token} (h : ∀ tok ∈ ts, tok.OnOneLine) :
    (listing ts).splitOn '\n' = ts.map Token.entry ++ [[]] := by
  induction ts with
  | nil => rfl
  | cons tok ts ih =>
    rw [List.forall_mem_cons] at h
    have hentry : '\n' ∉ tok.entry := by
      rw [← List.count_eq_zero, tok.count_entry, ← tok.onOneLine_iff]
      exact h.1
    rw [listing_cons, List.splitOn_append_cons_self_of_not_mem hentry, ih h.2]
    rfl

theorem splitOn_listing_iff (ts : List Token) :
    (listing ts).splitOn '\n' = ts.map Token.entry ++ [[]] ↔ ∀ tok ∈ ts, tok.OnOneLine := by
  refine ⟨fun h => ?_, splitOn_listing⟩
  have hlength := congrArg List.length h
  rw [length_splitOn] at hlength
  exact (count_listing_eq_length_iff ts).1 (by simpa using hlength)

/-- Only the text of a quotation can have newlines. The lines of a listing are the entries of the
tokens, one by one, exactly if no text has any; every newline in a text makes a line more. -/
theorem lines_of_listing (ks : Keywords) (t : Text) :
    let ts := scan ks t
    (∀ tok ∈ ts, tok.kind.isQuotation = false → tok.OnOneLine) ∧
      (listing ts).count '\n' =
        ts.length + (ts.flatMap fun tok => tok.text?.getD []).count '\n' ∧
      ((listing ts).count '\n' = ts.length ↔ ∀ tok ∈ ts, tok.OnOneLine) ∧
      ((listing ts).splitOn '\n' = ts.map Token.entry ++ [[]] ↔ ∀ tok ∈ ts, tok.OnOneLine) := by
  intro ts
  exact ⟨fun tok htok => (lexical_of_mem_scan tok htok).onOneLine, count_listing ts,
    count_listing_eq_length_iff ts, splitOn_listing_iff ts⟩

/-- The newline of a string constant parts its entry in two. -/
example : let ts := scan .empty "a 'b\nc'".toList
    ts.length = 2 ∧ listing ts = "i\ta\n'\t'b\nc'\n".toList := by
  decide +kernel

/-! ## Telling entries apart -/

namespace Token

/-- In front of a newline a quotation is read from its text, up to its closing mark, whatever the
keywords are. -/
theorem Lexical.step_of_isQuotation {text : Text} (h : tok.Lexical ks)
    (hq : tok.kind.isQuotation = true) (htext : tok.text? = some text) (ks' : Keywords) (r : Text) :
    ∃ c t, text ++ '\n' :: r = c :: t ∧ step ks' c t = ⟨.token tok, '\n' :: r⟩ := by
  have hend : tok.kind.endsBefore ('\n' :: r).head? = true := by
    cases hk : tok.kind <;> simp_all [Kind.isQuotation, Kind.endsBefore]
  have hcomment : tok.kind ≠ .comment := fun hk => by simp [hk, Kind.isQuotation] at hq
  obtain ⟨c, t, ht, hstep⟩ := h.exists_step hcomment hend
  have hlexeme : tok.lexeme = text := by simp [lexeme, htext]
  refine ⟨c, t, hlexeme ▸ ht, ?_⟩
  rw [step_eq_classify ks, hstep]
  simp only [Outcome.classify, classify_of_not_isWord (Kind.isWord_of_isQuotation hq)]

/-- The text of a token is known from what follows it and from its kind. -/
theorem Lexical.text_append_inj {text text' : Text} (h : tok.Lexical ks) (h' : tok'.Lexical ks')
    (hkind : tok.kind = tok'.kind) (htext : tok.text? = some text) (htext' : tok'.text? = some text')
    (heq : text ++ '\n' :: r = text' ++ '\n' :: r') : text = text' ∧ r = r' := by
  cases hq : tok.kind.isQuotation with
  | false =>
    have hline : ∀ c ∈ text, (c != '\n') = true := fun c hc =>
      bne_iff_ne.2 fun hnew => h.onOneLine hq text htext (hnew ▸ hc)
    have hline' : ∀ c ∈ text', (c != '\n') = true := fun c hc =>
      bne_iff_ne.2 fun hnew => h'.onOneLine (hkind ▸ hq) text' htext' (hnew ▸ hc)
    simpa using Text.append_inj_of_span hline hline' (by simp) (by simp) heq
  | true =>
    obtain ⟨c, t, ht, hstep⟩ := h.step_of_isQuotation hq htext ks r
    obtain ⟨c', t', ht', hstep'⟩ := h'.step_of_isQuotation (hkind ▸ hq) htext' ks r'
    obtain ⟨rfl, rfl⟩ := List.cons.inj (ht.symm.trans (heq.trans ht'))
    obtain ⟨rfl, rfl⟩ : tok = tok' ∧ r = r' := by simpa using hstep.symm.trans hstep'
    exact ⟨Option.some.inj (htext.symm.trans htext'), rfl⟩

/-- A tab or a newline stands behind the code of an entry. -/
theorem head?_field_append (tok : Token) (r : Text) :
    ∀ c ∈ (tok.field ++ '\n' :: r).head?, (c != '\t' && c != '\n') = false := by
  cases htext : tok.text? <;> simp [field, htext]

theorem eq_of_kind_of_text (hkind : tok.kind = tok'.kind) (htext : tok.text? = tok'.text?) :
    tok = tok' := by
  cases tok
  cases tok'
  exact (Token.mk.injEq ..).mpr ⟨hkind, htext⟩

/-- No entry is the beginning of another one. -/
theorem Lexical.line_append_inj (h : tok.Lexical ks) (h' : tok'.Lexical ks')
    (heq : tok.line ++ r = tok'.line ++ r') : tok = tok' ∧ r = r' := by
  rw [line_append, line_append, entry, entry, List.append_assoc, List.append_assoc] at heq
  obtain ⟨hcode, hbehind⟩ := Text.append_inj_of_span (fun _ => Kind.ne_of_mem_code)
    (fun _ => Kind.ne_of_mem_code) (tok.head?_field_append r) (tok'.head?_field_append r') heq
  have hkind := Kind.code_injective hcode
  cases htext : tok.text? with
  | none =>
    cases htext' : tok'.text? with
    | none =>
      rw [field_of_no_text htext, field_of_no_text htext'] at hbehind
      exact ⟨eq_of_kind_of_text hkind (htext.trans htext'.symm), List.tail_eq_of_cons_eq hbehind⟩
    | some text' =>
      rw [field_of_no_text htext, field_of_text htext'] at hbehind
      exact absurd (List.head_eq_of_cons_eq hbehind) (by decide)
  | some text =>
    cases htext' : tok'.text? with
    | none =>
      rw [field_of_text htext, field_of_no_text htext'] at hbehind
      exact absurd (List.head_eq_of_cons_eq hbehind) (by decide)
    | some text' =>
      rw [field_of_text htext, field_of_text htext'] at hbehind
      obtain ⟨rfl, hr⟩ :=
        h.text_append_inj h' hkind htext htext' (List.tail_eq_of_cons_eq hbehind)
      exact ⟨eq_of_kind_of_text hkind (htext.trans htext'.symm), hr⟩

end Token

/-- A listing is that of one list of tokens. The induction takes an entry off both listings. -/
theorem eq_of_listing_eq {ts ts' : List Token} (h : ∀ tok ∈ ts, tok.Lexical ks)
    (h' : ∀ tok ∈ ts', tok.Lexical ks') (heq : listing ts = listing ts') : ts = ts' := by
  induction ts generalizing ts' with
  | nil =>
    cases ts' with
    | nil => rfl
    | cons tok' ts' => exact absurd (heq.trans (listing_cons tok' ts')) (by simp [listing])
  | cons tok ts ih =>
    cases ts' with
    | nil => exact absurd ((listing_cons tok ts).symm.trans heq) (by simp [listing])
    | cons tok' ts' =>
      rw [List.forall_mem_cons] at h h'
      obtain ⟨rfl, hrest⟩ := h.1.line_append_inj h'.1 heq
      rw [ih h.2 h'.2 hrest]

/-- The tokens of a statement can be told from their listing, without the keywords that it was
scanned with. -/
theorem listing_determines_tokens (ks ks' : Keywords) (t t' : Text)
    (h : listing (scan ks t) = listing (scan ks' t')) : scan ks t = scan ks' t' :=
  eq_of_listing_eq lexical_of_mem_scan lexical_of_mem_scan h

/-- Two statements with one listing. The string constant has a newline in it, and the line behind it
looks like the entry of an identifier. -/
theorem listing_determines_tokens_of_entry_like :
    let t := "E'\ni\ta'  x".toList
    let t' := "e'\ni\ta'\n x\n".toList
    listing (scan .empty t) = "'\te'\ni\ta'\ni\tx\n".toList ∧ scan .empty t = scan .empty t' := by
  intro t t'
  have h : listing (scan .empty t) = listing (scan .empty t') := by decide +kernel
  exact ⟨by decide +kernel, listing_determines_tokens .empty .empty t t' h⟩

end CompactSql
