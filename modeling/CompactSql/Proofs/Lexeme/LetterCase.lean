import CompactSql.Proofs.Lexeme.FoldRuns
import CompactSql.Proofs.Lexeme.Rule
import CompactSql.Proofs.Lexeme.Run
import CompactSql.Proofs.Text.LetterCase

/-!
# Lexemes and letter case

The reading of the caseless form of a text is the caseless form of its reading, for every form of
lexeme but dollar-quoted strings, whose delimiters are told apart by the case of their letters.

## Main definitions

* `Token.caseless`, `Outcome.caseless`, `Reading.caseless` — what is read, with its texts caseless.

## Main statements

* `readString_caseless`, … — the readers of lexemes.
* `ofChars_caseless` — the form of a lexeme does not depend on letter case.
* `step_caseless` — a step from anything but a dollar sign.
-/

namespace CompactSql

variable {ks : Keywords} {c q : Char}

/-! ## Caseless readings -/

/-- The fault with the characters that it names written small. -/
def Fault.caseless : Fault → Fault
  | unexpectedCharacter c => unexpectedCharacter c.toLower
  | malformedBitString t => malformedBitString (Text.caseless t)
  | unterminatedOperator t => unterminatedOperator (Text.caseless t)
  | ambiguousOperator t => ambiguousOperator (Text.caseless t)
  | f => f

/-- The token with its text caseless. -/
def Token.caseless (t : Token) : Token := { t with text? := t.text?.map Text.caseless }

/-- What a step made, with its texts caseless. -/
def Outcome.caseless : Outcome → Outcome
  | blank => blank
  | token t => token t.caseless
  | dropped f => dropped f.caseless

/-- The reading of a text, turned into one of its caseless form. -/
def Reading.caseless (r : Reading) : Reading := ⟨r.outcome.caseless, Text.caseless r.rest⟩

@[simp] theorem Token.kind_caseless (t : Token) : t.caseless.kind = t.kind := rfl

@[simp] theorem Token.text?_caseless (t : Token) :
    t.caseless.text? = t.text?.map Text.caseless := rfl

@[simp] theorem Outcome.isTerminator_caseless (out : Outcome) :
    out.caseless.isTerminator = out.isTerminator := by cases out <;> rfl

@[simp] theorem Reading.caseless_ofText (k : Kind) (t r : Text) :
    (ofText k t r).caseless = ofText k (Text.caseless t) (Text.caseless r) := rfl

@[simp] theorem Reading.caseless_dropped (f : Fault) (r : Text) :
    (dropped f r).caseless = dropped f.caseless (Text.caseless r) := rfl

/-! ## Quoted lexemes -/

theorem toLower_eq_quote_iff : c.toLower = '\'' ↔ c = '\'' := toLower_eq_iff (by decide)

theorem stringBody_caseless (t : Text) :
    stringBody (Text.caseless t) =
      (stringBody t).map fun (b, r) => (Text.caseless b, Text.caseless r) := by
  fun_induction stringBody t with
  | case1 r ih =>
    have hquotes : stringBody (Text.caseless ('\'' :: '\'' :: r)) =
        (stringBody (Text.caseless r)).map fun (b, r') => ('\'' :: '\'' :: b, r') := rfl
    rw [hquotes, ih, Option.map_map, Option.map_map]
    rfl
  | case2 r hr =>
    cases r with
    | nil => rfl
    | cons d r =>
      have hd : d ≠ '\'' := fun hd => hr r (by rw [hd])
      simp [stringBody, hd, show '\''.toLower = '\'' from rfl, toLower_eq_quote_iff]
  | case3 c r hr hc ih =>
    have hc' : c ≠ '\'' := hc
    simp [stringBody, hc', ih, toLower_eq_quote_iff, Function.comp_def]
  | case4 => rfl

theorem readString_caseless (form : StringForm) (t : Text) :
    readString form (Text.caseless t) = (readString form t).caseless := by
  rw [readString, stringBody_caseless, readString]
  cases stringBody t with
  | none => rfl
  | some b => cases form <;> simp [StringForm.lead]

theorem readQuotedIdentifier_caseless {lead : Text} (hlead : Text.caseless lead = lead) (t : Text) :
    readQuotedIdentifier lead (Text.caseless t) = (readQuotedIdentifier lead t).caseless := by
  rw [readQuotedIdentifier, Text.cutAt_caseless (by decide), readQuotedIdentifier]
  cases Text.cutAt ['"'] t with
  | none => rfl
  | some b =>
    obtain ⟨b, r⟩ := b
    have hname : Text.caseless (lead ++ '"' :: b ++ ['"']) =
        lead ++ '"' :: Text.caseless b ++ ['"'] := by
      simp [hlead]
    have hlen := Text.length_caseless (lead ++ '"' :: b ++ ['"'])
    rw [hname] at hlen
    simp only [Option.map_some, hlen]
    split
    · rw [Reading.caseless_ofText, hname]
    · rfl

theorem BitForm.ignoresCase_accepts (form : BitForm) : IgnoresCase form.accepts := by
  cases form <;> exact .of_capitals (by decide)

theorem readBitString_caseless (form : BitForm) (t : Text) :
    readBitString form (Text.caseless t) = (readBitString form t).caseless := by
  have hlead (ds : Text) : form.letter :: '\'' :: Text.caseless ds =
      Text.caseless (form.letter :: '\'' :: ds) := by
    cases form <;> rfl
  simp only [readBitString, Text.takeWhile_caseless form.ignoresCase_accepts,
    Text.dropWhile_caseless form.ignoresCase_accepts, hlead]
  cases t.dropWhile form.accepts with
  | nil => rfl
  | cons c r =>
    simp only [Text.caseless_cons, toLower_eq_quote_iff]
    split
    · simp
    · rfl

/-! ## Runs -/

theorem ignoresCase_isDigit : IgnoresCase Char.isDigit := .of_capitals (by decide)

theorem ignoresCase_isWordChar : IgnoresCase isWordChar := .of_capitals (by decide)

theorem ignoresCase_beginsWord : IgnoresCase beginsWord := .of_capitals (by decide)

theorem wordKind_caseless (ks : Keywords) (w : Text) :
    wordKind ks (Text.caseless w) = wordKind ks w := by
  rw [wordKind, Keywords.contains, lowercase_caseless]
  rfl

theorem readWord_caseless (ks : Keywords) (c : Char) (t : Text) :
    readWord ks c.toLower (Text.caseless t) = (readWord ks c t).caseless := by
  have hkind := wordKind_caseless ks (c :: t.takeWhile isWordChar)
  simp only [readWord, Text.takeWhile_caseless ignoresCase_isWordChar,
    Text.dropWhile_caseless ignoresCase_isWordChar, Reading.caseless_ofText,
    Text.caseless_cons] at hkind ⊢
  rw [hkind]

theorem readParameter_caseless (t : Text) :
    readParameter (Text.caseless t) = (readParameter t).caseless := by
  simp only [readParameter, Text.takeWhile_caseless ignoresCase_isDigit,
    Text.dropWhile_caseless ignoresCase_isDigit]
  rfl

namespace Operator

theorem ignoresCase_isRunChar : IgnoresCase isRunChar := .of_capitals (by decide)

/-- Operators hold no letters. -/
theorem caseless_of_isRunChar {w : Text} (hw : ∀ d ∈ w, isRunChar d = true) :
    Text.caseless w = w := by
  have hfixed : ∀ d ∈ w, d.toLower = d := by
    intro d hd
    refine (toLower_eq_self_or_mem_capitals d).resolve_right fun hmem => ?_
    exact ne_of_all (p := isRunChar) (by decide) (hw d hd) d hmem rfl
  rw [Text.caseless, List.map_congr_left hfixed, List.map_id']

theorem rule_caseless (hc : isRunChar c = true) (t : Text) :
    rule c.toLower (Text.caseless t) = (rule c t).caseless := by
  obtain ⟨run, hrun⟩ : ∃ run, c :: t.takeWhile isRunChar = run := ⟨_, rfl⟩
  have hall : ∀ d ∈ run, isRunChar d = true := by
    rw [← hrun]
    exact List.forall_mem_cons.2 ⟨hc, fun _ => List.mem_takeWhile_imp⟩
  have hcaseless := caseless_of_isRunChar hall
  simp only [rule, Text.takeWhile_caseless ignoresCase_isRunChar,
    Text.dropWhile_caseless ignoresCase_isRunChar, ← Text.caseless_cons, hrun, hcaseless]
  cases hcomment : commentIn run with
  | none =>
    have hend : (Text.caseless (t.dropWhile isRunChar)).isEmpty =
        (t.dropWhile isRunChar).isEmpty := by
      cases t.dropWhile isRunChar <;> rfl
    simp only [hend]
    split
    · simp [Fault.caseless, hcaseless]
    · split <;> simp [Fault.caseless, hcaseless]
  | some b =>
    obtain ⟨before, r⟩ := b
    obtain ⟨e, rfl, -⟩ := commentIn_eq_some_iff.1 hcomment
    have hbefore : Text.caseless before = before :=
      caseless_of_isRunChar fun d hd => hall d (by simp [hd])
    have hr : Text.caseless r = r := caseless_of_isRunChar fun d hd => hall d (by simp [hd])
    simp [Fault.caseless, hbefore, hr]

end Operator

namespace Number

theorem digits_caseless (t : Text) :
    digits (Text.caseless t) = (Text.caseless (digits t).1, Text.caseless (digits t).2) := by
  rw [digits, Text.takeWhile_caseless ignoresCase_isDigit,
    Text.dropWhile_caseless ignoresCase_isDigit]
  rfl

theorem mantissa_caseless (c : Char) (t : Text) :
    mantissa c.toLower (Text.caseless t) =
      (Text.caseless (mantissa c t).1, Text.caseless (mantissa c t).2) := by
  have hdigits := digits_caseless t
  have hdot (e : Char) : e.toLower = '.' ↔ e = '.' := toLower_eq_iff (by decide)
  by_cases hc : c = '.'
  · subst hc
    simp [mantissa, hdigits]
  obtain ⟨w, r, hwhole⟩ : ∃ w r, digits t = (w, r) := ⟨_, _, rfl⟩
  rw [hwhole] at hdigits
  have hc' : c.toLower ≠ '.' := mt (hdot c).1 hc
  by_cases hr : r.head? = some '.'
  · obtain ⟨r, rfl⟩ := List.head?_eq_some_iff.1 hr
    have hdigits' : digits (Text.caseless t) = (Text.caseless w, '.' :: Text.caseless r) := hdigits
    rw [mantissa_of_dot hc' hdigits', mantissa_of_dot hc hwhole, digits_caseless]
    simp [(hdot '.').2 rfl]
  · have hr' : (Text.caseless r).head? ≠ some '.' := by
      cases r with
      | nil => simp
      | cons e r => simpa [hdot] using hr
    rw [mantissa_of_not_dot hc' hdigits hr', mantissa_of_not_dot hc hwhole hr]
    rfl

theorem sign_caseless (t : Text) :
    sign (Text.caseless t) = ((sign t).1, Text.caseless (sign t).2) := by
  have hplus (e : Char) : e.toLower = '+' ↔ e = '+' := toLower_eq_iff (by decide)
  have hminus (e : Char) : e.toLower = '-' ↔ e = '-' := toLower_eq_iff (by decide)
  cases t with
  | nil => rfl
  | cons e t =>
    by_cases he : e = '+'
    · subst he
      rfl
    by_cases he' : e = '-'
    · subst he'
      rfl
    simp [sign, hplus, hminus, he, he']

/-- The exponent with its text caseless. -/
def Exponent.caseless : Exponent → Exponent
  | absent => absent
  | broken r => broken (Text.caseless r)
  | complete e r => complete (Text.caseless e) (Text.caseless r)

theorem exponent_caseless (t : Text) : exponent (Text.caseless t) = (exponent t).caseless := by
  cases t with
  | nil => rfl
  | cons e t =>
    have hmark : (e.toLower = 'e' ∨ e.toLower = 'E') ↔ (e = 'e' ∨ e = 'E') := by
      have h : IgnoresCase fun e => (e = 'e' || e = 'E' : Bool) := .of_capitals (by decide)
      simpa using congrArg (· = true) (h e)
    by_cases he : e = 'e' ∨ e = 'E'
    · obtain ⟨s, r, hsign⟩ : ∃ s r, sign t = (s, r) := ⟨_, _, rfl⟩
      obtain ⟨ds, r', hdigits⟩ : ∃ ds r', digits r = (ds, r') := ⟨_, _, rfl⟩
      have hsign' := sign_caseless t
      rw [hsign] at hsign'
      have hdigits' := digits_caseless r
      rw [hdigits] at hdigits'
      rw [Text.caseless_cons, exponent_of_mark (hmark.2 he) hsign' hdigits',
        exponent_of_mark he hsign hdigits]
      have hs : Text.caseless s = s := by
        rcases (eq_append_of_sign hsign).2 with rfl | rfl | rfl <;> rfl
      cases ds with
      | nil => rfl
      | cons d ds => simp [Exponent.caseless, hs]
    · rw [Text.caseless_cons, exponent_of_not_mark (mt hmark.1 he), exponent_of_not_mark he]
      rfl

theorem complete_caseless (v t : Text) :
    complete (Text.caseless v) (Text.caseless t) = (complete v t).caseless := by
  cases t with
  | nil => rfl
  | cons c t =>
    have hend : IgnoresCase fun c => decide (c = '.') || isLetter c :=
      .of_capitals (by decide)
    have hc : (decide (c.toLower = '.') || isLetter c.toLower) =
        (decide (c = '.') || isLetter c) := hend c
    simp only [Text.caseless_cons, complete, hc]
    split <;> rfl

theorem rule_caseless (c : Char) (t : Text) :
    rule c.toLower (Text.caseless t) = (rule c t).caseless := by
  simp only [rule, mantissa_caseless, exponent_caseless]
  cases exponent (mantissa c t).2 with
  | absent => exact complete_caseless _ _
  | broken r => rfl
  | complete e r =>
    simp only [Exponent.caseless, ← Text.caseless_append]
    exact complete_caseless _ _

end Number

/-! ## Comments -/

namespace Comment

theorem ignoresCase_isSpace : IgnoresCase isSpace := .of_capitals (by decide)

theorem trim_caseless (t : Text) : trim (Text.caseless t) = Text.caseless (trim t) := by
  simp only [trim, trimEnd, Text.dropWhile_caseless ignoresCase_isSpace, Text.reverse_caseless]

theorem foldRun_caseless (shortest : Nat) (t : Text) :
    foldRun shortest (Text.caseless t) = Text.caseless (foldRun shortest t) := by
  simp only [foldRun, Text.length_caseless]
  split <;> rfl

theorem foldRuns_caseless (shortest : Nat) (t : Text) :
    foldRuns shortest (Text.caseless t) = Text.caseless (foldRuns shortest t) := by
  fun_induction foldRuns shortest t with
  | case1 => simp [foldRuns]
  | case2 c t hc ih =>
    have hrun : foldRun shortest (c.toLower :: Text.caseless (t.takeWhile isSpace)) =
        Text.caseless (foldRun shortest (c :: t.takeWhile isSpace)) :=
      foldRun_caseless shortest (c :: t.takeWhile isSpace)
    rw [Text.caseless_cons, foldRuns, ignoresCase_isSpace c, if_pos hc,
      Text.takeWhile_caseless ignoresCase_isSpace, Text.dropWhile_caseless ignoresCase_isSpace, ih,
      hrun, Text.caseless_append]
  | case3 c t hc ih =>
    rw [Text.caseless_cons, foldRuns, ignoresCase_isSpace c, if_neg hc, ih, Text.caseless_cons]

theorem readLine_caseless (t : Text) : readLine (Text.caseless t) = (readLine t).caseless := by
  have hline : IgnoresCase (· != '\n') := .of_capitals (by decide)
  simp only [readLine, foldLine_eq_foldRuns, Text.takeWhile_caseless hline,
    Text.dropWhile_caseless hline, trim_caseless, foldRuns_caseless, Reading.caseless_ofText, Text.drop_caseless]

theorem readBlock_caseless (t : Text) : readBlock (Text.caseless t) = (readBlock t).caseless := by
  rw [readBlock, Text.cutAt_caseless (by decide), readBlock]
  cases Text.cutAt ['*', '/'] t with
  | none => rfl
  | some b => simp [foldBlock_eq_foldRuns, trim_caseless, foldRuns_caseless]

end Comment

/-! ## Forms -/

theorem map_toLower_eq_some_iff (hq : hasOneCase q = true) (next? : Option Char) :
    next?.map Char.toLower = some q ↔ next? = some q := by
  cases next? with
  | none => simp
  | some c => simpa using toLower_eq_iff hq

theorem any_isDigit_map_toLower (next? : Option Char) :
    (next?.map Char.toLower).any Char.isDigit = next?.any Char.isDigit := by
  rw [Option.any_map]
  exact congrArg (fun p => next?.any p) (funext ignoresCase_isDigit)

theorem ofWordChar_caseless (c : Char) (next? : Option Char) :
    Form.ofWordChar c.toLower (next?.map Char.toLower) = Form.ofWordChar c next? := by
  have hmark (a b : Char) (h : IgnoresCase fun c => (c = a || c = b : Bool)) :
      (c.toLower = a || c.toLower = b) = (c = a || c = b : Bool) := h c
  have hquote := map_toLower_eq_some_iff (q := '\'') (by decide) next?
  have hamp := map_toLower_eq_some_iff (q := '&') (by decide) next?
  simp only [Form.ofWordChar, hmark 'b' 'B' (.of_capitals (by decide)),
    hmark 'x' 'X' (.of_capitals (by decide)), hmark 'e' 'E' (.of_capitals (by decide)),
    hmark 'u' 'U' (.of_capitals (by decide)), hquote, hamp, ignoresCase_beginsWord c]

/-- The form of a lexeme does not depend on letter case. -/
theorem ofChars_caseless (c : Char) (next? : Option Char) :
    Form.ofChars c.toLower (next?.map Char.toLower) = Form.ofChars c next? := by
  have hword := ofWordChar_caseless c next?
  rcases toLower_eq_self_or_mem_capitals c with hc | hc
  · have hminus := map_toLower_eq_some_iff (q := '-') (by decide) next?
    have hstar := map_toLower_eq_some_iff (q := '*') (by decide) next?
    have hdot := map_toLower_eq_some_iff (q := '.') (by decide) next?
    have hcolon := map_toLower_eq_some_iff (q := ':') (by decide) next?
    rw [hc] at hword ⊢
    simp only [Form.ofChars, Form.ofDot, hminus, hstar, hdot, hcolon, any_isDigit_map_toLower,
      hword]
  · have hall : capitals.all beginsWord = true := by decide
    have hbegins : beginsWord c = true := List.all_eq_true.1 hall c hc
    have hbegins' : beginsWord c.toLower = true := by rw [ignoresCase_beginsWord, hbegins]
    rw [Form.ofChars_of_beginsWord hbegins', hword, Form.ofChars_of_beginsWord hbegins]

/-- What begins with two characters that are no letters does so in either case. -/
theorem exists_of_caseless_eq {a b : Char} {t r : Text}
    (ha : hasOneCase a = true) (hb : hasOneCase b = true) (h : Text.caseless t = a :: b :: r) :
    ∃ r', t = a :: b :: r' := by
  obtain ⟨a', t, rfl, ha', ht⟩ := List.map_eq_cons_iff.1 h
  obtain ⟨b', r', rfl, hb', -⟩ := List.map_eq_cons_iff.1 ht
  exact ⟨r', by rw [(toLower_eq_iff ha).1 ha', (toLower_eq_iff hb).1 hb']⟩

theorem readUnicode_caseless (t : Text) :
    readUnicode (Text.caseless t) = (readUnicode t).caseless := by
  fun_cases readUnicode t with
  | case1 r => exact readQuotedIdentifier_caseless rfl r
  | case2 r => exact readString_caseless .unicode r
  | case3 t hquote hstring =>
    unfold readUnicode
    split
    · rename_i r hr
      obtain ⟨r', rfl⟩ := exists_of_caseless_eq (by decide) (by decide) hr
      exact absurd rfl (hquote r')
    · rename_i r hr
      obtain ⟨r', rfl⟩ := exists_of_caseless_eq (by decide) (by decide) hr
      exact absurd rfl (hstring r')
    · rfl

/-- Only the delimiters of dollar-quoted strings depend on letter case. -/
theorem Form.rule_caseless {f : Form} (hf : f ≠ dollarQuoted)
    (hoperator : f = operator → Operator.isRunChar c = true) (ks : Keywords) (t : Text) :
    f.rule ks c.toLower (Text.caseless t) = (f.rule ks c t).caseless := by
  cases f with
  | blank | bare k => rfl
  | double k =>
    simp only [Form.rule, Text.drop_caseless, Reading.caseless_ofText, Text.caseless_cons,
      Text.caseless_nil]
  | quotedIdentifier => exact readQuotedIdentifier_caseless rfl t
  | string => exact readString_caseless .plain t
  | parameter => exact readParameter_caseless t
  | dollarQuoted => exact absurd rfl hf
  | lineComment => simp only [Form.rule, Text.drop_caseless, Comment.readLine_caseless]
  | blockComment => simp only [Form.rule, Text.drop_caseless, Comment.readBlock_caseless]
  | operator => exact Operator.rule_caseless (hoperator rfl) t
  | number => exact Number.rule_caseless c t
  | bitString form => simp only [Form.rule, Text.drop_caseless, readBitString_caseless]
  | escapeString => simp only [Form.rule, Text.drop_caseless, readString_caseless]
  | unicodeLead => exact readUnicode_caseless t
  | word => exact readWord_caseless ks c t
  | unexpected => rfl

theorem step_caseless (hc : c ≠ '$') (ks : Keywords) (t : Text) :
    step ks c.toLower (Text.caseless t) = (step ks c t).caseless := by
  have hopens := Form.opens_ofChars c t.head?
  rw [step_eq_rule, Text.head?_caseless, ofChars_caseless, step_eq_rule]
  apply Form.rule_caseless
  · intro hf
    rw [hf] at hopens
    exact hc hopens.1
  · intro hf
    rw [hf] at hopens
    exact hopens.1

end CompactSql
