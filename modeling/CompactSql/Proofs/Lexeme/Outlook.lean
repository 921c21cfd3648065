import CompactSql.Proofs.Lexeme.DollarQuotation
import CompactSql.Proofs.Lexeme.Rule
import CompactSql.Proofs.Lexeme.Quotation
import CompactSql.Proofs.Lexeme.Run

/-!
# How far a reading looks

A reading that leaves some text looks at the first character of it, and no further. So it is the
same in front of every text that begins with that character. The one exception is a `u` in front of
`&`, which looks at the character behind the `&` too.

## Main definitions

* `LooksAtNext` — a reader that looks no further than the character behind what it takes.

## Main statements

* `looksAtNext_readString`, … — the readers of lexemes look no further.
* `readUnicode_congr` — how far the reading behind a `u` looks.
* `step_congr` — how far a step looks.
-/

namespace CompactSql

variable {p : Char → Bool} {u x body delimiter a : Text} {d : Char}

/-! ## Runs and cuts -/

namespace Text

/-- A run that ends within `u`, or in front of `d`, ends there whatever follows `d`. -/
theorem span_congr (h : (u ++ d :: a).dropWhile p = x ++ d :: a) (b : Text) :
    (u ++ d :: b).takeWhile p = (u ++ d :: a).takeWhile p ∧
      (u ++ d :: b).dropWhile p = x ++ d :: b := by
  obtain ⟨ht, hw, hx⟩ := span_eq_iff.1 ⟨rfl, h⟩
  rw [← List.append_assoc, List.append_left_inj] at ht
  refine span_eq_iff.2 ⟨by rw [← List.append_assoc, ← ht], hw, ?_⟩
  cases x <;> simpa using hx

theorem cutAt_congr (h : cutAt delimiter (u ++ d :: a) = some (body, d :: a)) (b : Text) :
    cutAt delimiter (u ++ d :: b) = some (body, d :: b) := by
  have ht := eq_of_cutAt h
  rw [List.append_left_inj] at ht
  rw [← ht]
  exact cutAt_append h (d :: b)

end Text

theorem stringBody_congr (h : stringBody (u ++ d :: a) = some (body, d :: a)) (b : Text) :
    stringBody (u ++ d :: b) = some (body, d :: b) := by
  obtain ⟨s, rfl, ht, hend⟩ := eq_doubled_of_stringBody h
  obtain rfl : u = doubled s ++ ['\''] :=
    List.append_cancel_right (ht.trans (List.append_cons _ _ _))
  have hstop : ∀ c ∈ (d :: b).head?, c ≠ '\'' := hend
  rw [List.append_assoc]
  exact stringBody_doubled s hstop

theorem head?_congr (u a b : Text) (d : Char) : (u ++ d :: a).head? = (u ++ d :: b).head? := by
  cases u <;> rfl

theorem DollarQuotation.tag_eq (t : Text) :
    tag t = if t.head?.any beginsTag then (t.takeWhile isTagChar, t.dropWhile isTagChar)
      else ([], t) := by
  cases t <;> rfl

theorem DollarQuotation.tag_congr {name : Text} (h : tag (u ++ d :: a) = (name, x ++ d :: a))
    (b : Text) : tag (u ++ d :: b) = (name, x ++ d :: b) := by
  rw [tag_eq] at h ⊢
  rw [head?_congr u b a]
  split at h <;> rename_i hbegins <;> simp only [Prod.mk.injEq] at h
  · obtain ⟨htake, hdrop⟩ := Text.span_congr h.2 b
    rw [if_pos hbegins, htake, hdrop, h.1]
  · obtain ⟨rfl, hx⟩ := h
    rw [if_neg hbegins, List.append_cancel_right hx]

namespace Number

theorem digits_congr {w : Text} (h : digits (u ++ d :: a) = (w, x ++ d :: a)) (b : Text) :
    digits (u ++ d :: b) = (w, x ++ d :: b) := by
  rw [digits, Prod.mk.injEq] at h ⊢
  obtain ⟨htake, hdrop⟩ := Text.span_congr h.2 b
  exact ⟨htake.trans h.1, hdrop⟩

theorem mantissa_congr {c : Char} {m : Text} (h : mantissa c (u ++ d :: a) = (m, x ++ d :: a))
    (b : Text) : mantissa c (u ++ d :: b) = (m, x ++ d :: b) := by
  obtain ⟨w, rest, hwhole⟩ : ∃ w rest, digits (u ++ d :: a) = (w, rest) := ⟨_, _, rfl⟩
  by_cases hc : c = '.'
  · simp only [mantissa, hwhole, if_pos hc, Prod.mk.injEq] at h
    obtain ⟨rfl, rfl⟩ := h
    simp only [mantissa, digits_congr hwhole b, if_pos hc]
  by_cases hdot : rest.head? = some '.'
  · obtain ⟨r, rfl⟩ := List.head?_eq_some_iff.1 hdot
    rw [mantissa_of_dot hc hwhole, Prod.mk.injEq] at h
    -- The digits behind the dot end where the mantissa does.
    obtain ⟨y, hy⟩ := suffix_digits r
    rw [h.2, ← List.append_assoc] at hy
    subst hy
    have hwhole' : digits (u ++ d :: b) = (w, '.' :: (y ++ x ++ d :: b)) :=
      digits_congr (x := '.' :: (y ++ x)) hwhole b
    rw [mantissa_of_dot hc hwhole', digits_congr (Prod.ext rfl h.2) b, h.1]
  · rw [mantissa_of_not_dot hc hwhole hdot, Prod.mk.injEq] at h
    obtain ⟨rfl, rfl⟩ := h
    rw [head?_congr x a b] at hdot
    exact mantissa_of_not_dot hc (digits_congr hwhole b) hdot

theorem sign_eq_self_iff {t : Text} :
    sign t = ([], t) ↔ t.head? ≠ some '+' ∧ t.head? ≠ some '-' := by
  unfold sign
  split <;> simp_all [List.head?_eq_some_iff]

theorem sign_congr {s : Text} (h : sign (u ++ d :: a) = (s, x ++ d :: a)) (b : Text) :
    sign (u ++ d :: b) = (s, x ++ d :: b) := by
  obtain ⟨ht, hs⟩ := eq_append_of_sign h
  rw [← List.append_assoc, List.append_left_inj] at ht
  subst ht
  rcases hs with rfl | rfl | rfl
  · rw [List.nil_append] at h ⊢
    rw [sign_eq_self_iff, head?_congr x b a]
    exact sign_eq_self_iff.1 h
  · rfl
  · rfl

theorem exponent_congr_absent (h : exponent (u ++ d :: a) = .absent) (b : Text) :
    exponent (u ++ d :: b) = .absent := by
  rw [exponent_eq_absent_iff, head?_congr u b a]
  exact exponent_eq_absent_iff.1 h

theorem exponent_congr_broken (h : exponent (u ++ d :: a) = .broken (d :: a)) (b : Text) :
    exponent (u ++ d :: b) = .broken (d :: b) := by
  obtain ⟨e, s, ht, he, hsign, hdigits⟩ := exponent_eq_broken_iff.1 h
  rw [← List.cons_append, List.append_left_inj] at ht
  subst ht
  exact exponent_eq_broken_iff.2
    ⟨e, s, rfl, he, sign_congr (x := []) hsign b, digits_congr (u := []) (x := []) hdigits b⟩

theorem exponent_congr_complete {e : Text} (h : exponent (u ++ d :: a) = .complete e (x ++ d :: a))
    (b : Text) : exponent (u ++ d :: b) = .complete e (x ++ d :: b) := by
  obtain ⟨ht, he, hne, hend⟩ := exponent_eq_complete_iff.1 h
  rw [← List.append_assoc, List.append_left_inj] at ht
  subst ht
  rw [head?_congr x a b] at hend
  exact exponent_eq_complete_iff.2 ⟨List.append_assoc _ _ _, he, hne, hend⟩

end Number

/-! ## Readers -/

/-- Whether a reader looks no further than the character behind what it takes. -/
def LooksAtNext (read : Text → Reading) : Prop :=
  ∀ ⦃u a : Text⦄ ⦃d : Char⦄ ⦃out : Outcome⦄, read (u ++ d :: a) = ⟨out, d :: a⟩ →
    ∀ b, read (u ++ d :: b) = ⟨out, d :: b⟩

theorem looksAtNext_leave (out : Outcome) : LooksAtNext fun t => ⟨out, t⟩ := by
  intro u a d out' h b
  obtain ⟨rfl, hrest⟩ := Reading.mk.inj h
  obtain rfl : u = [] := by simpa using hrest
  rfl

/-- A reader that takes a run looks at the character that ends it. -/
theorem looksAtNext_run (p : Char → Bool) (out : Text → Outcome) :
    LooksAtNext fun t => ⟨out (t.takeWhile p), t.dropWhile p⟩ := by
  intro u a d out' h b
  obtain ⟨rfl, hrest⟩ := Reading.mk.inj h
  obtain ⟨htake, hdrop⟩ := Text.span_congr (x := []) hrest b
  simp only [htake, hdrop]
  rfl

theorem looksAtNext_readQuotedIdentifier (lead : Text) :
    LooksAtNext (readQuotedIdentifier lead) := by
  intro u a d out h b
  unfold readQuotedIdentifier at h ⊢
  split at h
  · rename_i body rest hcut
    simp only at h
    split at h <;> rename_i hlen <;> cases h
    · simp only [Text.cutAt_congr hcut b, if_pos hlen]
      rfl
    · simp only [Text.cutAt_congr hcut b, if_neg hlen]
      rfl
  · cases h

theorem looksAtNext_readString (form : StringForm) : LooksAtNext (readString form) := by
  intro u a d out h b
  unfold readString at h ⊢
  split at h
  · rename_i body rest hbody
    cases h
    simp only [stringBody_congr hbody b]
    rfl
  · cases h

theorem looksAtNext_readBitString (form : BitForm) : LooksAtNext (readBitString form) := by
  intro u a d out h b
  unfold readBitString at h ⊢
  simp only at h ⊢
  split at h
  · cases h
  · rename_i c rest hrest
    split at h <;> rename_i hc <;> cases h
    · obtain ⟨htake, hdrop⟩ := Text.span_congr (x := [c]) hrest b
      simp only [htake, hdrop, List.cons_append, List.nil_append, if_pos hc]
      rfl
    · obtain ⟨htake, hdrop⟩ := Text.span_congr (x := [c]) hrest b
      simp only [htake, hdrop, List.cons_append, List.nil_append, if_neg hc]
      rfl

theorem looksAtNext_readWord (ks : Keywords) (c : Char) : LooksAtNext (readWord ks c) :=
  looksAtNext_run isWordChar fun w => .token (.ofText (wordKind ks (c :: w)) (c :: w))

theorem looksAtNext_readParameter : LooksAtNext readParameter :=
  looksAtNext_run Char.isDigit fun ds => .token (.ofText .parameter ('$' :: ds))

namespace Comment

theorem looksAtNext_readLine : LooksAtNext readLine := by
  intro u a d out h b
  obtain ⟨rfl, hrest⟩ := Reading.mk.inj h
  obtain ⟨e, he⟩ : ∃ e, (u ++ d :: a).dropWhile (· != '\n') = e :: d :: a := by
    cases hline : (u ++ d :: a).dropWhile (· != '\n') with
    | nil => simp [hline] at hrest
    | cons e r => exact ⟨e, by simpa [hline] using hrest⟩
  obtain ⟨htake, hdrop⟩ := Text.span_congr (x := [e]) he b
  simp only [readLine, htake, hdrop]
  rfl

theorem looksAtNext_readBlock : LooksAtNext readBlock := by
  intro u a d out h b
  unfold readBlock at h ⊢
  split at h
  · rename_i body rest hcut
    cases h
    simp only [Text.cutAt_congr hcut b]
    rfl
  · cases h

end Comment

theorem DollarQuotation.looksAtNext_rule : LooksAtNext rule := by
  intro u a d out h b
  obtain ⟨name, behind, htag⟩ : ∃ name behind, tag (u ++ d :: a) = (name, behind) := ⟨_, _, rfl⟩
  simp only [rule, htag] at h
  split at h
  · cases h
  · rename_i c r
    split at h
    · rename_i hc
      split at h
      · rename_i body rest hcut
        cases h
        have hr := Text.eq_of_cutAt hcut
        have htag' :=
          tag_congr (x := c :: (body ++ ('$' :: name ++ ['$']))) (by rw [htag, ← hr]; rfl) b
        have hcut' := Text.cutAt_append hcut (d :: b)
        simp only [rule, htag', List.cons_append, if_pos hc] at hcut' ⊢
        rw [hcut']
        rfl
      · cases h
    · rename_i hc
      cases h
      simp only [rule, tag_congr (x := [c]) htag b, List.cons_append, List.nil_append, if_neg hc]
      rfl

/-- What stands behind the first comment mark of a run plays no part in finding it. -/
theorem Operator.commentIn_congr {run before r : Text} (h : commentIn run = some (before, r)) :
    ∃ e, run = before ++ e :: r ∧ ∀ w, commentIn (before ++ e :: w) = some (before, w) := by
  obtain ⟨e, hrun, hno, he⟩ := commentIn_eq_some_iff.1 h
  exact ⟨e, hrun, commentIn_append_mark hno he⟩

theorem Operator.looksAtNext_rule (c : Char) : LooksAtNext (rule c) := by
  intro u a d out h b
  obtain ⟨run, hrun⟩ : ∃ run, (u ++ d :: a).takeWhile isRunChar = run := ⟨_, rfl⟩
  obtain ⟨behind, hbehind⟩ : ∃ behind, (u ++ d :: a).dropWhile isRunChar = behind := ⟨_, rfl⟩
  simp only [rule, hrun, hbehind] at h
  split at h
  · rename_i before r hcomment
    obtain ⟨rfl, hrest⟩ := Reading.mk.inj h
    obtain ⟨e, hmark, hcongr⟩ := commentIn_congr hcomment
    obtain ⟨c', before, -, rfl, -⟩ := exists_of_commentIn hcomment
    obtain ⟨rfl, rfl⟩ := List.cons.inj hmark
    obtain ⟨ht, hall, -⟩ := Text.span_eq_iff.1 ⟨hrun, hbehind⟩
    -- The run goes on at least up to the mark, whatever follows.
    obtain rfl : u = before ++ [e] := by
      refine List.append_cancel_right (?_ : u ++ d :: a = before ++ [e] ++ d :: a)
      simp [ht, hrest]
    have hpos : ∀ f ∈ before ++ [e], isRunChar f = true := by
      intro f hf
      apply hall
      simpa [or_assoc] using List.mem_append_left r hf
    have hmark' := hcongr ((d :: b).takeWhile isRunChar)
    rw [List.cons_append, List.append_cons] at hmark'
    simp only [rule, List.takeWhile_append_of_pos hpos, List.dropWhile_append_of_pos hpos, hmark',
      List.takeWhile_append_dropWhile]
    rfl
  · rename_i hcomment
    split at h
    · rename_i hend
      obtain ⟨-, rfl⟩ := Reading.mk.inj h
      cases hend
    · have hrest : behind = d :: a := by
        split at h <;> exact congrArg Reading.rest h
      obtain ⟨htake, hdrop⟩ := Text.span_congr (x := []) (hbehind.trans hrest) b
      rw [hrun] at htake
      simp only [rule, htake, hdrop, hcomment]
      split at h <;> rename_i hsign <;> obtain ⟨rfl, -⟩ := Reading.mk.inj h
      · rw [if_pos hsign]
        rfl
      · rw [if_neg hsign]
        rfl

namespace Number

theorem looksAtNext_complete (value : Text) : LooksAtNext (complete value) := by
  intro u a d out h b
  cases u with
  | nil =>
    rw [List.nil_append, complete] at h ⊢
    split at h <;> rename_i hc
    · simpa using congrArg (fun r : Reading => r.rest.length) h
    · obtain ⟨rfl, -⟩ := Reading.mk.inj h
      rw [if_neg hc]
      rfl
  | cons c u =>
    rw [List.cons_append, complete] at h ⊢
    split at h <;> rename_i hc <;> obtain ⟨rfl, hrest⟩ := Reading.mk.inj h
    · obtain rfl : u = [] := by simpa using hrest
      rw [if_pos hc]
      rfl
    · have hlen := congrArg List.length hrest
      simp at hlen
      omega

theorem looksAtNext_rule (c : Char) : LooksAtNext (rule c) := by
  intro u a d out h b
  obtain ⟨m, r, hmantissa⟩ : ∃ m r, mantissa c (u ++ d :: a) = (m, r) := ⟨_, _, rfl⟩
  simp only [rule, hmantissa] at h
  split at h
  · rename_i hexponent
    obtain ⟨x, hx⟩ := suffix_complete m r
    rw [h] at hx
    subst hx
    simp only [rule, mantissa_congr hmantissa b, exponent_congr_absent hexponent b]
    exact looksAtNext_complete m h b
  · rename_i r' hexponent
    obtain ⟨rfl, rfl⟩ := Reading.mk.inj h
    obtain ⟨x, hx⟩ := suffix_of_exponent_broken hexponent
    subst hx
    simp only [rule, mantissa_congr hmantissa b, exponent_congr_broken hexponent b]
    rfl
  · rename_i e r' hexponent
    obtain ⟨y, hy⟩ := suffix_complete (m ++ e) r'
    rw [h] at hy
    subst hy
    obtain ⟨x, hx⟩ := suffix_of_exponent_complete hexponent
    rw [← List.append_assoc] at hx
    subst hx
    simp only [rule, mantissa_congr hmantissa b, exponent_congr_complete hexponent b]
    exact looksAtNext_complete (m ++ e) h b

end Number

/-- What is left behind a `u` that is left out begins with `&`, and then the character behind the
`&` has been looked at too. -/
theorem readUnicode_congr {out : Outcome} (h : readUnicode (u ++ d :: a) = ⟨out, d :: a⟩)
    {b : Text} (hlead : d = '&' → b.head? = a.head?) :
    readUnicode (u ++ d :: b) = ⟨out, d :: b⟩ := by
  unfold readUnicode at h
  split at h
  · rename_i r ht
    obtain ⟨x, rfl⟩ : d :: a <:+ r := by simpa [h] using suffix_readQuotedIdentifier ['u', '&'] r
    rw [← List.cons_append, ← List.cons_append, List.append_left_inj] at ht
    subst ht
    exact looksAtNext_readQuotedIdentifier _ h b
  · rename_i r ht
    obtain ⟨x, rfl⟩ : d :: a <:+ r := by simpa [h] using suffix_readString .unicode r
    rw [← List.cons_append, ← List.cons_append, List.append_left_inj] at ht
    subst ht
    exact looksAtNext_readString _ h b
  · rename_i hquote hstring
    obtain ⟨rfl, hrest⟩ := Reading.mk.inj h
    obtain rfl : u = [] := by simpa using hrest
    -- No quote stands behind the `&`, and none does in the other text.
    unfold readUnicode
    split
    · rename_i r hr
      obtain ⟨rfl, rfl⟩ := List.cons.inj hr
      obtain ⟨r', rfl⟩ := List.head?_eq_some_iff.1 (hlead rfl).symm
      exact absurd rfl (hquote r')
    · rename_i r hr
      obtain ⟨rfl, rfl⟩ := List.cons.inj hr
      obtain ⟨r', rfl⟩ := List.head?_eq_some_iff.1 (hlead rfl).symm
      exact absurd rfl (hstring r')
    · rfl

/-! ## Steps -/

theorem LooksAtNext.drop {read : Text → Reading} (hread : LooksAtNext read)
    (hsuffix : ∀ t, (read t).rest <:+ t) : LooksAtNext fun t => read (t.drop 1) := by
  intro u a d out h b
  obtain ⟨q, hq⟩ : ∃ q, (u ++ d :: a).head? = some q := by cases u <;> exact ⟨_, rfl⟩
  obtain ⟨u, rfl, h⟩ := exists_cons_of_read_drop hsuffix h hq
  exact hread h b

theorem Form.looksAtNext_rule {f : Form} (hf : f ≠ unicodeLead) (ks : Keywords) (c : Char) :
    LooksAtNext fun t => f.rule ks c t := by
  cases f with
  | blank => exact looksAtNext_leave _
  | bare k => exact looksAtNext_leave _
  | double k =>
    exact (looksAtNext_leave (.token (.ofText k [c, c]))).drop fun t => List.suffix_refl t
  | quotedIdentifier => exact looksAtNext_readQuotedIdentifier _
  | string => exact looksAtNext_readString _
  | parameter => exact looksAtNext_readParameter
  | dollarQuoted => exact DollarQuotation.looksAtNext_rule
  | lineComment => exact Comment.looksAtNext_readLine.drop Comment.suffix_readLine
  | blockComment => exact Comment.looksAtNext_readBlock.drop Comment.suffix_readBlock
  | operator => exact Operator.looksAtNext_rule c
  | number => exact Number.looksAtNext_rule c
  | bitString form => exact (looksAtNext_readBitString form).drop (suffix_readBitString form)
  | escapeString => exact (looksAtNext_readString _).drop (suffix_readString _)
  | unicodeLead => exact absurd rfl hf
  | word => exact looksAtNext_readWord ks c
  | unexpected => exact looksAtNext_leave _

/-- A step looks at the first character that it leaves, and if that is a `&`, at the one behind
it. -/
theorem step_congr {ks : Keywords} {c : Char} {out : Outcome} {b : Text}
    (h : step ks c (u ++ d :: a) = ⟨out, d :: a⟩) (hlead : d = '&' → b.head? = a.head?) :
    step ks c (u ++ d :: b) = ⟨out, d :: b⟩ := by
  rw [step_eq_rule, head?_congr u a b] at h
  rw [step_eq_rule]
  by_cases hf : Form.ofChars c (u ++ d :: b).head? = .unicodeLead
  · rw [hf] at h ⊢
    exact readUnicode_congr h hlead
  · exact Form.looksAtNext_rule hf ks c h b

end CompactSql
