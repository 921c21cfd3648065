import CompactSql.Lexeme.Number
import CompactSql.Proofs.Text.Cut

/-!
# Numeric constants, part by part

The reader of numeric constants takes one character after the other and keeps three flags. Here a
constant is taken part by part: a mantissa, digits with at most one dot among them, then an exponent
if one follows, then what must not follow. The flags say which part the reader is in, and its only
loop is that over the digits of a part.

## Main definitions

* `Number.digits`, `Number.mantissa` — the digits and the mantissa at the beginning of a text, and
  what follows them.
* `Number.exponent` — the exponent that follows a mantissa, absent, broken or complete.
* `Number.rule` — the reading of a constant part by part.

## Main statements

* `collect_digits` — digits in front of what is read.
* `conclude_collect_exponent`, `conclude_collect_mantissa` — the end of an exponent, of a mantissa.
* `read_eq_rule` — the reading of a constant.
-/

namespace CompactSql.Number

variable {c : Char} {r t : Text}

/-! ## The rule -/

/-- The digits at the beginning of a text, and what follows them. -/
def digits (t : Text) : Text × Text := (t.takeWhile Char.isDigit, t.dropWhile Char.isDigit)

/-- The mantissa that begins with `first`, a digit or a dot, and what follows it. -/
def mantissa (first : Char) (t : Text) : Text × Text :=
  let (whole, rest) := digits t
  if first = '.' then ('.' :: whole, rest)
  else
    match rest with
    | '.' :: r => (first :: whole ++ '.' :: (digits r).1, (digits r).2)
    | _ => (first :: whole, rest)

/-- The exponent at a place where one may stand. -/
inductive Exponent where
  /-- There is none. -/
  | absent
  /-- The mark and perhaps a sign stand there, but no digit follows. -/
  | broken (rest : Text)
  /-- The exponent, and what follows it. -/
  | complete (text rest : Text)

/-- A sign at the beginning of a text, if there is one, and what follows it. -/
def sign : Text → Text × Text
  | '+' :: r => (['+'], r)
  | '-' :: r => (['-'], r)
  | t => ([], t)

/-- The exponent at the beginning of a text. -/
def exponent : Text → Exponent
  | [] => .absent
  | e :: t =>
    if e = 'e' || e = 'E' then
      let (s, r) := sign t
      match digits r with
      | ([], _) => .broken r
      | (ds, r') => .complete (e :: s ++ ds) r'
    else .absent

/-- The reading of the constant `value`, once what follows it is known. -/
def complete (value : Text) : Text → Reading
  | [] => .ofText .numeric value []
  | c :: r =>
    if c = '.' || isLetter c then .dropped .malformedNumber r
    else .ofText .numeric value (c :: r)

/-- The reading of a constant that begins with `first`, a digit or a dot before a digit, part by
part. -/
def rule (first : Char) (t : Text) : Reading :=
  let (m, r) := mantissa first t
  match exponent r with
  | .absent => complete m r
  | .broken r' => .dropped .malformedNumber r'
  | .complete e r' => complete (m ++ e) r'

/-! ## Digits and exponents -/

theorem digits_eq_iff {t ds r : Text} :
    digits t = (ds, r) ↔
      t = ds ++ r ∧ (∀ c ∈ ds, c.isDigit = true) ∧ ∀ c ∈ r.head?, c.isDigit = false := by
  rw [digits, Prod.mk.injEq]
  exact Text.span_eq_iff

theorem digits_cons_of_isDigit (hc : c.isDigit = true) (t : Text) :
    digits (c :: t) = (c :: (digits t).1, (digits t).2) := by
  simp [digits, hc]

theorem digits_of_head (hr : ∀ c ∈ r.head?, c.isDigit = false) : digits r = ([], r) := by
  rw [digits, Text.takeWhile_eq_nil_of_head hr, Text.dropWhile_eq_self_of_head hr]

theorem head_digits (t : Text) : ∀ c ∈ (digits t).2.head?, c.isDigit = false :=
  Text.head_dropWhile Char.isDigit t

theorem head_of_digits_eq_nil (h : digits t = ([], r)) : ∀ c ∈ t.head?, c.isDigit = false := by
  obtain ⟨rfl, -, hr⟩ := digits_eq_iff.1 h
  exact hr

theorem any_head_of_digits {ds : Text} (hds : ds ≠ []) (h : digits t = (ds, r)) :
    t.head?.any Char.isDigit = true := by
  obtain ⟨rfl, hall, -⟩ := digits_eq_iff.1 h
  obtain ⟨d, ds, rfl⟩ := List.exists_cons_of_ne_nil hds
  simpa using hall d List.mem_cons_self

theorem mantissa_of_dot {c : Char} {t w r : Text} (hc : c ≠ '.')
    (h : digits t = (w, '.' :: r)) :
    mantissa c t = (c :: w ++ '.' :: (digits r).1, (digits r).2) := by
  simp only [mantissa, h, if_neg hc]

theorem mantissa_of_not_dot {c : Char} {t w r : Text} (hc : c ≠ '.') (h : digits t = (w, r))
    (hr : r.head? ≠ some '.') : mantissa c t = (c :: w, r) := by
  simp only [mantissa, h, if_neg hc]
  cases r with
  | nil => rfl
  | cons e r =>
    have he : e ≠ '.' := fun heq => hr (congrArg some heq)
    simp [he]

theorem sign_append {s t : Text} (hs : s = [] ∨ s = ['+'] ∨ s = ['-'])
    (ht : ∀ c ∈ t.head?, c.isDigit = true) : sign (s ++ t) = (s, t) := by
  rcases hs with rfl | rfl | rfl
  · cases t with
    | nil => rfl
    | cons c t =>
      have hc : c.isDigit = true := ht c rfl
      have hplus : c ≠ '+' := Text.ne_of_true_of_false hc (by decide)
      have hminus : c ≠ '-' := Text.ne_of_true_of_false hc (by decide)
      simp [sign, hplus, hminus]
  · rfl
  · rfl

theorem eq_append_of_sign {t s r : Text} (h : sign t = (s, r)) :
    t = s ++ r ∧ (s = [] ∨ s = ['+'] ∨ s = ['-']) := by
  unfold sign at h
  split at h <;> cases h <;> simp

theorem exponent_of_mark {e : Char} {t s r ds r' : Text} (he : e = 'e' ∨ e = 'E')
    (hs : sign t = (s, r)) (hds : digits r = (ds, r')) :
    exponent (e :: t) = if ds = [] then .broken r else .complete (e :: s ++ ds) r' := by
  have hif : (decide (e = 'e') || decide (e = 'E')) = true := by simpa using he
  simp only [exponent, if_pos hif, hs, hds]
  cases ds <;> rfl

theorem exponent_of_not_mark {e : Char} (he : ¬(e = 'e' ∨ e = 'E')) (t : Text) :
    exponent (e :: t) = .absent := by
  have hif : ¬(decide (e = 'e') || decide (e = 'E')) = true := by simpa using he
  simp only [exponent, if_neg hif]

/-! ## What is left to be read -/

theorem suffix_digits (t : Text) : (digits t).2 <:+ t := List.dropWhile_suffix _

theorem suffix_sign (t : Text) : (sign t).2 <:+ t := by
  unfold sign
  split <;> simp

theorem suffix_complete (value t : Text) : (complete value t).rest <:+ t := by
  unfold complete
  repeat' split
  all_goals simp

theorem suffix_of_exponent_broken {t r : Text} (h : exponent t = .broken r) : r <:+ t := by
  unfold exponent at h
  split at h
  · simp at h
  · rename_i e u
    split at h
    · simp only at h
      split at h
      · cases h
        exact (suffix_sign u).trans (List.suffix_cons _ _)
      · simp at h
    · simp at h

theorem suffix_of_exponent_complete {t e r : Text} (h : exponent t = .complete e r) :
    r <:+ t := by
  unfold exponent at h
  split at h
  · simp at h
  · rename_i c u
    split at h
    · simp only at h
      split at h
      · simp at h
      · rename_i hd
        cases h
        have hr := suffix_digits (sign u).2
        rw [hd] at hr
        exact hr.trans ((suffix_sign u).trans (List.suffix_cons _ _))
    · simp at h

/-! ## The reader -/

theorem collect_of_isDigit (hc : c.isDigit = true) (value : Text)
    (seenDot seenDigit seenExponent : Bool) (t : Text) :
    collect value seenDot seenDigit seenExponent (c :: t) =
      collect (value ++ [c]) seenDot true seenExponent t := by
  rw [collect.eq_def]
  exact if_pos hc

/-- Digits are taken up to the last one, whatever part of a constant they belong to. -/
theorem collect_digits (value : Text) (seenDot seenExponent : Bool) (t : Text) :
    collect value seenDot true seenExponent t =
      collect (value ++ (digits t).1) seenDot true seenExponent (digits t).2 := by
  induction t generalizing value with
  | nil => simp [digits]
  | cons c t ih =>
    by_cases hc : c.isDigit = true
    · rw [digits_cons_of_isDigit hc, collect_of_isDigit hc, ih, List.append_assoc,
        List.singleton_append]
    · rw [digits_of_head (by simpa using hc), List.append_nil]

theorem isLetter_of_mark (hc : c = 'e' ∨ c = 'E') : isLetter c = true := by
  rcases hc with rfl | rfl <;> decide

/-- Behind the digits of an exponent the constant is at its end. -/
theorem conclude_collect_exponent (value : Text) (seenDot : Bool) (t : Text) :
    conclude (collect value seenDot true true t) =
      complete (value ++ (digits t).1) (digits t).2 := by
  rw [collect_digits]
  have hend := head_digits t
  cases hr : (digits t).2 with
  | nil => rfl
  | cons c r =>
    have hc : c.isDigit = false := hend c (by rw [hr]; rfl)
    have hmark := isLetter_of_mark (c := c)
    rw [collect.eq_def, complete]
    grind [conclude]

/-- Behind its mark and perhaps a sign an exponent has to go on with a digit. -/
theorem collect_of_mark (hc : c = 'e' ∨ c = 'E') (value : Text) (seenDot : Bool) (t : Text) :
    collect value seenDot true false (c :: t) =
      if (sign t).2.head?.any Char.isDigit then
        collect (value ++ c :: (sign t).1) seenDot true true (sign t).2
      else (none, (sign t).2) := by
  have hdigit : c.isDigit = false := by rcases hc with rfl | rfl <;> decide
  have hdot : c ≠ '.' := by rcases hc with rfl | rfl <;> decide
  have hmark : (decide (c = 'e') || decide (c = 'E')) = true := by simpa using hc
  rw [collect.eq_def]
  simp only [hdigit, hdot, hmark, Bool.not_true, Bool.or_false, Bool.false_eq_true, if_true, if_false]
  cases t with
  | nil => rfl
  | cons d t =>
    by_cases hd : d.isDigit = true
    · have hsign : sign (d :: t) = ([], d :: t) :=
        sign_append (s := []) (.inl rfl) (by simpa using hd)
      simp [hsign, hd, collect_of_isDigit hd]
    · by_cases hs : d = '+' ∨ d = '-'
      · have hsign : sign (d :: t) = ([d], t) := by rcases hs with rfl | rfl <;> rfl
        simp [hsign, hd, hs]
      · have hsign : sign (d :: t) = ([], d :: t) := by
          unfold sign
          split <;> simp_all
        simp [hsign, hd, hs]

/-- Behind the digits of a mantissa an exponent may follow. -/
theorem conclude_collect_mantissa (value : Text) {seenDot : Bool}
    (hr : ∀ c ∈ r.head?, c.isDigit = false ∧ (c = '.' → seenDot = true)) :
    conclude (collect value seenDot true false r) =
      match exponent r with
      | .absent => complete value r
      | .broken r' => .dropped .malformedNumber r'
      | .complete e r' => complete (value ++ e) r' := by
  cases r with
  | nil => rfl
  | cons c r =>
    obtain ⟨hc, hdot⟩ := hr c rfl
    by_cases hmark : c = 'e' ∨ c = 'E'
    · obtain ⟨s, r₁, hsign⟩ : ∃ s r₁, sign r = (s, r₁) := ⟨_, _, rfl⟩
      obtain ⟨ds, r₂, hdigits⟩ : ∃ ds r₂, digits r₁ = (ds, r₂) := ⟨_, _, rfl⟩
      rw [collect_of_mark hmark, exponent_of_mark hmark hsign hdigits, hsign]
      by_cases hds : ds = []
      · have hnone : r₁.head?.any Char.isDigit = false :=
          Text.any_head_eq_false (head_of_digits_eq_nil (hds ▸ hdigits))
        simp [hnone, hds, conclude]
      · have hfirst : r₁.head?.any Char.isDigit = true := any_head_of_digits hds hdigits
        simp [hfirst, hds, conclude_collect_exponent, hdigits]
    · rw [collect.eq_def, exponent, if_neg (by simpa using hmark), complete]
      grind [conclude]

/-- The reader comes to the end of the mantissa, with the flag for its dot. -/
theorem exists_collect_eq (h : c.isDigit = true ∨ c = '.' ∧ t.head?.any Char.isDigit = true) :
    ∃ m r seenDot, mantissa c t = (m, r) ∧
      collect [c] (c = '.') c.isDigit false t = collect m seenDot true false r ∧
      ∀ d ∈ r.head?, d.isDigit = false ∧ (d = '.' → seenDot = true) := by
  obtain ⟨ds, r, hdigits⟩ : ∃ ds r, digits t = (ds, r) := ⟨_, _, rfl⟩
  obtain ⟨ht, -, hend⟩ := digits_eq_iff.1 hdigits
  obtain hc | ⟨rfl, hnext⟩ := h
  · have hdot : c ≠ '.' := Text.ne_of_true_of_false hc (by decide)
    have hwhole := collect_digits [c] (c = '.') false t
    rw [hdigits] at hwhole
    rw [hc, hwhole]
    by_cases hpoint : r.head? = some '.'
    · obtain ⟨r, rfl⟩ := List.head?_eq_some_iff.1 hpoint
      refine ⟨_, _, true, mantissa_of_dot hdot hdigits, ?_,
        fun d hd => ⟨head_digits r d hd, fun _ => rfl⟩⟩
      have hstep : collect ([c] ++ ds) (decide (c = '.')) true false ('.' :: r) =
          collect ([c] ++ ds ++ ['.']) true true false r := by
        rw [collect.eq_def]
        simp [hdot]
      rw [hstep, collect_digits]
      simp
    · refine ⟨_, _, c = '.', mantissa_of_not_dot hdot hdigits hpoint, rfl,
        fun d hd => ⟨hend d hd, ?_⟩⟩
      rintro rfl
      exact absurd hd hpoint
  · cases t with
    | nil => simp at hnext
    | cons d t =>
      have hd : d.isDigit = true := by simpa using hnext
      refine ⟨'.' :: ds, r, true, ?_, ?_, fun a ha => ⟨hend a ha, fun _ => rfl⟩⟩
      · simp only [mantissa, hdigits, if_true]
      · rw [digits_cons_of_isDigit hd] at hdigits
        cases hdigits
        rw [collect_of_isDigit hd, collect_digits]
        rfl

/-- A constant is read part by part where a digit or a dot before a digit stands. -/
theorem read_eq_rule (h : c.isDigit = true ∨ c = '.' ∧ t.head?.any Char.isDigit = true) :
    read c t = rule c t := by
  obtain ⟨m, r, seenDot, hmantissa, hcollect, hr⟩ := exists_collect_eq h
  rw [read, hcollect, conclude_collect_mantissa m hr]
  simp only [rule, hmantissa]

end CompactSql.Number
