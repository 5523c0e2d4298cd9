import ToolSites.Proofs.Toml.Fuel
/-!
# Integers of a TOML document that are too long to be read

What such an integer looks like is said by `LongInteger`, without the readers: a sign or none, digits
that do not start with a zero and may have underscores between them, and nothing after them that makes
it another number. Reading a value that is no array and no table gives up over its digits exactly if
it is one (`scalar_eq_tooManyDigits`).
-/
open ToolSites.Text (isDigit hexValue? signPart maxDigits)

namespace ToolSites.Toml

variable {cs rest : List Char} {n : Nat}

/-! ## Long integers -/

/-- So many digits; before each, there may be an underscore. -/
inductive DigitRun : List Char → Nat → Prop
  | nil : DigitRun [] 0
  | digit {d cs n} : isDigit d = true → DigitRun cs n → DigitRun (d :: cs) (n + 1)
  | separated {d cs n} : isDigit d = true → DigitRun cs n → DigitRun ('_' :: d :: cs) (n + 1)

/-- A sign, or none. -/
def IsSign (sign : List Char) : Prop := sign = [] ∨ sign = ['+'] ∨ sign = ['-']

/-- The text starts with no digit. -/
def NoDigit (cs : List Char) : Prop := ∀ d rest, cs = d :: rest → isDigit d = false

/-- The text does not go on with the digits before it. -/
structure EndsDigits (cs : List Char) : Prop where
  digit : NoDigit cs
  separated : ∀ rest, cs = '_' :: rest → NoDigit rest

/-- The text does not go on with the integer before it: with a digit, a fraction or a power of ten. -/
structure EndsInteger (cs : List Char) : Prop extends EndsDigits cs where
  fraction : ∀ rest, cs = '.' :: rest → NoDigit rest
  power : ∀ e sign rest, e = 'e' ∨ e = 'E' → IsSign sign → cs = e :: (sign ++ rest) → NoDigit rest

/-- The text starts with an integer of so many digits, which are too many. -/
def LongInteger (cs : List Char) (n : Nat) : Prop :=
  maxDigits < n ∧ ∃ sign first more after, cs = sign ++ (first :: more ++ after) ∧ IsSign sign ∧
    isDigit first = true ∧ first ≠ '0' ∧ DigitRun (first :: more) n ∧ EndsInteger after

/-! ## Digits -/

theorem isDigitIn_ten (c : Char) : isDigitIn 10 c = isDigit c := by
  have hle : ∀ a b : Char, a ≤ b ↔ a.toNat ≤ b.toNat := fun _ _ => Iff.rfl
  unfold isDigitIn isDigit hexValue?
  rw [Bool.eq_iff_iff, Option.any_eq_true]
  simp only [Bool.and_eq_true, decide_eq_true_eq, hle, Char.reduceToNat]
  constructor
  · rintro ⟨digit, hdigit, hlt⟩
    repeat' split at hdigit
    all_goals cases hdigit
    all_goals omega
  · intro h
    rw [if_pos h]
    exact ⟨_, rfl, by omega⟩

theorem DigitRun.mem {run : List Char} (h : DigitRun run n) {c : Char} (hc : c ∈ run) :
    isDigit c = true ∨ c = '_' := by
  induction h with
  | nil => cases hc
  | digit hd _ ih =>
    rcases List.mem_cons.1 hc with rfl | hc
    · exact .inl hd
    · exact ih hc
  | separated hd _ ih =>
    rcases List.mem_cons.1 hc with rfl | hc
    · exact .inr rfl
    rcases List.mem_cons.1 hc with rfl | hc
    · exact .inl hd
    · exact ih hc

theorem DigitRun.le_length {run : List Char} (h : DigitRun run n) : n ≤ run.length := by
  induction h with
  | nil => exact Nat.le_refl 0
  | digit _ _ ih => exact Nat.succ_le_succ ih
  | separated _ _ ih => exact Nat.le_succ_of_le (Nat.succ_le_succ ih)

theorem digitRun_of_digits {digits : List Char} (h : ∀ c ∈ digits, isDigit c = true) :
    DigitRun digits digits.length := by
  induction digits with
  | nil => exact .nil
  | cons d rest ih => exact .digit (h d (.head _)) (ih fun c hc => h c (.tail _ hc))

theorem noDigit_cons {d : Char} : NoDigit (d :: cs) ↔ isDigit d = false := by
  constructor
  · intro h
    exact h d cs rfl
  · intro h c rest hc
    cases hc
    exact h

theorem noDigit_nil : NoDigit [] := by
  intro d rest h
  cases h

theorem endsDigits_nil : EndsDigits [] where
  digit := noDigit_nil
  separated rest h := by cases h

theorem endsInteger_nil : EndsInteger [] where
  toEndsDigits := endsDigits_nil
  fraction rest h := by cases h
  power e sign rest _ _ h := by cases h

/-- The digits that are read are a run, and it is read to its end. -/
theorem exists_digitRun (cs : List Char) : ∃ run, cs = run ++ (moreDigits 10 cs).2 ∧
    DigitRun run (moreDigits 10 cs).1.length ∧ EndsDigits (moreDigits 10 cs).2 := by
  fun_induction moreDigits 10 cs with
  | case1 => exact ⟨[], rfl, .nil, endsDigits_nil⟩
  | case2 d after hd digits rest hmore ih =>
    rw [hmore] at ih
    obtain ⟨run, hrun, hdigits, hends⟩ := ih
    exact ⟨'_' :: d :: run, by rw [hrun]; rfl, .separated (isDigitIn_ten d ▸ hd) hdigits, hends⟩
  | case3 d after hd =>
    rw [isDigitIn_ten, Bool.not_eq_true] at hd
    refine ⟨[], rfl, .nil, noDigit_cons.2 rfl, fun rest hrest => ?_⟩
    cases hrest
    exact noDigit_cons.2 hd
  | case4 d after _ hd digits rest hmore ih =>
    rw [hmore] at ih
    obtain ⟨run, hrun, hdigits, hends⟩ := ih
    exact ⟨d :: run, by rw [hrun]; rfl, .digit (isDigitIn_ten d ▸ hd) hdigits, hends⟩
  | case5 d after hsep hd =>
    rw [isDigitIn_ten, Bool.not_eq_true] at hd
    refine ⟨[], rfl, .nil, noDigit_cons.2 hd, fun rest hrest => ?_⟩
    cases hrest
    cases after with
    | nil => exact noDigit_nil
    | cons c after => exact absurd rfl (hsep c after rfl)

theorem moreDigits_cons {d : Char} (hd : isDigit d = true) :
    moreDigits 10 (d :: cs) = (d :: (moreDigits 10 cs).1, (moreDigits 10 cs).2) := by
  conv_lhs => unfold moreDigits
  split
  · next he => cases he
  · next he =>
    cases he
    cases hd
  · next he =>
    cases he
    rw [isDigitIn_ten, if_pos hd]

theorem EndsDigits.moreDigits_eq (h : EndsDigits cs) : moreDigits 10 cs = ([], cs) := by
  unfold moreDigits
  split
  · rfl
  · next d rest =>
    rw [isDigitIn_ten, h.separated _ rfl d rest rfl]
    rfl
  · next d rest _ =>
    rw [isDigitIn_ten, h.digit d rest rfl]
    rfl

/-- A run is read as so many digits, if nothing follows that belongs to it. -/
theorem DigitRun.moreDigits_eq {run after : List Char} (h : DigitRun run n) (hends : EndsDigits after) :
    ∃ digits, moreDigits 10 (run ++ after) = (digits, after) ∧ digits.length = n := by
  induction h with
  | nil => exact ⟨[], hends.moreDigits_eq, rfl⟩
  | @digit d cs n hd _ ih =>
    obtain ⟨digits, hdigits, hlength⟩ := ih
    exact ⟨d :: digits, by rw [List.cons_append, moreDigits_cons hd, hdigits], congrArg (· + 1) hlength⟩
  | @separated d cs n hd _ ih =>
    obtain ⟨digits, hdigits, hlength⟩ := ih
    refine ⟨d :: digits, ?_, congrArg (· + 1) hlength⟩
    rw [List.cons_append, List.cons_append, moreDigits, isDigitIn_ten, if_pos hd, hdigits]

theorem digits?_eq_none : digits? 10 cs = none ↔ NoDigit cs := by
  cases cs with
  | nil => exact iff_of_true rfl noDigit_nil
  | cons d rest =>
    rw [noDigit_cons, ← isDigitIn_ten, ← Bool.not_eq_true, digits?]
    split
    · next hd => exact iff_of_false (Option.some_ne_none _) (not_not.2 hd)
    · next hd => exact iff_of_true rfl hd

theorem fractionDigits?_eq_none : fractionDigits? cs = none ↔ ∀ rest, cs = '.' :: rest → NoDigit rest := by
  unfold fractionDigits?
  split
  · next rest =>
    rw [digits?_eq_none]
    exact ⟨fun h tail ht => by cases ht; exact h, fun h => h rest rfl⟩
  · next hdot => exact iff_of_true rfl fun rest hrest => absurd hrest (hdot rest)

/-! ## Signs -/

theorem exists_sign (cs : List Char) : ∃ sign, IsSign sign ∧ cs = sign ++ (signPart cs).2 := by
  unfold signPart
  split
  · exact ⟨['-'], .inr (.inr rfl), rfl⟩
  · exact ⟨['+'], .inr (.inl rfl), rfl⟩
  · exact ⟨[], .inl rfl, rfl⟩

theorem signPart_of_digit {sign : List Char} {d : Char} (hsign : IsSign sign) (hd : isDigit d = true) :
    (signPart (sign ++ d :: cs)).2 = d :: cs := by
  rcases hsign with rfl | rfl | rfl
  · unfold signPart
    split
    · next he => cases he; cases hd
    · next he => cases he; cases hd
    · rfl
  · rfl
  · rfl

theorem powerOfTen?_eq_none : powerOfTen? cs = none ↔
    ∀ e sign rest, e = 'e' ∨ e = 'E' → IsSign sign → cs = e :: (sign ++ rest) → NoDigit rest := by
  constructor
  · intro h e sign rest he hsign hcs d tail hrest
    subst hcs hrest
    rw [Bool.eq_false_iff]
    intro hd
    rw [powerOfTen?, if_pos he, signPart_of_digit hsign hd] at h
    have hnone : digits? 10 (d :: tail) = none := by
      cases hdigits : digits? 10 (d :: tail) with
      | none => rfl
      | some read => rw [hdigits] at h; cases h
    exact Bool.false_ne_true ((noDigit_cons.1 (digits?_eq_none.1 hnone)).symm.trans hd)
  · intro h
    unfold powerOfTen?
    split
    · next e after =>
      split
      · next he =>
        obtain ⟨sign, hsign, hafter⟩ := exists_sign after
        rw [digits?_eq_none.2 (h e sign _ he hsign (congrArg (e :: ·) hafter))]
        rfl
      · rfl
    · rfl

theorem endsInteger_iff (hends : EndsDigits cs) :
    EndsInteger cs ↔ fractionDigits? cs = none ∧ powerOfTen? cs = none := by
  rw [fractionDigits?_eq_none, powerOfTen?_eq_none]
  exact ⟨fun h => ⟨h.fraction, h.power⟩, fun h => ⟨hends, h.1, h.2⟩⟩

/-! ## Numbers -/

theorem wholePart?_of_long {whole : List Char} (h : wholePart? cs = some (whole, rest))
    (hlong : maxDigits < whole.length) : ∃ first more, cs = first :: more ++ rest ∧ isDigit first = true ∧
      first ≠ '0' ∧ DigitRun (first :: more) whole.length ∧ EndsDigits rest := by
  unfold wholePart? at h
  split at h
  · cases h
    exact absurd hlong (by decide)
  · next hzero =>
    unfold digits? at h
    split at h
    · cases h
    next first tail =>
    split at h
    · next hd =>
      cases h
      rw [isDigitIn_ten] at hd
      obtain ⟨run, hrun, hdigits, hends⟩ := exists_digitRun tail
      refine ⟨first, run, congrArg (first :: ·) hrun, hd, ?_, .digit hd hdigits, hends⟩
      rintro rfl
      exact hzero tail rfl
    · cases h

theorem wholePart?_of_run {first : Char} {more after : List Char} (hd : isDigit first = true)
    (hzero : first ≠ '0') (hrun : DigitRun (first :: more) n) (hends : EndsDigits after) :
    ∃ whole, wholePart? (first :: more ++ after) = some (whole, after) ∧ whole.length = n := by
  obtain ⟨whole, hwhole, hlength⟩ := hrun.moreDigits_eq hends
  rw [List.cons_append, moreDigits_cons hd] at hwhole
  refine ⟨whole, ?_, hlength⟩
  unfold wholePart?
  split
  · next he => cases he; exact absurd rfl hzero
  · rw [List.cons_append, digits?, isDigitIn_ten, if_pos hd]
    exact congrArg some hwhole

theorem decimal?_of_whole {whole : List Char} (hwhole : wholePart? (signPart cs).2 = some (whole, rest))
    (hfraction : fractionDigits? rest = none) (hpower : powerOfTen? rest = none)
    (hlong : maxDigits < whole.length) : decimal? cs = some (.tooManyDigits whole.length, rest) := by
  unfold decimal?
  simp [hwhole, hfraction, hpower, hlong]

theorem LongInteger.of_decimal? (h : decimal? cs = some (.tooManyDigits n, rest)) : LongInteger cs n := by
  obtain ⟨whole, after, hwhole, -, hinteger⟩ := decimal?_eq_some h
  obtain ⟨rfl, hfraction, hpower, rfl, hlong⟩ := hinteger n rfl
  obtain ⟨sign, hsign, hcs⟩ := exists_sign cs
  obtain ⟨first, more, hwhole, hd, hzero, hrun, hends⟩ := wholePart?_of_long hwhole hlong
  rw [hwhole] at hcs
  exact ⟨hlong, sign, first, more, rest, hcs, hsign, hd, hzero, hrun,
    (endsInteger_iff hends).2 ⟨hfraction, hpower⟩⟩

theorem LongInteger.decimal?_eq (h : LongInteger cs n) :
    ∃ rest, decimal? cs = some (.tooManyDigits n, rest) := by
  obtain ⟨hlong, sign, first, more, after, rfl, hsign, hd, hzero, hrun, hends⟩ := h
  obtain ⟨hfraction, hpower⟩ := (endsInteger_iff hends.toEndsDigits).1 hends
  obtain ⟨whole, hwhole, rfl⟩ := wholePart?_of_run hd hzero hrun hends.toEndsDigits
  have hsigned : wholePart? (signPart (sign ++ (first :: more ++ after))).2 = some (whole, after) := by
    rw [List.cons_append, signPart_of_digit hsign hd]
    exact hwhole
  exact ⟨after, decimal?_of_whole hsigned hfraction hpower hlong⟩

theorem named?_ne_tooManyDigits : named? cs ≠ some (.tooManyDigits n, rest) := by
  unfold named?
  dsimp only
  split
  · simp
  · split <;> simp

theorem LongInteger.not_based (h : LongInteger cs n) : basedInteger? cs = none := by
  obtain ⟨-, sign, first, more, after, rfl, hsign, -, hzero, -⟩ := h
  unfold basedInteger?
  split
  · next he =>
    rcases hsign with rfl | rfl | rfl
    · exact absurd (List.cons.inj he).1 hzero
    · cases he
    · cases he
  · rfl

/-- A number has too many digits exactly if it is a long integer. -/
theorem number?_eq_tooManyDigits :
    (∃ rest, number? cs = some (.tooManyDigits n, rest)) ↔ LongInteger cs n := by
  constructor
  · rintro ⟨rest, h⟩
    unfold number? at h
    split at h
    · cases h
    · rcases Option.or_eq_some_iff.1 h with h | ⟨-, h⟩
      · exact .of_decimal? h
      · exact absurd h named?_ne_tooManyDigits
  · intro h
    obtain ⟨rest, hrest⟩ := h.decimal?_eq
    refine ⟨rest, ?_⟩
    unfold number?
    rw [h.not_based, hrest]
    rfl

/-! ## Scalars -/

/-- If a long integer starts with a digit, and not with a sign, its first characters are digits and
underscores. -/
theorem LongInteger.char {d c : Char} {tail : List Char} {i : Nat} (h : LongInteger (d :: tail) n)
    (hd : isDigit d = true) (hi : i < 5) (hc : (d :: tail)[i]? = some c) : isDigit c = true ∨ c = '_' := by
  obtain ⟨hlong, sign, first, more, after, he, hsign, -, -, hrun, -⟩ := h
  have hlength : 4300 < (first :: more).length := Nat.lt_of_lt_of_le hlong hrun.le_length
  rcases hsign with rfl | rfl | rfl
  · rw [he, List.nil_append, List.getElem?_append_left (by omega)] at hc
    exact hrun.mem (List.mem_of_getElem? hc)
  · cases he
    cases hd
  · cases he
    cases hd

/-- The fifth character of a date is a hyphen. -/
theorem LongInteger.date?_eq (h : LongInteger cs n) : date? cs = none := by
  cases hdate : date? cs with
  | none => rfl
  | some read =>
    obtain ⟨a, b, c, d, tail, ha, rfl, -⟩ := date?_eq_some hdate
    rcases @LongInteger.char n a '-' _ 4 h ha (by decide) rfl with hd | he
    · cases hd
    · cases he

/-- The third character of a time is a colon. -/
theorem LongInteger.time?_eq (h : LongInteger cs n) : time? cs = none := by
  cases htime : time? cs with
  | none => rfl
  | some read =>
    obtain ⟨a, b, tail, ha, -, rfl, -⟩ := time?_eq_some htime
    rcases @LongInteger.char n a ':' _ 2 h ha (by decide) rfl with hd | he
    · cases hd
    · cases he

/-- A long integer is no date and no time. -/
theorem LongInteger.moment_eq (h : LongInteger cs n) : moment cs = .absent := by
  unfold moment
  rw [h.date?_eq, h.time?_eq]

theorem LongInteger.head (h : LongInteger cs n) :
    ∃ c tail, cs = c :: tail ∧ (isDigit c = true ∨ c = '+' ∨ c = '-') := by
  obtain ⟨-, sign, first, more, after, rfl, hsign, hd, -⟩ := h
  rcases hsign with rfl | rfl | rfl
  · exact ⟨first, _, rfl, .inl hd⟩
  · exact ⟨'+', _, rfl, .inr (.inl rfl)⟩
  · exact ⟨'-', _, rfl, .inr (.inr rfl)⟩

/-- Reading a scalar gives up over its digits exactly if it is a long integer. -/
theorem scalar_eq_tooManyDigits : scalar cs = .error (.tooManyDigits n) ↔ LongInteger cs n := by
  constructor
  · intro h
    unfold scalar at h
    split at h
    · cases h
    split at h
    · unfold orMalformed at h
      split at h <;> cases h
    split at h
    · cases h
    · cases h
    split at h
    · cases h
    · cases h
    split at h
    · cases h
    · next hnumber =>
      cases h
      exact number?_eq_tooManyDigits.1 ⟨_, hnumber⟩
    · cases h
  · intro h
    obtain ⟨rest, hnumber⟩ := number?_eq_tooManyDigits.2 h
    obtain ⟨c, tail, rfl, hc⟩ := h.head
    have hquote : ¬ (c = '"' ∨ c = '\'') := by
      rintro (rfl | rfl) <;> simp [isDigit] at hc
    -- no string and no word starts like a number
    have hword : ∀ word d letters, word.toList = d :: letters → d ≠ c → after? word (c :: tail) = none := by
      intro word d letters hword hne
      unfold after?
      rw [hword, List.isPrefixOf, beq_false_of_ne hne, Bool.false_and]
      rfl
    have htrue : 't' ≠ c := by rintro rfl; simp [isDigit] at hc
    have hfalse : 'f' ≠ c := by rintro rfl; simp [isDigit] at hc
    unfold scalar
    dsimp only
    rw [if_neg hquote, hword "true" 't' _ rfl htrue, hword "false" 'f' _ rfl hfalse, h.moment_eq, hnumber]

/-- Reading a scalar takes no more stack than there is for it. -/
theorem scalar_ne_tooDeep : scalar cs ≠ .error .tooDeep := by
  intro h
  unfold scalar at h
  split at h
  · cases h
  split at h
  · unfold orMalformed at h
    split at h <;> cases h
  split at h
  · cases h
  · cases h
  split at h
  · cases h
  · cases h
  split at h <;> cases h

end ToolSites.Toml
