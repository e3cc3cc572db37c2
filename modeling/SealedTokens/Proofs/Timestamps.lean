import SealedTokens.Proofs.Calendar
import SealedTokens.Proofs.Instants
import SealedTokens.Proofs.Texts
import SealedTokens.Time.Rfc3339
/-!
# Timestamps

Timestamps are read back as the instants they were written for, leap seconds and the years with a
sign included. Only an instant that no clock shows is read as the one that its written form names.

## Main results

- `Rfc3339.read?_text`: reading a written timestamp gives the instant back, as it is shown
- `Rfc3339.onClock_of_read?`: whatever is read, clocks show it
- `Rfc3339.isStampChar_chars`: it is written in characters that texts carry as they are
- `Rfc3339.length_chars_le`: it is short

## Proof strategy

Each part of a timestamp has a lemma of the form "reading what was written, with anything behind
it that the part cannot run into, gives the part and leaves what is behind it". The whole is their
chain, and what the parts say together is the instant by the theorems on days and dates.
-/
namespace SealedTokens

namespace Instant

@[simp] theorem length_digits (width n : Nat) : (digits width n).length = width := by
  induction width generalizing n with
  | zero => rfl
  | succ width ih => simp [digits, ih]

theorem digits_ne_nil (width n : Nat) : digits (width + 1) n ≠ [] := by
  rw [← List.length_pos_iff, length_digits]
  exact width.succ_pos

theorem isDigit_of_mem_digits {width n : Nat} {c : Char} (member : c ∈ digits width n) :
    c.isDigit = true := by
  induction width generalizing n with
  | zero => simp [digits] at member
  | succ width ih =>
    rcases List.mem_append.mp member with earlier | last
    · exact ih earlier
    · rw [List.mem_singleton.mp last, Nat.isDigit_digitChar]
      simp only [decide_eq_true_eq]
      omega

end Instant

namespace Rfc3339

open Instant

/-! ### Runs of digits -/

theorem digitsValue_eq (cs : List Char) : digitsValue cs = Nat.ofDigitChars 10 cs 0 := by
  simp only [digitsValue, Nat.ofDigitChars_eq_foldl, Nat.mul_comm]
  rfl

theorem digitsValue_toDigits (n : Nat) : digitsValue (Nat.toDigits 10 n) = n := by
  rw [digitsValue_eq, Nat.ofDigitChars_toDigits (by decide) (by decide)]

theorem digitsValue_digits (width n : Nat) (small : n < 10 ^ width) :
    digitsValue (digits width n) = n := by
  induction width generalizing n with
  | zero =>
    have : n = 0 := by simpa using small
    subst this
    rfl
  | succ width ih =>
    have shorter : n / 10 < 10 ^ width := by
      rw [Nat.pow_succ] at small
      omega
    have earlier := ih (n / 10) shorter
    rw [digitsValue_eq] at earlier
    rw [digits, digitsValue_eq, Nat.ofDigitChars_append, earlier,
      Nat.ofDigitChars_cons_digitChar_of_lt_ten (by omega), Nat.ofDigitChars_nil]
    omega

theorem isBlank_eq_false_of_isDigit {c : Char} (h : c.isDigit = true) : Text.isBlank c = false := by
  have range := Text.toNat_of_isDigit h
  simp only [Text.isBlank, Bool.or_eq_false_iff, Bool.and_eq_false_iff, decide_eq_false_iff_not,
    beq_eq_false_iff_ne]
  omega

theorem skipBlanks_digits (width n : Nat) (rest : List Char) :
    skipBlanks (digits (width + 1) n ++ rest) = digits (width + 1) n ++ rest := by
  obtain ⟨first, more, shape⟩ := List.exists_cons_of_ne_nil (digits_ne_nil width n)
  have member : first ∈ digits (width + 1) n := by simp [shape]
  rw [shape]
  exact (Stops.cons (isBlank_eq_false_of_isDigit (isDigit_of_mem_digits member))).dropWhile_eq

/-- A number with its leading zeros is read back, and what follows it is left. -/
theorem number?_digits (width n : Nat) (rest : List Char) (small : n < 10 ^ (width + 1)) :
    number? (width + 1) (digits (width + 1) n ++ rest) = some (n, rest) := by
  have isDigit : ∀ c ∈ digits (width + 1) n, c.isDigit = true := fun c => isDigit_of_mem_digits
  have filled := digits_ne_nil width n
  -- Only so many characters are looked at, so more digits may follow.
  have run : ((digits (width + 1) n ++ rest).take (width + 1)).takeWhile Char.isDigit =
      digits (width + 1) n := by
    rw [List.take_left' (length_digits _ _)]
    simpa using takeWhile_run isDigit (Stops.nil _)
  rw [number?, skipBlanks_digits]
  simp only [run, List.isEmpty_eq_false_iff.mpr filled, Bool.false_eq_true, ite_false,
    digitsValue_digits _ _ small, List.drop_left]

theorem anyNumber?_run (run rest : List Char) (isDigit : ∀ c ∈ run, c.isDigit = true)
    (filled : run ≠ []) (stops : Stops Char.isDigit rest) :
    anyNumber? (run ++ rest) = some (digitsValue run, rest) := by
  rw [anyNumber?]
  simp only [takeWhile_run isDigit stops, dropWhile_run isDigit stops,
    List.isEmpty_eq_false_iff.mpr filled, Bool.false_eq_true, ite_false]

theorem mark?_cons (mark : Char) (rest : List Char) (visible : Text.isBlank mark = false) :
    mark? mark (mark :: rest) = some rest := by
  have : skipBlanks (mark :: rest) = mark :: rest := (Stops.cons visible).dropWhile_eq
  simp [mark?, this]

/-! ### Years and fractions -/

/-- The number of a year that is written with a sign. -/
theorem anyNumber?_signed (n : Nat) (rest : List Char) (stops : Stops Char.isDigit rest) :
    anyNumber? ((if n < 10000 then digits 4 n else Nat.toDigits 10 n) ++ rest) = some (n, rest) := by
  split
  next short =>
    rw [anyNumber?_run _ _ (fun c => isDigit_of_mem_digits) (digits_ne_nil 3 n) stops,
      digitsValue_digits 4 n short]
  next long =>
    rw [anyNumber?_run _ _ (fun c => Nat.isDigit_of_mem_toDigits (by decide) (by decide))
      Nat.toDigits_ne_nil stops, digitsValue_toDigits]

theorem year?_yearChars (year : Int) (rest : List Char) :
    year? (yearChars year ++ '-' :: rest) = some (year, '-' :: rest) := by
  have stops : Stops Char.isDigit ('-' :: rest) := .cons rfl
  unfold yearChars
  split
  next plain =>
    have small : year.toNat < 10 ^ 4 := by omega
    have read := number?_digits 3 year.toNat ('-' :: rest) small
    obtain ⟨first, more, shape⟩ := List.exists_cons_of_ne_nil (digits_ne_nil 3 year.toNat)
    have member : first ∈ digits 4 year.toNat := by simp [shape]
    have isDigit : first.isDigit = true := isDigit_of_mem_digits member
    rw [year?, skipBlanks_digits 3]
    -- A digit is not a sign.
    split
    next minus => simp_all
    next plus => simp_all
    · rw [read]
      simp [plain.1]
  next =>
    -- A year that four digits cannot name has a sign, and as many digits as it takes.
    have read := anyNumber?_signed year.natAbs ('-' :: rest) stops
    simp only [List.cons_append]
    generalize (if year.natAbs < 10000 then digits 4 year.natAbs
      else Nat.toDigits 10 year.natAbs) = run at read ⊢
    by_cases negative : year < 0
    · have blanks : skipBlanks ('-' :: (run ++ '-' :: rest)) = '-' :: (run ++ '-' :: rest) :=
        (Stops.cons rfl).dropWhile_eq
      simp only [negative, ite_true, year?, blanks, read, Option.map_some,
        Option.some.injEq, Prod.mk.injEq, and_true]
      omega
    · have blanks : skipBlanks ('+' :: (run ++ '-' :: rest)) = '+' :: (run ++ '-' :: rest) :=
        (Stops.cons rfl).dropWhile_eq
      simp only [negative, ite_false, year?, blanks, read, Option.map_some,
        Option.some.injEq, Prod.mk.injEq, and_true]
      omega

/-- Three, six or nine digits of a fraction stand for as many nanoseconds. -/
theorem fraction?_digits (width n : Nat) (rest : List Char) (small : n < 10 ^ (width + 1))
    (short : width + 1 ≤ 9) (stops : Stops Char.isDigit rest) :
    fraction? ('.' :: (digits (width + 1) n ++ rest)) =
      some (n * 10 ^ (9 - (width + 1)), rest) := by
  have isDigit : ∀ c ∈ digits (width + 1) n, c.isDigit = true := fun c => isDigit_of_mem_digits
  have filled := List.isEmpty_eq_false_iff.mpr (digits_ne_nil width n)
  have kept : (digits (width + 1) n).take 9 = digits (width + 1) n :=
    List.take_of_length_le (by simpa using short)
  simp only [fraction?, takeWhile_run isDigit stops, dropWhile_run isDigit stops, filled,
    Bool.false_eq_true, ite_false, kept, digitsValue_digits _ _ small, length_digits]
  rfl

theorem fraction?_fractionChars (nanos : Nat) (small : nanos < 1000000000) :
    fraction? (fractionChars nanos ++ ['Z']) = some (nanos, ['Z']) := by
  have stops : Stops Char.isDigit ['Z'] := .cons rfl
  unfold fractionChars
  split
  next zero => simp [zero, fraction?]
  · split
    next millis =>
      rw [List.cons_append, fraction?_digits 2 _ _ (by omega) (by decide) stops]
      simp only [Option.some.injEq, Prod.mk.injEq, and_true]
      omega
    · split
      next micros =>
        rw [List.cons_append, fraction?_digits 5 _ _ (by omega) (by decide) stops]
        simp only [Option.some.injEq, Prod.mk.injEq, and_true]
        omega
      · rw [List.cons_append, fraction?_digits 8 _ _ (by omega) (by decide) stops]
        simp

/-! ### The whole timestamp -/

/-- The instant of a date and a time of the day in UTC, leap seconds included. -/
theorem instant?_of_parts (t : Instant) :
    instant? t.date (t.secondOfDay / 3600) (t.secondOfDay / 60 % 60)
      (t.secondOfDay % 60 + t.nanos / 1000000000) (t.nanos % 1000000000) 0 = some t.shown := by
  have valid := t.nanos_valid
  have inCalendar := t.in_calendar
  obtain ⟨-, -, present⟩ := Calendar.Date.exists_ofDays (t.secs / 86400)
  obtain ⟨low, high⟩ := Calendar.Date.year_ofDays (t.secs / 86400) (by omega) (by omega)
  change instant? (.ofDays (t.secs / 86400)) ((t.secs % 86400).toNat / 3600)
    ((t.secs % 86400).toNat / 60 % 60) ((t.secs % 86400).toNat % 60 + t.nanos / 1000000000)
    (t.nanos % 1000000000) 0 = _
  rw [instant?, if_pos]
  · rw [Calendar.Date.days_ofDays, Instant.at?_eq_some]
    refine ⟨Instant.onClock_shown t, ?_⟩
    by_cases clock : t.OnClock
    · rw [Instant.shown_of_onClock clock]
      -- A leap second is the second before it, which is the last one of a minute.
      simp only [Instant.OnClock] at clock
      by_cases leap : (t.secs % 86400).toNat % 60 + t.nanos / 1000000000 = 60
      · rw [if_pos leap]
        omega
      · rw [if_neg leap]
        omega
    -- After any other second the fraction that goes beyond it is written as the second that follows.
    · obtain ⟨secs, nanos⟩ := Instant.shown_of_not_onClock clock
      simp only [Instant.OnClock] at clock
      rw [secs, nanos, if_neg (by omega)]
      omega
  · simp only [Bool.and_eq_true, decide_eq_true_eq]
    refine ⟨⟨⟨⟨⟨⟨present, low⟩, high⟩, ?_⟩, ?_⟩, ?_⟩, by decide⟩
    all_goals omega

theorem read?_chars (t : Instant) : read? (chars t) = some t.shown := by
  obtain ⟨month, month', day⟩ := Calendar.Date.exists_ofDays (t.secs / 86400)
  have dayLe : (Calendar.Date.ofDays (t.secs / 86400)).day ≤ 31 := by
    simp only [Calendar.Date.exists?, Bool.and_eq_true, decide_eq_true_eq] at day
    refine le_trans day.2 ?_
    unfold Calendar.daysInMonth
    repeat' split
    all_goals decide
  have small := t.nanos_valid
  have second := t.secondOfDay.mod_lt (show 0 < 60 by decide)
  have hour : t.secondOfDay < 86400 := by
    simp only [Instant.secondOfDay]
    omega
  -- The parts in order. Each is read with whatever stands behind it.
  have dash : ∀ rest, mark? '-' ('-' :: rest) = some rest := fun rest => mark?_cons _ _ (by decide)
  have colon : ∀ rest, mark? ':' (':' :: rest) = some rest := fun rest => mark?_cons _ _ (by decide)
  have offset : offset? (skipBlanks ['Z']) = some (0, []) := by decide
  have readMonth rest := number?_digits 1 t.date.month rest (by simp only [Instant.date]; omega)
  have readDay rest := number?_digits 1 t.date.day rest (by simp only [Instant.date]; omega)
  have readHour rest := number?_digits 1 (t.secondOfDay / 3600) rest (by omega)
  have readMinute rest := number?_digits 1 (t.secondOfDay / 60 % 60) rest (by omega)
  have readSecond rest :=
    number?_digits 1 (t.secondOfDay % 60 + t.nanos / 1000000000) rest (by omega)
  have written : chars t = yearChars t.date.year ++ '-' :: (digits 2 t.date.month ++
      '-' :: (digits 2 t.date.day ++ 'T' :: (digits 2 (t.secondOfDay / 3600) ++
      ':' :: (digits 2 (t.secondOfDay / 60 % 60) ++
      ':' :: (digits 2 (t.secondOfDay % 60 + t.nanos / 1000000000) ++
      (fractionChars (t.nanos % 1000000000) ++ ['Z'])))))) := by
    simp only [chars, dateChars, timeChars, List.append_assoc, List.cons_append]
  have final := instant?_of_parts t
  -- What the parts are no longer matters, only that each is read as what was written.
  generalize t.date = date at *
  generalize t.secondOfDay % 60 + t.nanos / 1000000000 = second at *
  generalize t.secondOfDay / 60 % 60 = minute at *
  generalize t.secondOfDay / 3600 = hour at *
  have fraction := fraction?_fractionChars (t.nanos % 1000000000) (Nat.mod_lt _ (by decide))
  generalize t.nanos % 1000000000 = nanos at *
  rw [written, read?]
  refine Option.bind_eq_some_iff.mpr ⟨_, year?_yearChars _ _, ?_⟩
  refine Option.bind_eq_some_iff.mpr ⟨_, dash _, ?_⟩
  refine Option.bind_eq_some_iff.mpr ⟨_, readMonth _, ?_⟩
  refine Option.bind_eq_some_iff.mpr ⟨_, dash _, ?_⟩
  refine Option.bind_eq_some_iff.mpr ⟨_, readDay _, ?_⟩
  refine Option.bind_eq_some_iff.mpr ⟨_, rfl, ?_⟩
  refine Option.bind_eq_some_iff.mpr ⟨_, readHour _, ?_⟩
  refine Option.bind_eq_some_iff.mpr ⟨_, colon _, ?_⟩
  refine Option.bind_eq_some_iff.mpr ⟨_, readMinute _, ?_⟩
  refine Option.bind_eq_some_iff.mpr ⟨_, colon _, ?_⟩
  refine Option.bind_eq_some_iff.mpr ⟨_, readSecond _, ?_⟩
  refine Option.bind_eq_some_iff.mpr ⟨_, fraction, ?_⟩
  refine Option.bind_eq_some_iff.mpr ⟨_, offset, ?_⟩
  exact final

theorem onClock_of_instant? {date : Calendar.Date} {hour minute second nanos : Nat} {offset : Int}
    {t : Instant} (made : instant? date hour minute second nanos offset = some t) : t.OnClock := by
  unfold instant? at made
  split at made
  · exact Instant.onClock_of_at? made
  · cases made

theorem onClock_of_read? {cs : List Char} {t : Instant} (read : read? cs = some t) :
    t.OnClock := by
  -- Past the parts of the date, the time and the offset, the instant is made of them.
  obtain ⟨year, -, read⟩ := Option.bind_eq_some_iff.mp read
  obtain ⟨_, -, read⟩ := Option.bind_eq_some_iff.mp read
  obtain ⟨month, -, read⟩ := Option.bind_eq_some_iff.mp read
  obtain ⟨_, -, read⟩ := Option.bind_eq_some_iff.mp read
  obtain ⟨day, -, read⟩ := Option.bind_eq_some_iff.mp read
  obtain ⟨_, -, read⟩ := Option.bind_eq_some_iff.mp read
  obtain ⟨hour, -, read⟩ := Option.bind_eq_some_iff.mp read
  obtain ⟨_, -, read⟩ := Option.bind_eq_some_iff.mp read
  obtain ⟨minute, -, read⟩ := Option.bind_eq_some_iff.mp read
  obtain ⟨_, -, read⟩ := Option.bind_eq_some_iff.mp read
  obtain ⟨second, -, read⟩ := Option.bind_eq_some_iff.mp read
  obtain ⟨nanos, -, read⟩ := Option.bind_eq_some_iff.mp read
  obtain ⟨⟨offset, rest⟩, -, made⟩ := Option.bind_eq_some_iff.mp read
  dsimp only at made
  split at made
  · exact onClock_of_instant? made
  · cases made

theorem read?_text (t : Instant) : read? (text t).toList = some t.shown := by
  rw [text, String.toList_ofList, read?_chars]

/-! ### Characters and length -/

/-- The characters of a written timestamp lie between `+` and `Z`. -/
def IsStampChar (c : Char) : Prop := 43 ≤ c.toNat ∧ c.toNat ≤ 90

theorem isStampChar_of_isDigit {c : Char} (h : c.isDigit = true) : IsStampChar c := by
  have range := Text.toNat_of_isDigit h
  simp only [IsStampChar]
  omega

theorem isStampChar_digits {width n : Nat} : ∀ c ∈ digits width n, IsStampChar c :=
  fun _ member => isStampChar_of_isDigit (isDigit_of_mem_digits member)

theorem isStampChar_yearChars (year : Int) : ∀ c ∈ yearChars year, IsStampChar c := by
  unfold yearChars
  split
  · exact isStampChar_digits
  · intro c member
    rcases List.mem_cons.mp member with rfl | member
    · split <;> simp [IsStampChar]
    · split at member
      · exact isStampChar_digits c member
      · exact isStampChar_of_isDigit
          (Nat.isDigit_of_mem_toDigits (by decide) (by decide) member)

theorem isStampChar_fractionChars (nanos : Nat) : ∀ c ∈ fractionChars nanos, IsStampChar c := by
  unfold fractionChars
  repeat' split
  · simp
  all_goals
    intro c member
    rcases List.mem_cons.mp member with rfl | member
    · simp [IsStampChar]
    · exact isStampChar_digits c member

theorem isStampChar_chars (t : Instant) : ∀ c ∈ chars t, IsStampChar c := by
  have dash : IsStampChar '-' := by simp [IsStampChar]
  have colon : IsStampChar ':' := by simp [IsStampChar]
  have date : IsStampChar 'T' := by simp [IsStampChar]
  have utc : IsStampChar 'Z' := by simp [IsStampChar]
  simp only [chars, dateChars, timeChars, List.forall_mem_append, List.forall_mem_cons, dash, colon,
    date, utc, true_and]
  refine ⟨⟨⟨⟨isStampChar_yearChars _, isStampChar_digits⟩, isStampChar_digits⟩, ?_, ?_⟩, ?_⟩
  · exact ⟨⟨isStampChar_digits, isStampChar_digits⟩, isStampChar_digits⟩
  · exact isStampChar_fractionChars _
  · exact List.forall_mem_nil _

theorem length_yearChars_le (year : Int) (low : -262143 ≤ year) (high : year ≤ 262142) :
    (yearChars year).length ≤ 7 := by
  have six : (Nat.toDigits 10 year.natAbs).length ≤ 6 :=
    (Nat.length_toDigits_le_iff (by decide) (by decide)).mpr (by omega)
  unfold yearChars
  split
  · simp
  · simp only [List.length_cons]
    split
    · simp
    · omega

theorem length_fractionChars_le (nanos : Nat) : (fractionChars nanos).length ≤ 10 := by
  unfold fractionChars
  repeat' split
  all_goals simp

theorem length_chars_le (t : Instant) : (chars t).length ≤ 33 := by
  have inCalendar := t.in_calendar
  obtain ⟨low, high⟩ := Calendar.Date.year_ofDays (t.secs / 86400) (by omega) (by omega)
  have year := length_yearChars_le _ low high
  have fraction := length_fractionChars_le (t.nanos % 1000000000)
  simp only [chars, dateChars, timeChars, List.length_append, List.length_cons, length_digits,
    Instant.date, List.length_nil]
  omega

end Rfc3339

end SealedTokens
