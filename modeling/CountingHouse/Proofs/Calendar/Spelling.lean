/-
Dates and instants are read back.

The written form of a date is read as that date, and that of an instant as the instant, to the
nanosecond and over the whole range of years. There is one exception. A leap second is written
as second 60, so it has to stand at the end of a minute (`Instant.IsRegular`), as every clock
has it; one that is claimed elsewhere is written like the second behind it (`Instant.shown`),
and an instant that is read is never before the one that was written.
-/
import CountingHouse.Calendar.Rfc3339
import CountingHouse.Proofs.Calendar.Civil
import CountingHouse.Proofs.Text.Numeral

set_option autoImplicit false

namespace CountingHouse

open Text

/-! ## Blanks -/

namespace Text

/-- A digit is not a blank, so it ends what is trimmed in front of a number. -/
theorem isBlank_of_isDigit {c : Char} (h : c.isDigit = true) : isBlank c = false := by
  have hrange : 48 ≤ c.toNat ∧ c.toNat ≤ 57 := by
    simp only [Char.isDigit, ge_iff_le, Bool.and_eq_true, decide_eq_true_eq] at h
    exact h
  simp only [isBlank, Bool.or_eq_false_iff, Bool.and_eq_false_iff, decide_eq_false_iff_not,
    beq_eq_false_iff_ne]
  omega

/-- There are no blanks in front of a run of digits. -/
theorem trimFront_append {s : List Char} (hrun : IsRun s) (hne : s ≠ []) (rest : List Char) :
    trimFront (s ++ rest) = s ++ rest := by
  obtain ⟨c, s, rfl⟩ := List.exists_cons_of_ne_nil hne
  have hc := isBlank_of_isDigit (hrun c (List.mem_cons_self))
  unfold trimFront
  rw [List.cons_append, List.dropWhile_cons, hc]
  rfl

/-- Nothing is trimmed in front of a character that is not a blank. -/
theorem trimFront_cons {c : Char} (h : isBlank c = false) (rest : List Char) :
    trimFront (c :: rest) = c :: rest := by
  unfold trimFront
  rw [List.dropWhile_cons, h]
  rfl

end Text

/-! ## Dates -/

namespace Civil

/-- Month and day have room in two digits. -/
theorem bounds_of_isValid {c : Civil} (h : c.isValid = true) : c.month < 100 ∧ c.day < 100 := by
  have hmonth : daysInMonth c.year c.month ≤ 31 := by
    unfold daysInMonth
    split
    · split <;> decide
    · split <;> decide
  simp only [isValid, Bool.and_eq_true, decide_eq_true_eq] at h
  omega

end Civil

namespace Date

/-- The date of the day of a date is the date again. -/
theorem ofCivil?_civil (d : Date) : ofCivil? d.civil = some d := by
  unfold ofCivil? civil ofDay?
  rw [if_pos (Civil.isValid_ofDayNumber d.day), Civil.dayNumber_ofDayNumber,
    dif_pos ⟨d.firstDay_le, d.le_lastDay⟩]

/-- Digits without a sign are a year of up to four of them. -/
theorem readYear?_run {s : List Char} (hrun : IsRun s) (hne : s ≠ []) (rest : List Char) :
    readYear? (s ++ rest) = (readNumber? 4 (s ++ rest)).map fun (n, s) => ((n : Int), s) := by
  obtain ⟨c, s, rfl⟩ := List.exists_cons_of_ne_nil hne
  obtain ⟨hminus, hplus⟩ := ne_sign_of_isDigit (hrun c List.mem_cons_self)
  rw [List.cons_append, readYear?]
  · intro rest' h
    exact hminus (List.cons.inj h).1
  · intro rest' h
    exact hplus (List.cons.inj h).1

/-- A year is read up to the hyphen behind it. -/
theorem readYear?_writeYear (year : Int) (rest : List Char) :
    readYear? (writeYear year ++ '-' :: rest) = some (year, '-' :: rest) := by
  have hstop : ∀ c ∈ ('-' :: rest).head?, c.isDigit = false := by
    rintro c ⟨⟩
    rfl
  unfold writeYear
  by_cases hplain : 0 ≤ year ∧ year ≤ 9999
  · rw [if_pos hplain, readYear?_run (isRun_padded 4 _) (padded_ne_nil 4 _),
      readNumber?_padded (by decide) (by omega)]
    simp [Int.toNat_of_nonneg hplain.1]
  · rw [if_neg hplain, List.cons_append]
    -- behind a sign the year may have as many digits as there are
    have hread : readNumber? (padded 4 year.natAbs ++ '-' :: rest).length
        (padded 4 year.natAbs ++ '-' :: rest) = some (year.natAbs, '-' :: rest) :=
      readNumber?_append (isRun_padded 4 _) (padded_ne_nil 4 _) (by simp)
        (digitsValue?_padded 4 _) (.inr hstop)
    by_cases hnegative : year < 0
    · rw [if_pos hnegative, readYear?, hread]
      have habs : -(year.natAbs : Int) = year := by omega
      simp only [Option.map_some, habs]
    · rw [if_neg hnegative, readYear?, hread]
      have habs : (year.natAbs : Int) = year := by omega
      simp only [Option.map_some, habs]

/-- A year starts with a digit or a sign, and neither is trimmed. -/
theorem trimFront_writeYear (year : Int) (rest : List Char) :
    trimFront (writeYear year ++ rest) = writeYear year ++ rest := by
  unfold writeYear
  split
  · exact trimFront_append (isRun_padded 4 _) (padded_ne_nil 4 _) rest
  · rw [List.cons_append]
    split <;> exact trimFront_cons (by decide) _

/-- The text of a date is read as its day, whatever comes behind it. That is what lets a date stand
in front of a time. -/
theorem readCivil?_write (d : Date) (rest : List Char) :
    readCivil? (d.write ++ rest) = some (d.civil, rest) := by
  obtain ⟨hmonth, hday⟩ := Civil.bounds_of_isValid (Civil.isValid_ofDayNumber d.day)
  have hhyphen : ∀ s, trimFront ('-' :: s) = '-' :: s := trimFront_cons (by decide)
  unfold write readCivil?
  simp only [List.append_assoc, List.cons_append]
  rw [trimFront_writeYear, readYear?_writeYear]
  simp only [Option.bind_eq_bind, Option.bind_some, hhyphen, afterChar?, if_true,
    trimFront_append (isRun_padded 2 _) (padded_ne_nil 2 _)]
  rw [readNumber?_padded (by decide) hmonth]
  simp only [Option.bind_some, hhyphen, if_true,
    trimFront_append (isRun_padded 2 _) (padded_ne_nil 2 _)]
  rw [readNumber?_padded (by decide) hday]
  rfl

end Date

/-! ## Times of day -/

namespace Instant

/-- So many digits behind a point are a number of nanoseconds. -/
theorem readFraction?_padded {k n : Nat} (hk : 0 < k) (hk9 : k ≤ 9) (hn : n < 10 ^ k) :
    readFraction? (padded k n ++ ['Z']) = some (n * 10 ^ (9 - k), ['Z']) := by
  have hlength := length_padded hk hn
  have hread : Date.readNumber? 9 (padded k n ++ ['Z']) = some (n, ['Z']) := by
    refine Date.readNumber?_append (isRun_padded k n) (padded_ne_nil k n) (by omega)
      (digitsValue?_padded k n) (.inr ?_)
    rintro c ⟨⟩
    rfl
  unfold readFraction?
  rw [hread]
  simp only [Option.bind_eq_bind, Option.bind_some, List.length_append, hlength,
    Nat.add_sub_cancel]
  rfl

/-- A fraction of a second is nothing, or a point and some digits. -/
theorem writeFraction_cases {nanos : Nat} (h : nanos < 1000000000) :
    (nanos = 0 ∧ writeFraction nanos = []) ∨
    ∃ k n, 0 < k ∧ k ≤ 9 ∧ n < 10 ^ k ∧ n * 10 ^ (9 - k) = nanos ∧
      writeFraction nanos = '.' :: padded k n := by
  unfold writeFraction
  by_cases hzero : nanos = 0
  · exact .inl ⟨hzero, if_pos hzero⟩
  rw [if_neg hzero]
  by_cases hmilli : nanos % 1000000 = 0
  · exact .inr ⟨3, nanos / 1000000, by decide, by decide, by omega, by omega, if_pos hmilli⟩
  rw [if_neg hmilli]
  by_cases hmicro : nanos % 1000 = 0
  · exact .inr ⟨6, nanos / 1000, by decide, by decide, by omega, by omega, if_pos hmicro⟩
  · exact .inr ⟨9, nanos, by decide, by decide, by omega, by omega, if_neg hmicro⟩

/-- The text of a time of day is read as its parts, up to the letter behind it. The numbers need not
be those of a day; that is looked at later. -/
theorem readClock?_write (hour minute second : Nat) {nanos : Nat} (hhour : hour < 100)
    (hminute : minute < 100) (hsecond : second < 100) (hnanos : nanos < 1000000000) :
    readClock? (padded 2 hour ++ ':' :: (padded 2 minute ++ ':' :: (padded 2 second
      ++ (writeFraction nanos ++ ['Z'])))) = some (⟨hour, minute, second, nanos⟩, ['Z']) := by
  have hcolon : ∀ s, trimFront (':' :: s) = ':' :: s := trimFront_cons (by decide)
  unfold readClock?
  rw [trimFront_append (isRun_padded 2 _) (padded_ne_nil 2 _),
    Date.readNumber?_padded (by decide) hhour]
  simp only [Option.bind_eq_bind, Option.bind_some, hcolon, Date.afterChar?, if_true,
    trimFront_append (isRun_padded 2 _) (padded_ne_nil 2 _)]
  rw [Date.readNumber?_padded (by decide) hminute]
  simp only [Option.bind_some, hcolon, if_true,
    trimFront_append (isRun_padded 2 _) (padded_ne_nil 2 _)]
  rw [Date.readNumber?_padded (by decide) hsecond]
  simp only [Option.bind_some]
  rcases writeFraction_cases hnanos with ⟨hzero, hnone⟩ | ⟨k, n, hk, hk9, hn, hvalue, hsome⟩
  · rw [hnone, hzero]
    rfl
  · rw [hsome, List.cons_append]
    simp only [readFraction?_padded hk hk9 hn, hvalue]
    rfl

/-! ## Instants -/

/-- Whether an instant is no leap second, or one at the end of a minute. -/
def IsRegular (t : Instant) : Prop := t.isLeap = true → t.second % 60 = 59

/-- The instant as which an instant is written: itself, or the second behind a leap second that
does not stand at the end of a minute. -/
def shown (t : Instant) : Instant :=
  if h : t.isLeap = true ∧ t.second % 60 ≠ 59 then
    { t with
      second := t.second + 1
      nano := t.nano - 1000000000
      second_lt := by have := t.second_lt; omega
      nano_lt := by have := t.nano_lt; omega }
  else t

/-- An instant of a clock is shown as it is. -/
theorem shown_of_isRegular {t : Instant} (h : t.IsRegular) : t.shown = t :=
  dif_neg fun ⟨hleap, hsecond⟩ => hsecond (h hleap)

/-- What is shown keeps its date: a leap second where none can be moves on to the next second, which
is one of the same minute. -/
theorem date_shown (t : Instant) : t.shown.date = t.date := by
  unfold shown
  split <;> rfl

/-- The second that is shown, by the two cases of the definition. -/
theorem second_shown (t : Instant) : t.shown.second
    = if 1000000000 ≤ t.nano ∧ t.second % 60 ≠ 59 then t.second + 1 else t.second := by
  unfold shown isLeap
  simp only [decide_eq_true_eq]
  split <;> rfl

/-- The nanoseconds likewise, less than a second of them where the second has moved on. -/
theorem nano_shown (t : Instant) : t.shown.nano
    = if 1000000000 ≤ t.nano ∧ t.second % 60 ≠ 59 then t.nano - 1000000000 else t.nano := by
  unfold shown isLeap
  simp only [decide_eq_true_eq]
  split <;> rfl

/-- What is shown is never earlier. -/
theorem le_shown (t : Instant) : t ≤ t.shown := by
  rw [le_iff_rank_le]
  unfold rank
  rw [date_shown, second_shown, nano_shown]
  split <;> omega

/-- Where clocks show universal time, an instant is what they show. -/
theorem ofLocal?_of_eq {t : Instant} {c : Clock}
    (hclock : c.hour < 24 ∧ c.minute < 60 ∧ c.second ≤ 60)
    (hsecond : c.hour * 3600 + c.minute * 60 + min c.second 59 = t.second)
    (hnano : c.nano + (if c.second = 60 then 1000000000 else 0) = t.nano) :
    ofLocal? t.date.civil c 0 = some t := by
  have hlt := t.second_lt
  have hdate : Date.ofDay? (t.date.day + 0) = some t.date := by
    rw [Int.add_zero]
    exact dif_pos ⟨t.date.firstDay_le, t.date.le_lastDay⟩
  have hday : ((t.second : Int) - 0) / 86400 = 0 := by omega
  have hrest : (((t.second : Int) - 0) % 86400).toNat = t.second := by omega
  have hoffset : Int.natAbs 0 < 86400 := by decide
  unfold ofLocal?
  simp only [Date.ofCivil?_civil, Option.bind_eq_bind, Option.bind_some, guard, if_pos hclock,
    if_pos hoffset, hsecond, hnano, hday, hrest, hdate, dif_pos (And.intro hlt t.nano_lt)]
  rfl

/-- The written time of day of an instant is the time of day that it shows. -/
theorem ofLocal?_clock (t : Instant) :
    ofLocal? t.date.civil ⟨t.second / 3600, t.second / 60 % 60,
      t.second % 60 + (if t.isLeap = true then 1 else 0), t.nano % 1000000000⟩ 0
        = some t.shown := by
  have hsecond := t.second_lt
  have hnano := t.nano_lt
  have hleap : t.isLeap = true ↔ 1000000000 ≤ t.nano := by simp [isLeap]
  rw [← date_shown]
  refine ofLocal?_of_eq ?_ ?_ ?_
  · simp only
    split <;> omega
  · rw [second_shown]
    simp only [hleap]
    split <;> split <;> omega
  · rw [nano_shown]
    simp only [hleap]
    split <;> split <;> split <;> omega

/-- The text of an instant is read as what it shows: date, time and fraction one after the other,
and then the checks on them. -/
theorem read?_write (t : Instant) : read? t.write = some t.shown := by
  have hsecond := t.second_lt
  have hnano : t.nano % 1000000000 < 1000000000 := by omega
  have hblank : trimFront ['Z'] = ['Z'] := trimFront_cons (by decide) []
  have hclock := readClock?_write (t.second / 3600) (t.second / 60 % 60)
    (t.second % 60 + (if t.isLeap = true then 1 else 0)) (by omega) (by omega)
    (by split <;> omega) hnano
  unfold write read?
  simp only [List.append_assoc, List.cons_append]
  rw [Date.readCivil?_write]
  simp only [Option.bind_eq_bind, Option.bind_some]
  rw [hclock]
  simp only [Option.bind_some, hblank]
  exact ofLocal?_clock t

end Instant

end CountingHouse
