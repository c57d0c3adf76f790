/-
Days and their years, months and days.

The view of a day number as a day of the calendar is right: it is a day that exists, and its
number is the one viewed. The years of an era are found by a division that is off by the leap
days before it; what corrects it is a quantity that never falls (`shortened`), so it is enough
to look at the first and the last day of each of the 400 years. The months are found by another
division, which is exact.
-/
import CountingHouse.Calendar.Date
import Mathlib.Tactic.IntervalCases

set_option autoImplicit false

namespace CountingHouse

namespace Civil

/-! ## The years of an era -/

/-- The number of days of an era in front of a year of it. -/
def daysBefore (y : Nat) : Nat := 365 * y + y / 4 - y / 100 + y / 400

/-- A day of an era without the leap days in front of it, nearly: 365 of these are a year. -/
def shortened (d : Nat) : Nat := d - d / 1460 + d / 36524 - d / 146096

/-- Behind the last day of an era but one the correction never falls. -/
theorem shortened_le_of_le {d e : Nat} (h : d ≤ e) (he : e < 146096) :
    shortened d ≤ shortened e := by
  have hquarters : d - d / 1460 ≤ e - e / 1460 := by omega
  have hcenturies : d / 36524 ≤ e / 36524 := Nat.div_le_div_right h
  have hd : d / 146096 = 0 := Nat.div_eq_of_lt (by omega)
  have hlast : e / 146096 = 0 := Nat.div_eq_of_lt he
  unfold shortened
  omega

/-- The first day of a year, shortened, has all years in front of it. An era has 400 years, and each
of them is checked. -/
theorem le_shortened_daysBefore {y : Nat} (h : y < 400) : 365 * y ≤ shortened (daysBefore y) := by
  have each : ∀ y < 400, 365 * y ≤ shortened (daysBefore y) := by decide +kernel
  exact each y h

/-- The last day of an era is left out here. It is the one at which the correction falls. -/
theorem shortened_last_lt {y : Nat} (h : y < 400) :
    shortened (min (daysBefore (y + 1) - 1) 146095) < 365 * (y + 1) := by
  have each : ∀ y < 400, shortened (min (daysBefore (y + 1) - 1) 146095) < 365 * (y + 1) := by
    decide +kernel
  exact each y h

/-- A year has days, so the next one starts later. -/
theorem daysBefore_lt_succ (y : Nat) : daysBefore y < daysBefore (y + 1) := by
  unfold daysBefore
  omega

/-- A day of an era is in one of its years. -/
theorem exists_daysBefore_le {d : Nat} (n : Nat) (h : d < daysBefore n) :
    ∃ y < n, daysBefore y ≤ d ∧ d < daysBefore (y + 1) := by
  induction n with
  | zero => exact absurd h (by simp [daysBefore])
  | succ n ih =>
    by_cases hlt : d < daysBefore n
    · obtain ⟨y, hy, hbetween⟩ := ih hlt
      exact ⟨y, by omega, hbetween⟩
    · exact ⟨n, by omega, by omega, h⟩

/-- Years start in their order. -/
theorem daysBefore_le_of_le {y z : Nat} (h : y ≤ z) : daysBefore y ≤ daysBefore z := by
  induction h with
  | refl => exact Nat.le_refl _
  | step _ ih => exact Nat.le_trans ih (Nat.le_of_lt (daysBefore_lt_succ _))

/-- The division finds the year. -/
theorem shortened_div {y d : Nat} (hy : y < 400) (hfirst : daysBefore y ≤ d)
    (hlast : d < daysBefore (y + 1)) : shortened d / 365 = y := by
  have hera : daysBefore (y + 1) ≤ 146097 := daysBefore_le_of_le (z := 400) (by omega)
  have hlow := le_shortened_daysBefore hy
  have hhigh := shortened_last_lt hy
  by_cases hd : d = 146096
  · have hyear : y = 399 := by
      by_contra hne
      have hnext := daysBefore_le_of_le (show y + 1 ≤ 399 by omega)
      have hstart : daysBefore 399 = 145731 := by decide
      omega
    subst hd hyear
    decide
  · have hbelow := shortened_le_of_le hfirst (by omega)
    have habove : shortened d ≤ shortened (min (daysBefore (y + 1) - 1) 146095) :=
      shortened_le_of_le (by omega) (by omega)
    exact Nat.div_eq_of_lt_le (by omega) (by omega)

/-! ## The months of a year -/

/-- The number of days of a year, which starts in March, in front of a month of it. -/
def daysBeforeMonth (m : Nat) : Nat := (153 * m + 2) / 5

/-- The month of a year in which a day of it lies. -/
def monthOf (doy : Nat) : Nat := (5 * doy + 2) / 153

/-- The month of a day has started by that day. -/
theorem daysBeforeMonth_monthOf_le (doy : Nat) : daysBeforeMonth (monthOf doy) ≤ doy := by
  unfold daysBeforeMonth monthOf
  omega

/-- A month from March on, as a month of the calendar, in the year in which the first one
starts or in the next. -/
def calendarMonth (year : Int) (m : Nat) : Int × Nat :=
  if m < 10 then (year, m + 3) else (year + 1, m - 9)

/-- A month has the day that the division finds. Only at the end of February that depends on
the year. -/
theorem day_le_daysInMonth (year : Int) {doy : Nat} (hdoy : doy ≤ 365)
    (hleap : doy = 365 → isLeapYear (year + 1) = true) :
    doy - daysBeforeMonth (monthOf doy) + 1
      ≤ daysInMonth (calendarMonth year (monthOf doy)).1 (calendarMonth year (monthOf doy)).2 := by
  have hmonth : monthOf doy ≤ 11 := by
    unfold monthOf
    omega
  have hfound : 153 * monthOf doy ≤ 5 * doy + 2 ∧ 5 * doy + 2 < 153 * (monthOf doy + 1) := by
    unfold monthOf
    omega
  generalize monthOf doy = m at hmonth hfound ⊢
  -- counted from March, February is the last month and the only one whose length varies
  by_cases hfebruary : m = 11
  · subst hfebruary
    by_cases hlast : doy = 365
    · subst hlast
      simp [calendarMonth, daysBeforeMonth, daysInMonth, hleap rfl]
    · have hdays : 28 ≤ daysInMonth (year + 1) 2 := by
        unfold daysInMonth
        split <;> split <;> simp
      change doy - 337 + 1 ≤ daysInMonth (year + 1) 2
      omega
  · interval_cases m <;> simp [calendarMonth, daysBeforeMonth, daysInMonth] <;> omega

/-! ## Both directions -/

/-- The day with a number in a year that starts in March. -/
def ofYearDay (year : Int) (doy : Nat) : Civil :=
  ⟨(calendarMonth year (monthOf doy)).1, (calendarMonth year (monthOf doy)).2,
    doy - daysBeforeMonth (monthOf doy) + 1⟩

/-- A day number taken apart: an era, a year of it, and a day of that year. -/
theorem ofDayNumber_eq (n : Int) :
    ∃ (era : Int) (y doy : Nat), y < 400 ∧ daysBefore y + doy < daysBefore (y + 1) ∧
      n = era * 146097 + (daysBefore y + doy : Nat) - 719468 ∧
      ofDayNumber n = ofYearDay (y + era * 400) doy := by
  have hera : ((n + 719468) % 146097).toNat < daysBefore 400 := by
    have hdays : daysBefore 400 = 146097 := by decide
    omega
  obtain ⟨y, hy, hfirst, hlast⟩ := exists_daysBefore_le 400 hera
  generalize hd : ((n + 719468) % 146097).toNat = d at hfirst hlast
  have hstart : 365 * y + y / 4 - y / 100 = daysBefore y := by
    unfold daysBefore
    omega
  refine ⟨(n + 719468) / 146097, y, d - daysBefore y, hy, by omega, by omega, ?_⟩
  have hyear := shortened_div hy hfirst hlast
  unfold shortened at hyear
  unfold ofDayNumber ofYearDay calendarMonth monthOf daysBeforeMonth
  simp only [hd, hyear, hstart]
  split <;> rfl

/-- The only year with a 366th day is one that ends with a leap day. -/
theorem isLeapYear_of_daysBefore {era : Int} {y : Nat}
    (h : daysBefore y + 365 < daysBefore (y + 1)) : isLeapYear (y + era * 400 + 1) = true := by
  unfold daysBefore at h
  have hfour : ((y : Int) + era * 400 + 1) % 4 = 0 := by omega
  have hcentury : ((y : Int) + era * 400 + 1) % 100 ≠ 0 ∨
      ((y : Int) + era * 400 + 1) % 400 = 0 := by
    omega
  unfold isLeapYear
  rcases hcentury with hcentury | hcentury <;> simp [hfour, hcentury]

/-- A day that is made from an era, a year of it and a day of that year has the number that these
three add up to. The months go out again here, January and February with their year. -/
theorem dayNumber_ofYearDay {era : Int} {y doy : Nat} (hy : y < 400) (hdoy : doy ≤ 365) :
    (ofYearDay (y + era * 400) doy).dayNumber
      = era * 146097 + (daysBefore y + doy : Nat) - 719468 := by
  have hmonth : monthOf doy ≤ 11 := by
    unfold monthOf
    omega
  have hbefore := daysBeforeMonth_monthOf_le doy
  have hyear : ((y : Int) + era * 400) / 400 = era := by omega
  have hrest : ((y : Int) + era * 400) % 400 = y := by omega
  unfold ofYearDay calendarMonth
  generalize monthOf doy = m at hmonth hbefore ⊢
  have hday : (153 * m + 2) / 5 + (doy - daysBeforeMonth m + 1 - 1) = doy := by
    unfold daysBeforeMonth at hbefore ⊢
    omega
  -- January and February belong to the civil year after the one counted from March
  by_cases hm : m < 10
  · simp only [dayNumber, if_pos hm, if_neg (show ¬ m + 3 ≤ 2 by omega), hyear, hrest,
      Nat.add_sub_cancel, daysBefore]
    simp only [Nat.add_sub_cancel] at hday
    omega
  · have hback : m - 9 + 9 = m := by omega
    simp only [dayNumber, if_neg hm, if_pos (show m - 9 ≤ 2 by omega), Int.add_sub_cancel, hyear,
      hrest, hback, Nat.add_sub_cancel, daysBefore]
    simp only [Nat.add_sub_cancel] at hday
    omega

/-- The number of the day that a number is viewed as. -/
theorem dayNumber_ofDayNumber (n : Int) : (ofDayNumber n).dayNumber = n := by
  obtain ⟨era, y, doy, hy, hdoy, hn, hday⟩ := ofDayNumber_eq n
  have hlength : doy ≤ 365 := by
    unfold daysBefore at hdoy
    omega
  rw [hday, dayNumber_ofYearDay hy hlength, hn]

/-- A number is viewed as a day that exists. -/
theorem isValid_ofDayNumber (n : Int) : (ofDayNumber n).isValid = true := by
  obtain ⟨era, y, doy, hy, hdoy, -, hday⟩ := ofDayNumber_eq n
  have hlength : doy ≤ 365 := by
    unfold daysBefore at hdoy
    omega
  have hend := day_le_daysInMonth (y + era * 400) hlength
    fun hlast => isLeapYear_of_daysBefore (hlast ▸ hdoy)
  have hmonth : 1 ≤ (calendarMonth (y + era * 400) (monthOf doy)).2 ∧
      (calendarMonth (y + era * 400) (monthOf doy)).2 ≤ 12 := by
    unfold calendarMonth monthOf
    split <;> simp only <;> omega
  rw [hday]
  unfold isValid ofYearDay
  simp [hmonth, hend]

end Civil

end CountingHouse
