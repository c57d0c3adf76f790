/-
Days in the order of the calendar.

Dates are compared by their day numbers, and the day after a date is the one with the next
number. Both mean what the calendar says: a day comes before another if its year does, or in the
same year its month, or in the same month its day (`Date.lt_iff_civil_lt`); and the day after is
the next of the same month, else the first of the next month, else the first of January
(`Date.next?_eq_some_iff`).

The numbers count years from March. That keeps the order, because it moves January and February
of a year behind December of the year before, where they come anyway. In such years a month
starts when the month before it is over, and a year starts when the year before it is over, leap
day included; so the numbers rise with year, month and day, one after the other.

The second statement follows from the first without another look at leap years. Nothing is
between a day of the calendar and the following one, so their numbers differ by one.
-/
import CountingHouse.Proofs.Calendar.Civil

set_option autoImplicit false

namespace CountingHouse

namespace Civil

/-- The order of the calendar: by year, then month, then day. -/
instance : LT Civil := ⟨fun a b => a.year < b.year
  ∨ a.year = b.year ∧ (a.month < b.month ∨ a.month = b.month ∧ a.day < b.day)⟩

instance : LE Civil := ⟨fun a b => a < b ∨ a = b⟩

theorem lt_iff {a b : Civil} : a < b ↔ a.year < b.year
    ∨ a.year = b.year ∧ (a.month < b.month ∨ a.month = b.month ∧ a.day < b.day) := Iff.rfl

theorem le_iff {a b : Civil} : a ≤ b ↔ a < b ∨ a = b := Iff.rfl

/-- A day is its year, its month and its day of the month. -/
theorem eq_iff {a b : Civil} : a = b ↔ a.year = b.year ∧ a.month = b.month ∧ a.day = b.day := by
  constructor
  · rintro rfl
    exact ⟨rfl, rfl, rfl⟩
  · obtain ⟨_, _, _⟩ := a
    obtain ⟨_, _, _⟩ := b
    rintro ⟨hyear, hmonth, hday⟩
    simp only at hyear hmonth hday
    rw [hyear, hmonth, hday]

/-- The order of the calendar leaves no two different days incomparable. -/
theorem lt_trichotomy (a b : Civil) : a < b ∨ a = b ∨ b < a := by
  simp only [lt_iff, eq_iff]
  omega

/-- A day is one of the calendar if its month is one and its day is one of that month. -/
theorem isValid_iff {c : Civil} : c.isValid = true
    ↔ 1 ≤ c.month ∧ c.month ≤ 12 ∧ 1 ≤ c.day ∧ c.day ≤ daysInMonth c.year c.month := by
  simp only [isValid, Bool.and_eq_true, decide_eq_true_eq, and_assoc]

/-! ## Years from March -/

/-- The year that starts in March in which a day lies. -/
def marchYear (c : Civil) : Int := if c.month ≤ 2 then c.year - 1 else c.year

/-- The month of that year, counted from zero. -/
def marchMonth (c : Civil) : Nat := if c.month ≤ 2 then c.month + 9 else c.month - 3

/-- The days of that year in front of the day. -/
def dayOfYear (c : Civil) : Nat := daysBeforeMonth c.marchMonth + (c.day - 1)

/-- The days in front of a year, from the year zero on. -/
def yearStart (year : Int) : Int :=
  year / 400 * 146097 + (year % 400 * 365 + year % 400 / 4 - year % 400 / 100)

variable {a b c : Civil}

/-- The number of a day: the days in front of its year from March, those in front of it in that
year, and a constant. -/
theorem dayNumber_eq (c : Civil) :
    c.dayNumber = yearStart c.marchYear + c.dayOfYear - 719468 := by
  unfold dayNumber yearStart marchYear dayOfYear daysBeforeMonth marchMonth
  dsimp only
  split
  · omega
  · omega

/-- Years start in their order, also before the year zero, where the quotients are rounded down. -/
theorem yearStart_le_of_le {y z : Int} (h : y ≤ z) : yearStart y ≤ yearStart z := by
  unfold yearStart
  omega

/-- A year from March has 365 days, and one more if it runs into the February of a leap year. -/
theorem yearStart_succ (y : Int) :
    yearStart (y + 1) - yearStart y = 365 + if isLeapYear (y + 1) then 1 else 0 := by
  unfold yearStart isLeapYear
  by_cases hfour : (y + 1) % 4 = 0
  · by_cases hcentury : (y + 1) % 100 = 0
    · by_cases hera : (y + 1) % 400 = 0
      · simp [hfour, hera]
        omega
      · simp [hfour, hcentury, hera]
        omega
    · simp [hfour, hcentury]
      omega
  · simp [hfour]
    omega

/-- A month that is not the last of its year ends where the next one starts. -/
theorem dayOfYear_lt_month (hc : c.isValid = true) (hmonth : c.marchMonth < 11) :
    c.dayOfYear < daysBeforeMonth (c.marchMonth + 1) := by
  obtain ⟨hfirst, hlast, hday, hend⟩ := isValid_iff.mp hc
  unfold dayOfYear daysBeforeMonth marchMonth at *
  generalize c.month = m at *
  interval_cases m <;> simp [daysInMonth] at hmonth hend ⊢ <;> omega

/-- A year is over when the next one starts. -/
theorem dayOfYear_lt_year (hc : c.isValid = true) :
    c.dayOfYear < yearStart (c.marchYear + 1) - yearStart c.marchYear := by
  rw [yearStart_succ]
  by_cases hmonth : c.marchMonth < 11
  · have hover := dayOfYear_lt_month hc hmonth
    have hmonths : daysBeforeMonth (c.marchMonth + 1) ≤ 365 := by
      unfold daysBeforeMonth
      omega
    split <;> omega
  · -- only February is long enough to reach the leap day
    obtain ⟨hfirst, hlast, hday, hend⟩ := isValid_iff.mp hc
    have hfebruary : c.month = 2 := by
      unfold marchMonth at hmonth
      split at hmonth <;> omega
    have hyear : c.marchYear + 1 = c.year := by
      simp [marchYear, hfebruary]
    have hstart : daysBeforeMonth c.marchMonth = 337 := by
      simp [marchMonth, hfebruary, daysBeforeMonth]
    unfold dayOfYear
    rw [hfebruary, daysInMonth, if_pos rfl] at hend
    rw [hyear, hstart]
    by_cases hleap : isLeapYear c.year = true
    · rw [if_pos hleap] at hend ⊢
      omega
    · rw [if_neg hleap] at hend ⊢
      omega

/-- The order of the calendar is that of years from March. -/
theorem lt_iff_march (ha : a.isValid = true) (hb : b.isValid = true) :
    a < b ↔ a.marchYear < b.marchYear ∨ a.marchYear = b.marchYear
      ∧ (a.marchMonth < b.marchMonth ∨ a.marchMonth = b.marchMonth ∧ a.day < b.day) := by
  obtain ⟨ha1, ha12, -, -⟩ := isValid_iff.mp ha
  obtain ⟨hb1, hb12, -, -⟩ := isValid_iff.mp hb
  rw [lt_iff]
  unfold marchYear marchMonth
  split <;> split <;> omega

/-! ## Day numbers -/

/-- Later days have greater numbers. Each place decides only if the places before it agree, and is
then worth more than all behind it. -/
theorem dayNumber_lt_dayNumber (ha : a.isValid = true) (hb : b.isValid = true) (h : a < b) :
    a.dayNumber < b.dayNumber := by
  rw [dayNumber_eq, dayNumber_eq]
  -- years counted from March, then months, then days: a unit that is behind is behind by more than
  -- the smaller ones make up
  rcases (lt_iff_march ha hb).mp h with hyear | ⟨hyear, hmonth | ⟨hmonth, hday⟩⟩
  · have hover := dayOfYear_lt_year ha
    have hnext : yearStart (a.marchYear + 1) ≤ yearStart b.marchYear := yearStart_le_of_le hyear
    omega
  · have hlast : b.marchMonth ≤ 11 := by
      obtain ⟨-, hb12, -, -⟩ := isValid_iff.mp hb
      unfold marchMonth
      split <;> omega
    have hover := dayOfYear_lt_month ha (by omega)
    have hnext : daysBeforeMonth (a.marchMonth + 1) ≤ b.dayOfYear := by
      unfold dayOfYear daysBeforeMonth
      omega
    rw [hyear]
    omega
  · obtain ⟨-, -, hfirst, -⟩ := isValid_iff.mp ha
    unfold dayOfYear
    rw [hyear, hmonth]
    omega

/-- Of two days of the calendar the earlier one has the smaller number. -/
theorem lt_iff_dayNumber_lt (ha : a.isValid = true) (hb : b.isValid = true) :
    a < b ↔ a.dayNumber < b.dayNumber := by
  constructor
  · exact dayNumber_lt_dayNumber ha hb
  · intro h
    rcases lt_trichotomy a b with hlt | rfl | hgt
    · exact hlt
    · exact absurd h (Int.lt_irrefl _)
    · exact absurd (dayNumber_lt_dayNumber hb ha hgt) (Int.lt_asymm h)

/-- So no two days have the same number, by the trichotomy of the order. -/
theorem eq_of_dayNumber_eq (ha : a.isValid = true) (hb : b.isValid = true)
    (h : a.dayNumber = b.dayNumber) : a = b := by
  rcases lt_trichotomy a b with hlt | heq | hgt
  · exact absurd h (Int.ne_of_lt (dayNumber_lt_dayNumber ha hb hlt))
  · exact heq
  · exact absurd h.symm (Int.ne_of_lt (dayNumber_lt_dayNumber hb ha hgt))

/-! ## The following day -/

/-- The next day of the month, else the first of the next month, else the first of January. -/
def following (c : Civil) : Civil :=
  if c.day < daysInMonth c.year c.month then ⟨c.year, c.month, c.day + 1⟩
  else if c.month < 12 then ⟨c.year, c.month + 1, 1⟩
  else ⟨c.year + 1, 1, 1⟩

/-- Every month has a first day. -/
theorem one_le_daysInMonth (year : Int) (month : Nat) : 1 ≤ daysInMonth year month := by
  unfold daysInMonth
  split <;> split <;> simp

/-- The following day of a day of the calendar is one of the calendar too. -/
theorem isValid_following (hc : c.isValid = true) : c.following.isValid = true := by
  obtain ⟨hfirst, hlast, hday, hend⟩ := isValid_iff.mp hc
  rw [isValid_iff]
  unfold following
  split
  · rename_i hday'
    exact ⟨hfirst, hlast, Nat.succ_pos _, hday'⟩
  · split
    · rename_i hmonth
      exact ⟨Nat.succ_pos _, hmonth, Nat.le_refl _, one_le_daysInMonth _ _⟩
    · exact ⟨Nat.le_refl _, show 1 ≤ 12 by decide, Nat.le_refl _, one_le_daysInMonth _ _⟩

/-- It comes later, whether the day, the month or the year has gone up. -/
theorem lt_following (c : Civil) : c < c.following := by
  rw [lt_iff]
  unfold following
  split
  · simp
  · split <;> simp

/-- Nothing is between a day and the following one. -/
theorem following_le_of_lt (ha : a.isValid = true) (hb : b.isValid = true) (h : a < b) :
    a.following ≤ b := by
  obtain ⟨-, ha12, -, -⟩ := isValid_iff.mp ha
  obtain ⟨hb1, hb12, hday, hend⟩ := isValid_iff.mp hb
  rw [lt_iff] at h
  rw [le_iff, lt_iff, eq_iff]
  unfold following
  split
  · simp only
    omega
  · rename_i hover
    -- the month is over, so a later day is in a later month
    have hmonth : ¬ (a.year = b.year ∧ a.month = b.month) := by
      rintro ⟨hyear, hmonth⟩
      rw [hyear, hmonth] at hover
      omega
    split <;> simp only <;> omega

/-- Its number is the next one. If it were greater, the day of the next number would be between the
two, and nothing is. -/
theorem dayNumber_following (hc : c.isValid = true) :
    c.following.dayNumber = c.dayNumber + 1 := by
  have hnext := dayNumber_lt_dayNumber hc (isValid_following hc) (lt_following c)
  -- the day with the next number comes after this one, and so not before the following one
  have hvalid := isValid_ofDayNumber (c.dayNumber + 1)
  have hnumber := dayNumber_ofDayNumber (c.dayNumber + 1)
  have hafter : c < ofDayNumber (c.dayNumber + 1) := by
    rw [lt_iff_dayNumber_lt hc hvalid, hnumber]
    omega
  rcases le_iff.mp (following_le_of_lt hc hvalid hafter) with hlt | heq
  · have hbelow := dayNumber_lt_dayNumber (isValid_following hc) hvalid hlt
    omega
  · rw [heq, hnumber]

end Civil

/-! ## Dates -/

namespace Date

variable {d e : Date}

/-- A date is the number of its day. -/
theorem dayNumber_civil (d : Date) : d.civil.dayNumber = d.day := Civil.dayNumber_ofDayNumber d.day

/-- The day of a date is one of the calendar. -/
theorem isValid_civil (d : Date) : d.civil.isValid = true := Civil.isValid_ofDayNumber d.day

/-- A date has nothing but its number. -/
theorem eq_of_day_eq (h : d.day = e.day) : d = e := by
  obtain ⟨day, _, _⟩ := d
  obtain ⟨day', _, _⟩ := e
  simp only at h
  subst h
  rfl

/-- Dates are equal if they are the same day of the calendar. -/
theorem civil_inj : d.civil = e.civil ↔ d = e := by
  constructor
  · intro h
    refine eq_of_day_eq ?_
    rw [← dayNumber_civil, ← dayNumber_civil, h]
  · exact congrArg civil

/-- Dates are compared by their numbers, by definition. -/
theorem lt_iff_day_lt : d < e ↔ d.day < e.day := Iff.rfl

theorem le_iff_day_le : d ≤ e ↔ d.day ≤ e.day := Iff.rfl

/-- A date is before another if the calendar says so. -/
theorem lt_iff_civil_lt : d < e ↔ d.civil < e.civil := by
  rw [Civil.lt_iff_dayNumber_lt d.isValid_civil e.isValid_civil, dayNumber_civil, dayNumber_civil]
  exact lt_iff_day_lt

/-- And so in the order of the calendar, with equality allowed. -/
theorem le_iff_civil_le : d ≤ e ↔ d.civil ≤ e.civil := by
  rw [Civil.le_iff, ← lt_iff_civil_lt, civil_inj, le_iff_day_le, lt_iff_day_lt]
  constructor
  · intro h
    rcases Int.lt_or_eq_of_le h with hlt | heq
    · exact .inl hlt
    · exact .inr (eq_of_day_eq heq)
  · rintro (hlt | rfl)
    · exact Int.le_of_lt hlt
    · exact Int.le_refl _

/-- The day after a date is the one that follows it in the calendar. -/
theorem next?_eq_some_iff : d.next? = some e ↔ e.civil = d.civil.following := by
  have hnumber := Civil.dayNumber_following d.isValid_civil
  rw [dayNumber_civil] at hnumber
  constructor
  · intro h
    refine Civil.eq_of_dayNumber_eq e.isValid_civil (Civil.isValid_following d.isValid_civil) ?_
    rw [hnumber, dayNumber_civil, day_of_next? h]
  · intro h
    have hday : e.day = d.day + 1 := by
      rw [← hnumber, ← h, dayNumber_civil]
    unfold next? ofDay?
    rw [← hday, dif_pos ⟨e.firstDay_le, e.le_lastDay⟩]

end Date

end CountingHouse
