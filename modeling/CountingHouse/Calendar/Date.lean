/-
Calendar dates.

A date is the number of days since 1 January 1970 in the Gregorian calendar,
extended to both sides without a gap at any reform. Counting days makes order and
succession those of the integers; years, months and days are a view of the
count, needed only where dates are written and read.

Both directions of that view count years from March, so that the leap day is the
last day of its year, and gather 400 of them into an era of 146097 days. Within
an era a year starts after `365 · y + y / 4 - y / 100` days and a month after
`(153 · m + 2) / 5` days.

Representable dates run from 1 January -262143 to 31 December 262142.
-/
import CountingHouse.Text.Blank
import CountingHouse.Text.Numeral

set_option autoImplicit false

namespace CountingHouse

open Text

/-! ## Years, months and days -/

/-- A year, a month and a day. -/
structure Civil where
  year : Int
  month : Nat
  day : Nat
  deriving DecidableEq, Repr

namespace Civil

def isLeapYear (year : Int) : Bool :=
  year % 4 == 0 && (year % 100 != 0 || year % 400 == 0)

/-- The number of days in a month. -/
def daysInMonth (year : Int) (month : Nat) : Nat :=
  if month = 2 then (if isLeapYear year then 29 else 28)
  else if month = 4 || month = 6 || month = 9 || month = 11 then 30
  else 31

/-- Whether the three numbers name a day of the calendar. -/
def isValid (c : Civil) : Bool :=
  1 ≤ c.month && c.month ≤ 12 && 1 ≤ c.day && c.day ≤ daysInMonth c.year c.month

/-- The number of days since 1 January 1970. -/
def dayNumber (c : Civil) : Int :=
  -- years run from March here, so that a leap day is the last one of its year
  let year := if c.month ≤ 2 then c.year - 1 else c.year
  let month := if c.month ≤ 2 then c.month + 9 else c.month - 3
  let era := year / 400
  let yearOfEra := year % 400
  let dayOfYear := (153 * month + 2) / 5 + (c.day - 1)
  era * 146097 + (yearOfEra * 365 + yearOfEra / 4 - yearOfEra / 100 + dayOfYear) - 719468

/-- The year, month and day of a day number. -/
def ofDayNumber (n : Int) : Civil :=
  -- the same years, and eras of 400 of them, which are all of one length
  let shifted := n + 719468
  let era := shifted / 146097
  let dayOfEra := (shifted % 146097).toNat
  let yearOfEra := (dayOfEra - dayOfEra / 1460 + dayOfEra / 36524 - dayOfEra / 146096) / 365
  let dayOfYear := dayOfEra - (365 * yearOfEra + yearOfEra / 4 - yearOfEra / 100)
  let month := (5 * dayOfYear + 2) / 153
  let day := dayOfYear - (153 * month + 2) / 5 + 1
  let year : Int := yearOfEra + era * 400
  if month < 10 then ⟨year, month + 3, day⟩ else ⟨year + 1, month - 9, day⟩

end Civil

/-! ## Dates -/

/-- The first representable date, 1 January -262143. -/
def Date.firstDay : Int := -96465292

/-- The last representable date, 31 December 262142. -/
def Date.lastDay : Int := 95026236

/-- A date, counted in days since 1 January 1970. -/
structure Date where
  day : Int
  firstDay_le : Date.firstDay ≤ day
  le_lastDay : day ≤ Date.lastDay
  deriving DecidableEq

namespace Date

/-- The date of a day number, if it is representable. -/
def ofDay? (day : Int) : Option Date :=
  if h : firstDay ≤ day ∧ day ≤ lastDay then some ⟨day, h.1, h.2⟩ else none

def epoch : Date := ⟨0, by decide, by decide⟩

instance : Inhabited Date := ⟨epoch⟩

instance : Repr Date where
  reprPrec d _ := repr d.day

/-- The year, month and day of a date. -/
def civil (d : Date) : Civil := Civil.ofDayNumber d.day

/-- The date of a year, month and day, if there is such a day and it is representable. -/
def ofCivil? (c : Civil) : Option Date :=
  if c.isValid then ofDay? c.dayNumber else none

/-- The day after, unless it is not representable. -/
def next? (d : Date) : Option Date := ofDay? (d.day + 1)

instance : LE Date := ⟨fun a b => a.day ≤ b.day⟩

instance : LT Date := ⟨fun a b => a.day < b.day⟩

instance (a b : Date) : Decidable (a ≤ b) := inferInstanceAs (Decidable (a.day ≤ b.day))

instance (a b : Date) : Decidable (a < b) := inferInstanceAs (Decidable (a.day < b.day))

/-- The day after a date is one day number further. -/
theorem day_of_next? {d e : Date} (h : d.next? = some e) : e.day = d.day + 1 := by
  unfold next? ofDay? at h
  split at h
  · cases h
    rfl
  · cases h

/-! ## Writing -/

/-- A year: four digits from 0000 to 9999, otherwise a sign and at least four digits. -/
def writeYear (year : Int) : List Char :=
  if 0 ≤ year ∧ year ≤ 9999 then padded 4 year.toNat
  else (if year < 0 then '-' else '+') :: padded 4 year.natAbs

/-- The written form of a date: year, month and day with hyphens between them. -/
def write (d : Date) : List Char :=
  let c := d.civil
  writeYear c.year ++ '-' :: padded 2 c.month ++ '-' :: padded 2 c.day

/-! ## Reading -/

/-- Up to `width` digits in front, at least one, and the characters behind them. -/
def readNumber? (width : Nat) (s : List Char) : Option (Nat × List Char) := do
  let digits := (s.take width).takeWhile Char.isDigit
  guard (!digits.isEmpty)
  return (← digitsValue? digits, s.drop digits.length)

/-- A year: with a sign, any number of digits; without one, up to four. -/
def readYear? : List Char → Option (Int × List Char)
  | '-' :: rest => (readNumber? rest.length rest).map fun (n, s) => (-(n : Int), s)
  | '+' :: rest => (readNumber? rest.length rest).map fun (n, s) => ((n : Int), s)
  | s => (readNumber? 4 s).map fun (n, s) => ((n : Int), s)

def afterChar? (c : Char) : List Char → Option (List Char)
  | d :: rest => if c = d then some rest else none
  | [] => none

/-- Year, month and day, with hyphens between them and blanks allowed in front of each of
the five parts. -/
def readCivil? (s : List Char) : Option (Civil × List Char) := do
  let (year, s) ← readYear? (trimFront s)
  let s ← afterChar? '-' (trimFront s)
  let (month, s) ← readNumber? 2 (trimFront s)
  let s ← afterChar? '-' (trimFront s)
  let (day, s) ← readNumber? 2 (trimFront s)
  return (⟨year, month, day⟩, s)

/-- The date that a text spells, blanks at its end allowed. -/
def read? (s : List Char) : Option Date := do
  let (civil, rest) ← readCivil? s
  guard (trimFront rest).isEmpty
  ofCivil? civil

end Date

example : (Civil.ofDayNumber Date.firstDay, Civil.ofDayNumber Date.lastDay)
    = (⟨-262143, 1, 1⟩, ⟨262142, 12, 31⟩) := by decide

example : (Civil.mk 2024 2 29).dayNumber = 19782 := by decide

end CountingHouse
