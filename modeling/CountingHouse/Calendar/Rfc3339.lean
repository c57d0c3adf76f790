/-
Dates and times as text.

An instant is written as `2024-02-29T12:34:56.789Z`: always in universal time, with
a signed year of at least four digits outside 0000 to 9999, and with 0, 3, 6 or
9 digits of a second, the fewest that lose nothing. A leap second is written as
second 60.

Reading is relaxed. The `T` may be small or a space; blanks are allowed in front of
every number and every mark; digits behind the ninth of a second are dropped;
second 60 is a leap second in any minute. The offset is `Z` in either case,
`UTC` in any case, or a sign (a hyphen, a plus or the minus sign U+2212), two
digits of hours and two of minutes with colons or blanks between them, which must
be there. Blanks at the very end are allowed, anything else is not. Date and
time have to be valid before the offset is applied and the date has to be
representable after it.
-/
import CountingHouse.Calendar.Instant
import CountingHouse.Json.Value

set_option autoImplicit false

namespace CountingHouse

open Text

namespace Instant

/-! ## Writing -/

/-- A fraction of a second in the fewest groups of three digits. -/
def writeFraction (nanos : Nat) : List Char :=
  if nanos = 0 then []
  else if nanos % 1000000 = 0 then '.' :: padded 3 (nanos / 1000000)
  else if nanos % 1000 = 0 then '.' :: padded 6 (nanos / 1000)
  else '.' :: padded 9 nanos

def write (t : Instant) : List Char :=
  let second := t.second % 60 + (if t.isLeap then 1 else 0)
  t.date.write ++ 'T' :: padded 2 (t.second / 3600) ++ ':' :: padded 2 (t.second / 60 % 60)
    ++ ':' :: padded 2 second ++ writeFraction (t.nano % 1000000000) ++ ['Z']

def toText (t : Instant) : String := String.ofList t.write

/-! ## Reading -/

/-- A time of day as it is written. -/
structure Clock where
  hour : Nat
  minute : Nat
  second : Nat
  nano : Nat

/-- Nanoseconds from the digits behind a point: the first nine count, as if filled up with
zeros. -/
def readFraction? (s : List Char) : Option (Nat × List Char) := do
  let (n, rest) ← Date.readNumber? 9 s
  return (n * Nat.pow 10 (9 - (s.length - rest.length)), rest.dropWhile Char.isDigit)

/-- Hour, minute and second with colons between them, and a fraction if a point follows. -/
def readClock? (s : List Char) : Option (Clock × List Char) := do
  let (hour, s) ← Date.readNumber? 2 (trimFront s)
  let s ← Date.afterChar? ':' (trimFront s)
  let (minute, s) ← Date.readNumber? 2 (trimFront s)
  let s ← Date.afterChar? ':' (trimFront s)
  let (second, s) ← Date.readNumber? 2 (trimFront s)
  let (nano, s) ← match s with
    | '.' :: rest => readFraction? rest
    | _ => some (0, s)
  return (⟨hour, minute, second, nano⟩, s)

/-- Two digits of hours and, behind colons or blanks, two digits of minutes, in seconds. -/
def readOffsetDigits? (s : List Char) : Option (Nat × List Char) :=
  match s with
  | a :: b :: rest => do
    let hours := 10 * (← digitValue? a) + (← digitValue? b)
    match rest.dropWhile fun c => c = ':' || isBlank c with
    | c :: d :: rest =>
      let minutes := 10 * (← digitValue? c) + (← digitValue? d)
      guard (minutes < 60)
      return (hours * 3600 + minutes * 60, rest)
    | _ => none
  | _ => none

/-- The offset from universal time, in seconds. -/
def readOffset? (s : List Char) : Option (Int × List Char) :=
  match s with
  | c :: rest =>
    if c = 'Z' || c = 'z' then some (0, rest)
    else if (s.take 3).map Char.toUpper = ['U', 'T', 'C'] then some (0, s.drop 3)
    else if c = '+' then (readOffsetDigits? rest).map fun (n, s) => ((n : Int), s)
    else if c = '-' || c = '\u2212' then (readOffsetDigits? rest).map fun (n, s) => (-(n : Int), s)
    else none
  | [] => none

/-- The instant at which clocks that are `offset` seconds ahead show that date and time. -/
def ofLocal? (civil : Civil) (clock : Clock) (offset : Int) : Option Instant := do
  let date ← Date.ofCivil? civil
  guard (clock.hour < 24 ∧ clock.minute < 60 ∧ clock.second ≤ 60)
  guard (offset.natAbs < 86400)
  -- second 60 is written for the leap second, which lies in the second before it
  let second := min clock.second 59
  let leap := if clock.second = 60 then 1000000000 else 0
  -- the offset may take the instant to the day before or after
  let universal : Int := (clock.hour * 3600 + clock.minute * 60 + second : Nat) - offset
  let date ← Date.ofDay? (date.day + universal / 86400)
  if h : (universal % 86400).toNat < 86400 ∧ clock.nano + leap < 2000000000 then
    some ⟨date, (universal % 86400).toNat, clock.nano + leap, h.1, h.2⟩
  else none

def read? (s : List Char) : Option Instant := do
  let (civil, s) ← Date.readCivil? s
  let s ← match s with
    | c :: rest => if c = 'T' || c = 't' || c = ' ' then some rest else none
    | [] => none
  let (clock, s) ← readClock? s
  let (offset, s) ← readOffset? (trimFront s)
  guard (trimFront s).isEmpty
  ofLocal? civil clock offset

/-! ## Documents -/

/-- The document of an instant: its text. -/
def toJson (t : Instant) : Json := .ofText t.toText

def ofJson? : Json → Option Instant
  | .string p => do read? (← Json.characters? p)
  | _ => none

end Instant

namespace Date

def toText (d : Date) : String := String.ofList d.write

/-- The document of a date: its text. -/
def toJson (d : Date) : Json := .ofText d.toText

def ofJson? : Json → Option Date
  | .string p => do read? (← Json.characters? p)
  | _ => none

end Date

end CountingHouse
