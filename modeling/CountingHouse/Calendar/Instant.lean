/-
Instants of universal time and spans between them.

An instant is a date, a second of that day and a count of nanoseconds. The
nanoseconds run up to two seconds: a second count of 59 with a thousand million
nanoseconds or more is the leap second behind it. Instants are ordered by date,
then second, then nanosecond, which `rank` turns into the order of the integers.

A span is a number of nanoseconds of either sign. Adding a span ignores leap
seconds except for an instant inside one: there a span shorter than a second
that does not carry past the end of the leap second stays on its second, and a
longer one counts from the end of the leap second if it goes back and from its
start if it goes on.
-/
import CountingHouse.Calendar.Date

set_option autoImplicit false

namespace CountingHouse

/-! ## Spans -/

/-- A length of time, possibly negative. -/
structure Span where
  nanos : Int
  deriving DecidableEq, Repr

namespace Span

def ofMillis (n : Int) : Span := ⟨n * 1000000⟩

def ofSeconds (n : Int) : Span := ⟨n * 1000000000⟩

/-- The whole milliseconds of a span, towards zero. -/
def millis (s : Span) : Int := s.nanos.tdiv 1000000

instance : LE Span := ⟨fun a b => a.nanos ≤ b.nanos⟩

instance : LT Span := ⟨fun a b => a.nanos < b.nanos⟩

instance (a b : Span) : Decidable (a ≤ b) := inferInstanceAs (Decidable (a.nanos ≤ b.nanos))

instance (a b : Span) : Decidable (a < b) := inferInstanceAs (Decidable (a.nanos < b.nanos))

def zero : Span := ⟨0⟩

/-- The most seconds, to either side, that a span of seconds may have: what 64 bits hold in
milliseconds. -/
def secondsLimit : Int := 9223372036854775807 / 1000

def ofSeconds? (n : Int) : Option Span :=
  if n.natAbs ≤ secondsLimit then some (ofSeconds n) else none

end Span

/-! ## Instants -/

/-- An instant of universal time. -/
structure Instant where
  date : Date
  second : Nat
  nano : Nat
  second_lt : second < 86400
  nano_lt : nano < 2000000000
  deriving DecidableEq

namespace Instant

instance : Inhabited Instant := ⟨⟨Date.epoch, 0, 0, by decide, by decide⟩⟩

instance : Repr Instant where
  reprPrec t _ := repr t.date ++ ":" ++ repr t.second ++ ":" ++ repr t.nano

/-- The number that orders instants. -/
def rank (t : Instant) : Int := (t.date.day * 86400 + t.second) * 2000000000 + t.nano

instance : LE Instant := ⟨fun a b => a.rank ≤ b.rank⟩

instance : LT Instant := ⟨fun a b => a.rank < b.rank⟩

instance (a b : Instant) : Decidable (a ≤ b) := inferInstanceAs (Decidable (a.rank ≤ b.rank))

instance (a b : Instant) : Decidable (a < b) := inferInstanceAs (Decidable (a.rank < b.rank))

theorem lt_iff_rank_lt {a b : Instant} : a < b ↔ a.rank < b.rank := Iff.rfl

theorem le_iff_rank_le {a b : Instant} : a ≤ b ↔ a.rank ≤ b.rank := Iff.rfl

theorem eq_of_rank_eq {a b : Instant} (h : a.rank = b.rank) : a = b := by
  obtain ⟨⟨d, _, _⟩, s, n, hs, hn⟩ := a
  obtain ⟨⟨d', _, _⟩, s', n', hs', hn'⟩ := b
  simp only [rank] at h
  have hn : n = n' := by omega
  have hs : s = s' := by omega
  have hd : d = d' := by omega
  subst hn hs hd
  rfl

def midnight (d : Date) : Instant := ⟨d, 0, 0, by decide, by decide⟩

def isLeap (t : Instant) : Bool := 1000000000 ≤ t.nano

/-- The instant so many nanoseconds after the start of day zero, if its date is
representable. -/
def ofNanos? (n : Int) : Option Instant := do
  let date ← Date.ofDay? (n / 86400000000000)
  let rest := (n % 86400000000000).toNat
  if h : rest / 1000000000 < 86400 ∧ rest % 1000000000 < 2000000000 then
    some ⟨date, rest / 1000000000, rest % 1000000000, h.1, h.2⟩
  else none

/-- The nanoseconds since the start of day zero, leap seconds not counted; an instant inside
one counts as the second behind it. -/
def nanos (t : Instant) : Int := (t.date.day * 86400 + t.second) * 1000000000 + t.nano

/-- The instant a span later, if its date is representable. -/
def add? (t : Instant) (s : Span) : Option Instant :=
  if t.isLeap then
    let stays : Int := t.nano + s.nanos
    if s.nanos.natAbs < 1000000000 ∧ stays < 2000000000 then
      if h : stays.toNat < 2000000000 then some { t with nano := stays.toNat, nano_lt := h }
      else none
    else if s.nanos < 0 then ofNanos? (t.nanos + s.nanos)
    else ofNanos? (t.nanos - 1000000000 + s.nanos)
  else ofNanos? (t.nanos + s.nanos)

/-- The span from one instant to a later one, leap seconds not counted. -/
def since (t start : Instant) : Span := ⟨t.nanos - start.nanos⟩

end Instant

end CountingHouse
