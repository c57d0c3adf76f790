/-
Delays.

A delay is a number of seconds that fits 64 bits and a number of nanoseconds below a
second. Multiplying one carries from the nanoseconds to the seconds and stops at the
longest delay.
-/

set_option autoImplicit false

namespace CountingHouse

/-- A length of time to wait. -/
structure Delay where
  seconds : Nat
  nanos : Nat
  seconds_lt : seconds < 1 <<< 64
  nanos_lt : nanos < 1000000000
  deriving DecidableEq

namespace Delay

instance : Repr Delay where
  reprPrec d _ := repr d.seconds ++ "." ++ repr d.nanos

def zero : Delay := ⟨0, 0, by decide, by decide⟩

def greatest : Delay := ⟨(1 <<< 64) - 1, 999999999, by decide, by decide⟩

/-- A delay of seconds and nanoseconds, if it is not too long. -/
def of? (seconds nanos : Nat) : Option Delay :=
  if h : seconds < 1 <<< 64 ∧ nanos < 1000000000 then some ⟨seconds, nanos, h.1, h.2⟩ else none

/-- A delay of milliseconds, or the longest one. -/
def ofMillis (n : Nat) : Delay :=
  if h : n / 1000 < 1 <<< 64 then ⟨n / 1000, n % 1000 * 1000000, h, by omega⟩ else greatest

/-- The whole milliseconds of a delay. -/
def millis (d : Delay) : Nat := d.seconds * 1000 + d.nanos / 1000000

def total (d : Delay) : Nat := d.seconds * 1000000000 + d.nanos

/-- The delay taken so many times, or the longest one. -/
def scale (factor : Nat) (d : Delay) : Delay :=
  let nanos := d.nanos * factor
  let seconds := d.seconds * factor + nanos / 1000000000
  if h : seconds < 1 <<< 64 then
    ⟨seconds, nanos % 1000000000, h, Nat.mod_lt _ (by decide)⟩
  else greatest

/-- The milliseconds until a timer set to a delay goes off: timers count whole ones, so a
part of one is rounded up. -/
def ticks (d : Delay) : Nat := (d.total + 999999) / 1000000

theorem eq_of_total_eq {a b : Delay} (h : a.total = b.total) : a = b := by
  obtain ⟨s, n, _, hn⟩ := a
  obtain ⟨t, m, _, hm⟩ := b
  simp only [total] at h
  have hs : s = t := by omega
  have hn : n = m := by omega
  subst hs hn
  rfl

end Delay

end CountingHouse
