/-
How patient transfers are.

An attempt waits for a row up to a limit. An attempt that fails by contention is
followed by another after a pause, up to a number of retries; the pause doubles from
retry to retry, ten times at most.
-/
import CountingHouse.Schedule.Delay

set_option autoImplicit false

namespace CountingHouse

/-- How often transfers are tried again, how long they pause before that, and how long they
wait for a row. -/
structure TransferPolicy where
  maxRetries : Nat := 3
  retryBackoff : Delay := .ofMillis 25
  lockTimeout : Delay := .ofMillis 5000
  deriving DecidableEq, Repr

namespace TransferPolicy

/-- The pause before retry number `retry`, counted from one. -/
def backoff (p : TransferPolicy) (retry : Nat) : Delay :=
  p.retryBackoff.scale (Nat.pow 2 (min (retry - 1) 10))

/-- The pauses before the zeroth and the first retry are the same. -/
theorem backoff_zero (p : TransferPolicy) : p.backoff 0 = p.backoff 1 := rfl

end TransferPolicy

end CountingHouse
