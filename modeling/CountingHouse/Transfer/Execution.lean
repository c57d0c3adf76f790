/-
Carrying out transfers.

An order is checked and then attempted. Only an attempt that failed by contention is
followed by another, after a pause, because only then it is certain that nothing was
written; the result is that of the last attempt.
-/
import CountingHouse.Transfer.Attempt
import CountingHouse.Transfer.Policy

set_option autoImplicit false

namespace CountingHouse

namespace TransferPolicy

/-- Whether an attempt with that result is followed by another when so many retries are
left. -/
def retries {α : Type} (result : Except BankError α) (left : Nat) : Bool :=
  match result with
  | .ok _ => false
  | .error e => e.mayRetry && 0 < left

variable {σ α : Type}

/-- Attempts until a result is final. `left` retries are left of the policy's. -/
def retrying (p : TransferPolicy) (attempt : Procedure σ (Except BankError α)) :
    Nat → Procedure σ (Except BankError α)
  | 0 => attempt
  | left + 1 => attempt.bind fun result =>
    -- the first pause is that before retry number one
    if retries result (left + 1) then
      (Procedure.pause (p.backoff (p.maxRetries - left))).bind fun _ => retrying p attempt left
    else .finished result

end TransferPolicy

namespace TransferOrder

/-- Carries out an order by a policy, on stores whose rows are waited for up to a limit. -/
def carryOut (b : Backend) (limit : Delay) (p : TransferPolicy) (r : TransferOrder) :
    Procedure Stores (Except BankError TransferReceipt) :=
  match r.check with
  | .error e => .finished (.error e)
  | .ok r => p.retrying (Attempt.procedure b limit r (.calling .begin)) p.maxRetries

end TransferOrder

end CountingHouse
