/-
The pieces of a transfer.

Carrying out an order is a loop of attempts with pauses between them, and at every moment the
caller stands at a stage of an attempt, at a pause, or at the end. So what is left of the loop
has one of a few forms, and a piece leads from one of them to another: at a stage it is the call
of that stage (`go_procedure`), and behind the end of an attempt the loop goes on with a pause
or is over (`TransferPolicy.again`).
-/
import CountingHouse.Proofs.Schedule.Pieces
import CountingHouse.Proofs.Transfer.Retries

set_option autoImplicit false

namespace CountingHouse

open Attempt

/-! ## The loop -/

namespace TransferPolicy

variable {σ α : Type}

/-- What follows the result of an attempt when so many retries are left. -/
def again (p : TransferPolicy) (attempt : Procedure σ (Except BankError α)) (left : Nat)
    (result : Except BankError α) : Procedure σ (Except BankError α) :=
  match left with
  | 0 => .finished result
  | left + 1 =>
    if retries result (left + 1) then
      (Procedure.pause (p.backoff (p.maxRetries - left))).bind fun _ => p.retrying attempt left
    else .finished result

/-- The loop is one attempt and what follows from its answer. -/
theorem retrying_eq (p : TransferPolicy) (attempt : Procedure σ (Except BankError α))
    (left : Nat) : p.retrying attempt left = attempt.bind (p.again attempt left) := by
  cases left with
  | zero => exact (Procedure.bind_finished attempt).symm
  | succ left => rfl

/-- The loop pauses before the next attempt, or it is over. -/
theorem again_cases (p : TransferPolicy) (attempt : Procedure σ (Except BankError α))
    (left : Nat) (result : Except BankError α) :
    (∃ left' delay, p.again attempt left result
      = (Procedure.pause delay).bind fun _ => p.retrying attempt left') ∨
    p.again attempt left result = .finished result := by
  cases left with
  | zero => exact .inr rfl
  | succ left =>
    unfold again
    by_cases hretries : retries result (left + 1) = true
    · exact .inl ⟨left, _, if_pos hretries⟩
    · exact .inr (if_neg hretries)

/-- What has been posted ends the loop. -/
theorem again_of_applied (p : TransferPolicy)
    (attempt : Procedure σ (Except BankError TransferReceipt)) (left : Nat)
    (fault : Option CommitFault) (receipt : TransferReceipt) :
    p.again attempt left ((Ledger.acknowledgement fault).map fun _ => receipt)
      = .finished ((Ledger.acknowledgement fault).map fun _ => receipt) := by
  cases left with
  | zero => rfl
  | succ left => exact if_neg (not_retries_of_applied fault receipt (left + 1))

end TransferPolicy

/-! ## One attempt -/

namespace Attempt

variable {b : Backend} {limit : Delay} {r : TransferOrder} {stage : Stage} {β : Type}
variable {k : Except BankError TransferReceipt → Procedure Stores β} {s : Stores}
variable {n : UnitId} {row : AccountId}

/-- What is left behind a call of an attempt that is followed by something else. -/
def after (b : Backend) (limit : Delay) (r : TransferOrder)
    (k : Except BankError TransferReceipt → Procedure Stores β) {bound : Nat} :
    Outcome bound → Procedure Stores β
  | .next later _ => (procedure b limit r later).bind k
  | .over result => k result

/-- An attempt within a larger procedure is its next call, and behind it the rest of the attempt
within that procedure. -/
theorem procedure_bind (stage : Stage) :
    (procedure b limit r stage).bind k = (callOf b limit r stage).bind (after b limit r k) := by
  rw [procedure, Procedure.bind_assoc]
  congr 1
  funext outcome
  rcases outcome with ⟨later, closer⟩ | result
  all_goals rfl

/-- A piece of an attempt is the call of its stage. -/
theorem go_procedure (stage : Stage) (s : Stores) :
    ((procedure .memory limit r stage).bind k).go s
      = (match (advance .memory r stage s).1 with
        | some outcome => after .memory limit r k outcome
        | none => (procedure .memory limit r stage).bind k, (advance .memory r stage s).2) := by
  rw [procedure_bind]
  rcases stage with call | n | ⟨n, lower⟩
  · rfl
  · unfold callOf Procedure.bind Procedure.go
    dsimp only
    rcases advance .memory r (.lockLower n) s with ⟨_ | outcome, t⟩
    · rfl
    · rfl
  · unfold callOf Procedure.bind Procedure.go
    dsimp only
    rcases advance .memory r (.lockHigher n lower) s with ⟨_ | outcome, t⟩
    · rfl
    · rfl

/-- An attempt whose patience is over rolls back. -/
theorem expire_procedure (hrequest : stage.request? r = some (n, row)) (s : Stores) :
    ((procedure b limit r stage).bind k).expire s
      = ((procedure b limit r (.calling (.rollback n (.contention (.lockTimeout row))))).bind k,
        { s with ledger := s.ledger.leaveQueue n row }) := by
  rw [procedure_bind]
  rcases stage with call | m | ⟨m, lower⟩
  · cases hrequest
  · cases hrequest
    rfl
  · cases hrequest
    rfl

/-- Where an attempt waits for a row, its caller can go, and leaves the unit behind as abandoned. -/
theorem leave_procedure (hrequest : stage.request? r = some (n, row)) (s : Stores) :
    ((procedure b limit r stage).bind k).leave s = some (abandon n s) := by
  rw [procedure_bind]
  rcases stage with call | m | ⟨m, lower⟩
  · cases hrequest
  · cases hrequest
    rfl
  · cases hrequest
    rfl

/-- At a call that is answered at once nobody is impatient, and nobody leaves. -/
theorem patient_procedure (hrequest : stage.request? r = none) (s : Stores) :
    ((procedure b limit r stage).bind k).expire s = ((procedure b limit r stage).bind k, s) ∧
      ((procedure b limit r stage).bind k).leave s = none := by
  rw [procedure_bind]
  rcases stage with call | m | ⟨m, lower⟩
  · exact ⟨rfl, rfl⟩
  · cases hrequest
  · cases hrequest

end Attempt

end CountingHouse
