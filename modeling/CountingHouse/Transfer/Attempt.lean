/-
One attempt at a transfer, call by call.

An attempt is a unit of work on the ledger. It locks the rows of both accounts, the
lower number first, checks that the caller may debit the one and that the other can be
credited, looks up the rate if the currencies differ, records the transfer and its two
entries, sets the two balances, and commits. Whatever goes wrong before the commit ends
it by a rollback.

Between two calls others may act, so an attempt is a machine: its `Stage` says which
call is next and what it knows already. Only two calls can be kept waiting, those for
the rows; an attempt that has waited too long gives up by contention. Every call brings
the attempt closer to its end, which `Stage.callsLeft` counts.
-/
import CountingHouse.Stores
import CountingHouse.Transfer.Order
import CountingHouse.Schedule.Procedure

set_option autoImplicit false

namespace CountingHouse

namespace Attempt

/-! ## Decisions -/

/-- The two accounts of a transfer and what it is going to do to them. -/
structure Plan where
  source : Account
  target : Account
  sourceAmount : Int
  amount : Int
  exchangeRate : Option Decimal
  sourceBalance : Int
  targetBalance : Int
  deriving DecidableEq, Repr

/-- Checks that the caller may debit the source account in the currency of the order. -/
def checkSource (r : TransferOrder) (source : Account) : Except BankError Unit := do
  if !source.belongsTo r.owner then throw (.unauthorized .notOwner)
  if source.currency ≠ r.currency then
    throw (.currencyMismatch source.id source.currency r.currency)

/-- The plan of a transfer that credits an amount at a rate, if the balances allow it. -/
def plan (r : TransferOrder) (source target : Account) (amount : Int)
    (exchangeRate : Option Decimal) : Except BankError Plan := do
  -- the balance is checked before any sum is taken, so that too little money is never reported
  -- as a sum out of range
  if !source.covers r.amount then
    throw (.insufficientFunds source.id r.amount source.balance)
  let sourceBalance ← changedBalance source.balance (-r.amount)
  let targetBalance ← changedBalance target.balance amount
  return ⟨source, target, r.amount, amount, exchangeRate, sourceBalance, targetBalance⟩

/-! ## Stages -/

/-- A call that is answered at once, with what is known when it is made. -/
inductive Call where
  | begin
  | lookUpRate (unit : UnitId) (source target : Account) (pair : CurrencyPair)
  | recordTransfer (unit : UnitId) (plan : Plan)
  | recordDebit (unit : UnitId) (plan : Plan) (transfer : Transfer)
  | recordCredit (unit : UnitId) (plan : Plan) (transfer : Transfer) (debit : Entry)
  | setSource (unit : UnitId) (plan : Plan) (transfer : Transfer) (debit credit : Entry)
  | setTarget (unit : UnitId) (plan : Plan) (transfer : Transfer) (debit credit : Entry)
      (source : Account)
  | commit (unit : UnitId) (result : TransferReceipt)
  | rollback (unit : UnitId) (error : BankError)
  deriving Repr

/-- Where an attempt stands: at a call, or at one of the two requests for a row. -/
inductive Stage where
  | calling (call : Call)
  | lockLower (unit : UnitId)
  | lockHigher (unit : UnitId) (lower : Account)
  deriving Repr

/-- At most so many calls are left, requests for rows included. -/
def Stage.callsLeft : Stage → Nat
  | calling .begin => 10
  | lockLower _ => 9
  | lockHigher _ _ => 8
  | calling (.lookUpRate ..) => 7
  | calling (.recordTransfer ..) => 6
  | calling (.recordDebit ..) => 5
  | calling (.recordCredit ..) => 4
  | calling (.setSource ..) => 3
  | calling (.setTarget ..) => 2
  | calling (.commit ..) => 1
  | calling (.rollback ..) => 1

/-- What a call leads to when `bound` calls were left: a stage with fewer calls left, or the
end. -/
inductive Outcome (bound : Nat) where
  | next (stage : Stage) (closer : stage.callsLeft < bound)
  | over (result : Except BankError TransferReceipt)

/-- A rollback is closer to the end than any stage with more than one call left. -/
theorem one_lt_callsLeft (more : Nat) : 1 < more + 2 := by omega

/-- Goes on with a stage, or rolls the unit back because of an error. -/
def proceed {bound : Nat} (unit : UnitId) (deep : 1 < bound) :
    Except BankError { stage : Stage // stage.callsLeft < bound } → Outcome bound
  | .ok stage => .next stage.1 stage.2
  | .error e => .next (.calling (.rollback unit e)) deep

/-! ## Calls -/

/-- What an attempt does that has both rows: the caller is checked, and then the rate is
looked up, or, within one currency, the transfer is planned. -/
def withRows (r : TransferOrder) (unit : UnitId) (lower higher : Account) :
    Except BankError { stage : Stage // stage.callsLeft < 8 } := do
  -- the rows came in the order of their numbers
  let (source, target) := if r.lowerRow = r.source then (lower, higher) else (higher, lower)
  checkSource r source
  if h : source.currency = target.currency then
    return ⟨.calling (.recordTransfer unit (← plan r source target r.amount none)),
      Nat.lt_succ_of_lt (Nat.lt_succ_self _)⟩
  else
    return ⟨.calling (.lookUpRate unit source target ⟨source.currency, target.currency, h⟩),
      Nat.lt_succ_self _⟩

def perform (b : Backend) (r : TransferOrder) (call : Call) (s : Stores) :
    Outcome (Stage.calling call).callsLeft × Stores :=
  match call with
  | .begin =>
    match b.beginUnit s with
    | (.ok unit, s) => (.next (.lockLower unit) (Nat.lt_succ_self _), s)
    | (.error e, s) => (.over (.error e), s)
  | .lookUpRate unit source target pair =>
    -- the rate is the one of now: nothing locks the table of rates
    let planned : Except BankError { stage : Stage // stage.callsLeft < 7 } := do
      match s.rates.current? pair with
      | none => throw (.rateNotFound pair.base pair.target)
      | some row =>
        let conversion ← convert r.amount row
        return ⟨.calling (.recordTransfer unit
          (← plan r source target conversion.convertedAmount (some conversion.rate))),
          Nat.lt_succ_self _⟩
    (proceed unit (one_lt_callsLeft _) planned, s)
  | .recordTransfer unit plan =>
    let (transfer, ledger) := s.ledger.recordTransfer unit plan.source.id plan.target.id
      plan.amount plan.sourceAmount plan.exchangeRate s.clock
    (.next (.calling (.recordDebit unit plan transfer)) (Nat.lt_succ_self _),
      { s with ledger })
  | .recordDebit unit plan transfer =>
    let (debit, ledger) := s.ledger.recordEntry unit plan.source.id transfer.id
      (-plan.sourceAmount) s.clock
    (.next (.calling (.recordCredit unit plan transfer debit)) (Nat.lt_succ_self _),
      { s with ledger })
  | .recordCredit unit plan transfer debit =>
    let (credit, ledger) := s.ledger.recordEntry unit plan.target.id transfer.id plan.amount s.clock
    (.next (.calling (.setSource unit plan transfer debit credit)) (Nat.lt_succ_self _),
      { s with ledger })
  | .setSource unit plan transfer debit credit =>
    let (answer, ledger) := s.ledger.setBalance unit plan.source.id plan.sourceBalance
    (proceed unit (one_lt_callsLeft _) (answer.map fun source =>
        ⟨.calling (.setTarget unit plan transfer debit credit source), Nat.lt_succ_self _⟩),
      { s with ledger })
  | .setTarget unit plan transfer debit credit source =>
    let (answer, ledger) := s.ledger.setBalance unit plan.target.id plan.targetBalance
    (proceed unit (one_lt_callsLeft _) (answer.map fun target =>
        ⟨.calling (.commit unit ⟨transfer, debit, credit, source, target⟩),
          Nat.lt_succ_self _⟩),
      { s with ledger })
  | .commit unit result =>
    let (answer, ledger) := s.ledger.commit unit
    (.over (answer.map fun _ => result), { s with ledger })
  | .rollback unit error => (.over (.error error), { s with ledger := s.ledger.dropUnit unit })

/-- Asks for a row and, when it is had or known to be missing, goes on; `none` while the row
has to be waited for. -/
def askForRow {bound : Nat} (unit : UnitId) (row : AccountId) (deep : 1 < bound)
    (withRow : Account → Except BankError { stage : Stage // stage.callsLeft < bound })
    (s : Stores) : Option (Outcome bound) × Stores :=
  let (answer, ledger) := s.ledger.lock unit row
  let outcome := match answer with
    | .granted account => some (proceed unit deep (withRow account))
    | .missing => some (proceed unit deep (.error (.accountNotFound row)))
    | .waiting => none
  (outcome, { s with ledger })

def giveUp {bound : Nat} (unit : UnitId) (row : AccountId) (deep : 1 < bound) (s : Stores) :
    Outcome bound × Stores :=
  (proceed unit deep (.error (.contention (.lockTimeout row))),
    { s with ledger := s.ledger.leaveQueue unit row })

/-- Drops the unit of an attempt whose caller is gone. -/
def abandon (unit : UnitId) (s : Stores) : Stores :=
  { s with ledger := s.ledger.dropUnit unit }

/-! ## The machine -/

/-- The unit and the row that an attempt asks for at a stage. -/
def Stage.request? (r : TransferOrder) : Stage → Option (UnitId × AccountId)
  | lockLower unit => some (unit, r.lowerRow)
  | lockHigher unit _ => some (unit, r.higherRow)
  | calling _ => none

/-- Takes an attempt one call on; `none` if it has to wait. -/
def advance (b : Backend) (r : TransferOrder) (stage : Stage) (s : Stores) :
    Option (Outcome stage.callsLeft) × Stores :=
  match stage with
  | .calling call => let (outcome, s) := perform b r call s; (some outcome, s)
  | .lockLower unit =>
    askForRow unit r.lowerRow (one_lt_callsLeft _)
      (fun lower => .ok ⟨.lockHigher unit lower, Nat.lt_succ_self _⟩) s
  | .lockHigher unit lower =>
    askForRow unit r.higherRow (one_lt_callsLeft _) (withRows r unit lower) s

/-- The call of a stage as a procedure that waits for a row up to a limit. -/
def callOf (b : Backend) (limit : Delay) (r : TransferOrder) (stage : Stage) :
    Procedure Stores (Outcome stage.callsLeft) :=
  match stage with
  | .calling call => .step (perform b r call)
  | .lockLower unit =>
    .await (advance b r (.lockLower unit)) limit
      (giveUp unit r.lowerRow (one_lt_callsLeft _)) (abandon unit) .finished
  | .lockHigher unit lower =>
    .await (advance b r (.lockHigher unit lower)) limit
      (giveUp unit r.higherRow (one_lt_callsLeft _)) (abandon unit) .finished

/-- An attempt from a stage on, as a procedure that waits for a row up to a limit. -/
def procedure (b : Backend) (limit : Delay) (r : TransferOrder) (stage : Stage) :
    Procedure Stores (Except BankError TransferReceipt) :=
  (callOf b limit r stage).bind fun
    | .next later _ => procedure b limit r later
    | .over result => .finished result
termination_by stage.callsLeft
decreasing_by assumption

end Attempt

end CountingHouse
