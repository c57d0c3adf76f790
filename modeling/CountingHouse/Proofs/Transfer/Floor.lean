/-
Everything that can happen while transfers are under way.

On a `Floor` any number of attempts stand at their stages, and the rest of the bank goes on
around them: accounts are opened, rates are created and replaced, faults are scheduled, the
clock is set. An `Event` is one such thing, or one call of one attempt, so a list of events is
an interleaving at the granularity of calls. An attempt may also give up at a row that it
waits for, and it may be abandoned anywhere. Attempts follow each other under any names and
any number of times, which covers those who try again.

A floor keeps a history of what has been done to the books and to the rates: openings and
changes of rates with their answers, and each transfer that was committed, with its receipt,
whether or not the commit was acknowledged.
-/
import CountingHouse.Proofs.Transfer.Stages

set_option autoImplicit false

namespace CountingHouse

open Attempt

/-! ## Deeds -/

inductive Opening where
  | empty (owner : String) (currency : Currency)
  | funded (owner : String) (currency : Currency) (balance : Int)

inductive RateChange where
  | create (pair : CurrencyPair) (rate : Decimal)
  | update (id : RateId) (rate : Decimal)

/-- The answer to a request for an account, and the ledger after it. -/
def Opening.apply (now : Instant) (l : Ledger) : Opening → Except BankError Account × Ledger
  | empty owner currency => l.addAccount owner currency 0 now
  | funded owner currency balance => l.addFundedAccount owner currency balance now

/-- The answer to a request to the rate table, and the table after it. -/
def RateChange.apply (now : Instant) (t : RateTable) :
    RateChange → Except BankError ExchangeRate × RateTable
  | create pair rate => t.create pair rate now
  | update id rate => t.update id rate now

/-- What was done, when, and with what result. -/
inductive Deed where
  | opening (request : Opening) (now : Instant) (answer : Except BankError Account)
  | rateChange (request : RateChange) (now : Instant) (answer : Except BankError ExchangeRate)
  | transfer (order : TransferOrder) (receipt : TransferReceipt)

/-! ## Openings -/

/-- Whether somebody has an account in a currency. -/
def taken (accounts : List Account) (owner : String) (currency : Currency) : Bool :=
  accounts.any fun a => a.owner == owner && a.currency == currency

/-- What is opened depends on who has an account already and on the next number. -/
theorem Opening.apply_congr (request : Opening) (now : Instant) {l l' : Ledger}
    (hnext : l'.nextAccount = l.nextAccount)
    (htaken : ∀ owner currency,
      taken l'.accounts owner currency = taken l.accounts owner currency) :
    (∃ e, request.apply now l = (.error e, l) ∧ request.apply now l' = (.error e, l')) ∨
    (∃ a : Account, a.id = ⟨l.nextAccount⟩ ∧ 0 ≤ a.balance ∧
      request.apply now l = (.ok a, l.addRow a) ∧ request.apply now l' = (.ok a, l'.addRow a)) := by
  -- the answer depends on whether the holder has an account in the currency, and the row on the
  -- next number
  have hadd : ∀ owner currency balance, 0 ≤ balance →
      (∃ e, l.addAccount owner currency balance now = (.error e, l) ∧
        l'.addAccount owner currency balance now = (.error e, l')) ∨
      (∃ a : Account, a.id = ⟨l.nextAccount⟩ ∧ 0 ≤ a.balance ∧
        l.addAccount owner currency balance now = (.ok a, l.addRow a) ∧
        l'.addAccount owner currency balance now = (.ok a, l'.addRow a)) := by
    intro owner currency balance hbalance
    have htaken' := htaken owner currency
    unfold taken at htaken'
    unfold Ledger.addAccount
    rw [htaken', hnext]
    by_cases h : (l.accounts.any fun a => a.owner == owner && a.currency == currency) = true
    · rw [if_pos h, if_pos h]
      exact .inl ⟨_, rfl, rfl⟩
    · rw [if_neg h, if_neg h]
      refine .inr ⟨_, rfl, hbalance, rfl, ?_⟩
      unfold Ledger.addRow
      rw [hnext]
  rcases request with ⟨owner, currency⟩ | ⟨owner, currency, balance⟩
  · exact hadd owner currency 0 (Int.le_refl 0)
  · have happly : ∀ l : Ledger, (Opening.funded owner currency balance).apply now l
        = l.addFundedAccount owner currency balance now := fun _ => rfl
    rw [happly, happly]
    unfold Ledger.addFundedAccount
    by_cases hnegative : balance < 0
    · rw [if_pos hnegative, if_pos hnegative]
      exact .inl ⟨_, rfl, rfl⟩
    · rw [if_neg hnegative, if_neg hnegative]
      exact hadd owner currency balance (by omega)

/-! ## The floor -/

/-- An attempt that is under way. -/
structure Pending where
  order : TransferOrder
  stage : Stage

/-- The stores, the attempts by their names, and what has been done. -/
structure Floor where
  stores : Stores
  attempts : Nat → Option Pending := fun _ => none
  history : List Deed := []

/-- Something that happens on a floor. -/
inductive Event where
  | setClock (now : Instant)
  | opening (request : Opening)
  | rateChange (request : RateChange)
  | scheduleFault (fault : CommitFault)
  | start (attempt : Nat) (order : TransferOrder)
  | advance (attempt : Nat)
  | giveUp (attempt : Nat)
  | abandon (attempt : Nat)

namespace Floor

def empty (clock : Instant) : Floor := { stores := { clock } }

def setAttempt (i : Nat) (attempt : Option Pending) (f : Floor) : Floor :=
  { f with attempts := fun j => if j = i then attempt else f.attempts j }

/-- The attempts after a call of one of them; there is no outcome if it has to wait. -/
def follow {bound : Nat} (i : Nat) (r : TransferOrder) (outcome : Option (Outcome bound))
    (f : Floor) : Floor :=
  match outcome with
  | none => f
  | some (.next later _) => f.setAttempt i (some ⟨r, later⟩)
  | some (.over _) => f.setAttempt i none

/-- What a call of an attempt adds to the history: a commit that is not refused. -/
def posted (a : Pending) (l : Ledger) : List Deed :=
  match a.stage with
  | .calling (.commit _ receipt) =>
    if l.faults.head? = some .contention then [] else [.transfer a.order receipt]
  | _ => []

/-- The floor after an event. An attempt is started only if its order passes the check, under
a name that is free. -/
def step (f : Floor) : Event → Floor
  | .setClock now => { f with stores := { f.stores with clock := now } }
  | .opening request =>
    let (answer, ledger) := request.apply f.stores.clock f.stores.ledger
    { f with
      stores := { f.stores with ledger }
      history := f.history ++ [.opening request f.stores.clock answer] }
  | .rateChange request =>
    let (answer, rates) := request.apply f.stores.clock f.stores.rates
    { f with
      stores := { f.stores with rates }
      history := f.history ++ [.rateChange request f.stores.clock answer] }
  | .scheduleFault fault =>
    { f with stores := { f.stores with ledger := f.stores.ledger.scheduleFault fault } }
  | .start i order =>
    match f.attempts i, order.check with
    | none, .ok r => f.setAttempt i (some ⟨r, .calling .begin⟩)
    | _, _ => f
  | .advance i =>
    match f.attempts i with
    | none => f
    | some a =>
      let (outcome, stores) := Attempt.advance .memory a.order a.stage f.stores
      { f with stores, history := f.history ++ posted a f.stores.ledger }.follow i a.order outcome
  | .giveUp i =>
    match f.attempts i with
    | none => f
    | some a =>
      match a.stage.request? a.order with
      | none => f
      | some (unit, row) =>
        let (outcome, stores) := @Attempt.giveUp 2 unit row Nat.one_lt_two f.stores
        { f with stores }.follow i a.order (some outcome)
  | .abandon i =>
    match f.attempts i with
    | none => f
    | some a =>
      match a.stage.unit? with
      | none => f.setAttempt i none
      | some unit => { f with stores := Attempt.abandon unit f.stores }.setAttempt i none

/-- The floor after events, the first of the list first. -/
def run (events : List Event) (f : Floor) : Floor := events.foldl step f

/-- Events happen one list after the other. -/
theorem run_append (before later : List Event) (f : Floor) :
    f.run (before ++ later) = (f.run before).run later := by
  unfold run
  rw [List.foldl_append]

end Floor

end CountingHouse
