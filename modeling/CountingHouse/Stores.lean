/-
The stores: everything that the bank remembers.

There are three of them, the ledger, the rate table and the table of sessions, and
they share one clock. They are kept in memory, or in a database; of a database only
its absence is modelled here, a pool of connections that has been closed. Then every
call fails before it does anything, and the error names the call.

An operation runs on the stores to a value or to an error. What it did to the stores
before an error stays done.
-/
import CountingHouse.Failure.Storage
import CountingHouse.Ledger.UnitOfWork
import CountingHouse.Rates.Table
import CountingHouse.Session.Table

set_option autoImplicit false

namespace CountingHouse

/-- The stores and the time on their clock. -/
structure Stores where
  clock : Instant
  ledger : Ledger := {}
  rates : RateTable := {}
  sessions : SessionTable := {}
  deriving Repr

abbrev Operation (α : Type) : Type := ExceptT BankError (StateM Stores) α

namespace Operation

/-- What an operation on the ledger does to the stores. -/
def onLedger {α : Type} (f : Instant → Ledger → Except BankError α × Ledger) : Operation α :=
  fun s => let (answer, ledger) := f s.clock s.ledger; (answer, { s with ledger })

/-- What an operation on the rate table does to the stores. -/
def onRates {α : Type} (f : Instant → RateTable → Except BankError α × RateTable) :
    Operation α :=
  fun s => let (answer, rates) := f s.clock s.rates; (answer, { s with rates })

/-- What an operation on the sessions does to the stores. -/
def onSessions {α : Type} (f : Instant → SessionTable → Except BankError α × SessionTable) :
    Operation α :=
  fun s => let (answer, sessions) := f s.clock s.sessions; (answer, { s with sessions })

/-- A check that needs no stores. -/
def of {α : Type} (answer : Except BankError α) : Operation α := fun s => (answer, s)

def now : Operation Instant := fun s => (.ok s.clock, s)

end Operation

/-! ## Backends -/

/-- Where the stores are kept. -/
inductive Backend where
  | memory
  | closedPool
  deriving DecidableEq, Repr

namespace Backend

open Operation

/-- A call of the stores, named by what is said if it fails. -/
def call {α : Type} (b : Backend) (context : String) (operation : Operation α) : Operation α :=
  match b with
  | memory => operation
  | closedPool => throw (StorageError.poolClosed.toBankError context)

@[simp]
theorem call_memory {α : Type} (context : String) (operation : Operation α) :
    memory.call context operation = operation := rfl

variable (b : Backend)

/-! ## The ledger -/

def beginUnit : Operation UnitId :=
  b.call "failed to begin transaction" <| onLedger fun _ l =>
    let (unit, l) := l.beginUnit
    (.ok unit, l)

def createAccount (owner : String) (currency : Currency) : Operation Account :=
  b.call "failed to create account" <| onLedger fun now l => l.addAccount owner currency 0 now

def account? (id : AccountId) : Operation (Option Account) :=
  b.call "failed to load account" <| onLedger fun _ l => (.ok (l.account? id), l)

def accountsOf (owner : String) (limit offset : Int) : Operation (List Account) :=
  b.call "failed to list accounts" <| onLedger fun _ l => (.ok (l.accountsOf owner limit offset), l)

def transfersOf (f : TransferSelection) : Operation (List Transfer) :=
  b.call "failed to list transfers" <| onLedger fun _ l => (.ok (l.transfersOf f), l)

def entriesOf (transfer : TransferId) : Operation (List Entry) :=
  b.call "failed to list entries" <| onLedger fun _ l => (.ok (l.entriesOf transfer), l)

/-! ## The rates -/

def rate? (pair : CurrencyPair) : Operation (Option ExchangeRate) :=
  b.call "failed to load exchange rate" <| onRates fun _ t => (.ok (t.current? pair), t)

def rates : Operation (List ExchangeRate) :=
  b.call "failed to list exchange rates" <| onRates fun _ t => (.ok t.list, t)

def createRate (pair : CurrencyPair) (rate : Decimal) : Operation ExchangeRate :=
  b.call "failed to create exchange rate" <| onRates fun now t => t.create pair rate now

def updateRate (id : RateId) (rate : Decimal) : Operation ExchangeRate :=
  b.call "failed to update exchange rate" <| onRates fun now t => t.update id rate now

/-! ## The sessions -/

def session? (id : SessionId) : Operation (Option Session) :=
  b.call "failed to load session" <| onSessions fun _ t => (.ok (t.find? id), t)

def createSession (id : SessionId) (username refreshToken : String) (client : Client)
    (expiresAt : Instant) : Operation Session :=
  b.call "failed to create session" <| onSessions fun now t =>
    t.create id username refreshToken client expiresAt now

def blockSession (id : SessionId) : Operation (Option Session) :=
  b.call "failed to block session" <| onSessions fun _ t =>
    let (session, t) := t.block id
    (.ok session, t)

end Backend

end CountingHouse
