/-
Units of work.

A unit is begun, locks rows, records transfers and entries, sets the balances of
rows that it has locked, and ends in one of three ways: it is committed, it is
rolled back, or it is dropped. Rolling back and dropping leave no trace.

A lock is asked for and may be asked for again. The first time it is not granted
the unit takes its place in the queue, and a unit behind others in the queue is
not granted the row even if nobody holds it. A unit that stops waiting leaves the
queue and stays usable. A row that the unit holds already is granted at once, as
the unit itself last wrote it; a row that it does not hold is copied when it is
granted, so that the copy is the committed row for as long as nobody else can
write it.

A commit takes the next fault from the queue of faults. It is refused by
contention, and then nothing is written, or it is carried out; and a commit that
is carried out may still be reported as uncertain. Either way the unit ends, and
with it its locks and its places in the queue.
-/
import CountingHouse.Ledger.Basic

set_option autoImplicit false

namespace CountingHouse

namespace Ledger

/-! ## Beginning and ending -/

def beginUnit (l : Ledger) : UnitId × Ledger :=
  let unit : UnitId := ⟨l.nextUnit⟩
  (unit, { l with units := l.units ++ [{ id := unit }], nextUnit := l.nextUnit + 1 })

def unit? (l : Ledger) (unit : UnitId) : Option OpenUnit := l.units.find? fun u => u.id == unit

def modifyUnit (unit : UnitId) (change : OpenUnit → OpenUnit) (l : Ledger) : Ledger :=
  { l with units := l.units.map fun u => if u.id == unit then change u else u }

/-- Ends a unit without effect: its locks are free and it waits for nothing. -/
def dropUnit (unit : UnitId) (l : Ledger) : Ledger :=
  { l with
    units := l.units.filter fun u => u.id != unit
    queue := l.queue.filter fun ticket => ticket.1 != unit }

/-! ## Locks -/

/-- What a request for a row leads to. -/
inductive LockAnswer where
  | granted (account : Account)
  | missing
  | waiting
  deriving DecidableEq, Repr

/-- Whether a unit may have a row that it does not hold: no other unit holds the row, and
none asked for it earlier and still waits. -/
def mayLock (l : Ledger) (unit : UnitId) (row : AccountId) : Bool :=
  (l.units.all fun u => u.id == unit || !u.holds row) &&
    ((l.queue.find? fun ticket => ticket.2 == row).all fun ticket => ticket.1 == unit)

/-- Asks for the row of an account. -/
def lock (unit : UnitId) (row : AccountId) (l : Ledger) : LockAnswer × Ledger :=
  match l.unit? unit with
  | none => (.missing, l)
  | some u =>
    match u.copy? row with
    -- a row that is held is granted as the unit has written it
    | some account => (.granted account, l)
    | none =>
      match l.account? row with
      | none => (.missing, l)
      | some account =>
        if l.mayLock unit row then
          let l := { l with queue := l.queue.filter (· != (unit, row)) }
          (.granted account, l.modifyUnit unit fun u => { u with held := u.held ++ [account] })
        -- who asks again keeps the place in the queue
        else if (unit, row) ∈ l.queue then (.waiting, l)
        else (.waiting, { l with queue := l.queue ++ [(unit, row)] })

/-- Gives up waiting for a row. -/
def leaveQueue (unit : UnitId) (row : AccountId) (l : Ledger) : Ledger :=
  { l with queue := l.queue.filter (· != (unit, row)) }

/-! ## Writing -/

def recordTransfer (unit : UnitId) (source target : AccountId) (amount sourceAmount : Int)
    (exchangeRate : Option Decimal) (now : Instant) (l : Ledger) : Transfer × Ledger :=
  let transfer : Transfer :=
    ⟨⟨l.nextTransfer⟩, source, target, amount, sourceAmount, exchangeRate, now⟩
  (transfer,
    { l with nextTransfer := l.nextTransfer + 1 }.modifyUnit unit
      fun u => { u with transfers := u.transfers ++ [transfer] })

def recordEntry (unit : UnitId) (account : AccountId) (transfer : TransferId) (amount : Int)
    (now : Instant) (l : Ledger) : Entry × Ledger :=
  let entry : Entry := ⟨⟨l.nextEntry⟩, account, transfer, amount, now⟩
  (entry,
    { l with nextEntry := l.nextEntry + 1 }.modifyUnit unit
      fun u => { u with entries := u.entries ++ [entry] })

/-- Sets the balance of a row that the unit has locked. -/
def setBalance (unit : UnitId) (row : AccountId) (balance : Int) (l : Ledger) :
    Except BankError Account × Ledger :=
  match (l.unit? unit).bind fun u => u.copy? row with
  | none => (.error (.internal (.notLocked row)), l)
  | some account =>
    if balance < 0 then (.error (.internal (.negativeBalance row)), l)
    else
      let written := { account with balance }
      (.ok written, l.modifyUnit unit fun u =>
        { u with held := u.held.map fun a => if a.id == row then written else a })

/-! ## Commit -/

/-- The committed rows with those of a unit in their place, and its buffers behind the
journal. -/
def apply (u : OpenUnit) (l : Ledger) : Ledger :=
  { l with
    accounts := l.accounts.map fun a => (u.copy? a.id).getD a
    transfers := l.transfers ++ u.transfers
    entries := l.entries ++ u.entries }

def commit (unit : UnitId) (l : Ledger) : Except BankError Unit × Ledger :=
  -- the fault is taken whatever comes of the commit
  let fault := l.faults.head?
  let l := { l with faults := l.faults.tail }
  if fault = some .contention then
    (.error (.contention .concurrentUpdate), l.dropUnit unit)
  else
    let applied := match l.unit? unit with
      | some u => l.apply u
      | none => l
    let answer := if fault = some .lostAcknowledgement then
        .error (.indeterminate .lostAcknowledgement)
      else .ok ()
    (answer, applied.dropUnit unit)

/-! ## Laws -/

/-- Dropping a unit leaves the committed rows alone. -/
theorem committed_dropUnit (unit : UnitId) (l : Ledger) :
    (l.dropUnit unit).accounts = l.accounts ∧ (l.dropUnit unit).transfers = l.transfers ∧
      (l.dropUnit unit).entries = l.entries := ⟨rfl, rfl, rfl⟩

/-- Asking for a row leaves the committed rows alone. -/
theorem committed_lock (unit : UnitId) (row : AccountId) (l : Ledger) :
    (l.lock unit row).2.accounts = l.accounts ∧ (l.lock unit row).2.transfers = l.transfers ∧
      (l.lock unit row).2.entries = l.entries := by
  unfold lock modifyUnit
  repeat' split
  all_goals exact ⟨rfl, rfl, rfl⟩

theorem unit?_dropUnit (unit : UnitId) (l : Ledger) : (l.dropUnit unit).unit? unit = none := by
  simp [unit?, dropUnit]

end Ledger

end CountingHouse
