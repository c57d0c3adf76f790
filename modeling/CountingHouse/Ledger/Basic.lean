/-
The ledger: what is committed, and what is open.

Committed are the accounts, in the order of their numbers, and the journal: the
transfers and the entries in the order in which they were committed. Everybody
reads committed rows only. Writing happens in units of work. A unit that has
locked the row of an account holds a working copy of it, and buffers the transfers
and entries that it records; the unit's end turns its copies and its buffers into
committed rows, all of them or none.

Numbers are drawn when a row is made and not when it is committed, so a unit that
ends without effect leaves gaps. No number is drawn twice, as long as fewer than
2 ^ 63 of a kind are drawn: stored numbers have 64 bits, and behind the greatest of
them a counter of that width starts again with the least. The counters here are
integers and go on, so what holds of them holds of stored numbers up to that draw.

A row is locked by the unit that holds a copy of it. Units that wait for a row
stand in one queue, in the order of arrival; `Ledger.mayLock` says who is next.
-/
import CountingHouse.Ledger.Statement

set_option autoImplicit false

namespace CountingHouse

/-! ## Units of work -/

/-- The name of a unit of work. -/
structure UnitId where
  number : Nat
  deriving DecidableEq, Repr

/-- An open unit of work: the copies of the rows that it has locked, and the rows that it is
going to add to the journal. -/
structure OpenUnit where
  id : UnitId
  held : List Account := []
  transfers : List Transfer := []
  entries : List Entry := []
  deriving Repr

namespace OpenUnit

/-- The unit's copy of an account's row. -/
def copy? (u : OpenUnit) (account : AccountId) : Option Account :=
  u.held.find? fun a => a.id == account

/-- Whether the unit has locked an account's row. -/
def holds (u : OpenUnit) (account : AccountId) : Bool := u.held.any fun a => a.id == account

end OpenUnit

/-- How the commit of a unit of work may fail: it is refused, or it is carried out and the
acknowledgement gets lost. -/
inductive CommitFault where
  | contention
  | lostAcknowledgement
  deriving DecidableEq, Repr

/-! ## The ledger -/

/-- Committed rows, open units, the queue for locks, and the faults of the commits to come. -/
structure Ledger where
  accounts : List Account := []
  transfers : List Transfer := []
  entries : List Entry := []
  nextAccount : Int := 1
  nextTransfer : Int := 1
  nextEntry : Int := 1
  faults : List CommitFault := []
  units : List OpenUnit := []
  nextUnit : Nat := 0
  queue : List (UnitId × AccountId) := []
  deriving Repr

namespace Ledger

def empty : Ledger := {}

/-! ## Opening accounts -/

/-- Opens an account, unless the owner has one in that currency. -/
def addAccount (owner : String) (currency : Currency) (balance : Int) (now : Instant)
    (l : Ledger) : Except BankError Account × Ledger :=
  if l.accounts.any fun a => a.owner == owner && a.currency == currency then
    (.error (.duplicate (.account owner currency)), l)
  else
    let account : Account := ⟨⟨l.nextAccount⟩, owner, balance, currency, now⟩
    (.ok account,
      { l with accounts := l.accounts ++ [account], nextAccount := l.nextAccount + 1 })

/-- Opens an account that starts with a balance, which cannot be negative. -/
def addFundedAccount (owner : String) (currency : Currency) (balance : Int) (now : Instant)
    (l : Ledger) : Except BankError Account × Ledger :=
  if balance < 0 then (Violation.negativeOpeningBalance.refuse, l)
  else l.addAccount owner currency balance now

/-! ## Reading -/

def account? (l : Ledger) (account : AccountId) : Option Account :=
  l.accounts.find? fun a => a.id == account

/-- An owner's accounts, in the order of their numbers. -/
def accountsOf (l : Ledger) (owner : String) (limit offset : Int) : List Account :=
  Page.select limit offset (l.accounts.filter fun a => a.belongsTo owner)

/-- The transfers of a selection, in the order of their numbers. -/
def transfersOf (l : Ledger) (f : TransferSelection) : List Transfer :=
  Page.select f.limit f.offset
    ((l.transfers.filter f.admits).mergeSort fun a b => a.id.number ≤ b.id.number)

def entriesOf (l : Ledger) (transfer : TransferId) : List Entry :=
  l.entries.filter fun e => e.transfer == transfer

/-! ## Faults -/

/-- Lets a commit to come fail, after those that are to fail already. -/
def scheduleFault (fault : CommitFault) (l : Ledger) : Ledger :=
  { l with faults := l.faults ++ [fault] }

/-! ## Laws -/

@[simp]
theorem account?_empty (account : AccountId) : empty.account? account = none := rfl

/-- Opening an account takes nothing away. -/
theorem accounts_addAccount (owner : String) (currency : Currency) (balance : Int)
    (now : Instant) (l : Ledger) :
    ∃ opened, (l.addAccount owner currency balance now).2.accounts = l.accounts ++ opened := by
  unfold addAccount
  split
  · exact ⟨[], by simp⟩
  · exact ⟨_, rfl⟩

end Ledger

end CountingHouse
