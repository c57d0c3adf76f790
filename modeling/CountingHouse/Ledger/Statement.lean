/-
Account statements.

A statement lists the transfers that touch one account, each with what it did to
the balance. It may be cut to a range of days, both included, in universal time;
both ends are given or neither. The range becomes a half-open interval of
instants, from the start of the first day to the start of the day after the last.
-/
import CountingHouse.Ledger.Movement
import CountingHouse.Ledger.Page

set_option autoImplicit false

namespace CountingHouse

/-! ## Selections -/

/-- A selection of the transfers that touch an account: created at `since` or later and
earlier than `before`, and of those `limit` behind the first `offset`. -/
structure TransferSelection where
  account : AccountId
  since : Option Instant
  before : Option Instant
  limit : Int
  offset : Int
  deriving DecidableEq

namespace TransferSelection

/-- Whether a transfer is among those to choose from. -/
def admits (f : TransferSelection) (t : Transfer) : Bool :=
  t.touches f.account && f.since.all (· ≤ t.createdAt) && f.before.all (t.createdAt < ·)

end TransferSelection

/-! ## Requests -/

/-- What a statement is to show. -/
structure StatementRequest where
  account : AccountId
  page : Page
  startDate : Option Date
  endDate : Option Date
  deriving DecidableEq

namespace StatementRequest

def selection (r : StatementRequest) : Except BankError TransferSelection :=
  let select since before : TransferSelection :=
    ⟨r.account, since, before, r.page.limit, r.page.offset⟩
  match r.startDate, r.endDate with
  | none, none => .ok (select none none)
  | some first, some last =>
    if last < first then Violation.datesReversed.refuse
    -- the last day is included, so the interval ends where the next one starts
    else match last.next? with
      | some next => .ok (select (some (.midnight first)) (some (.midnight next)))
      | none => Violation.endDateOutOfRange.refuse
  | _, _ => Violation.dateMissing.refuse

def fieldNames : List String := ["account_id", "page", "start_date", "end_date"]

def toJson (r : StatementRequest) : Json :=
  .ofFields [("account_id", .ofInt r.account.number), ("page", r.page.toJson),
    ("start_date", .ofOption Date.toJson r.startDate),
    ("end_date", .ofOption Date.toJson r.endDate)]

def ofJson? (j : Json) : Option StatementRequest := do
  match ← j.record? fieldNames 0 with
  | [account, page, startDate, endDate] =>
    return {
      account := ⟨← Json.required? Json.stored? account⟩
      page := ← Json.required? Page.ofJson? page
      startDate := ← Json.optional? Date.ofJson? startDate
      endDate := ← Json.optional? Date.ofJson? endDate }
  | _ => none

end StatementRequest

/-! ## Lines -/

/-- A transfer and what it did to the account of the statement. -/
structure StatementLine where
  transfer : Transfer
  signedAmount : Int
  deriving DecidableEq, Repr

namespace StatementLine

/-- The line of a transfer on an account that it touches. -/
def of? (account : AccountId) (t : Transfer) : Option StatementLine :=
  (t.signedAmount? account).map (⟨t, ·⟩)

def toJson (l : StatementLine) : Json :=
  .ofFields [("transfer", l.transfer.toJson), ("signed_amount", .ofInt l.signedAmount)]

def ofJson? (j : Json) : Option StatementLine := do
  match ← j.record? ["transfer", "signed_amount"] 0 with
  | [transfer, signedAmount] =>
    return ⟨← Json.required? Transfer.ofJson? transfer, ← Json.required? Json.stored? signedAmount⟩
  | _ => none

end StatementLine

end CountingHouse
