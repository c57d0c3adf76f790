/-
Orders to move money, and what comes of them.

An order names the two accounts, an amount in units of the source account, the
currency that the caller believes the source account to be in, and the caller. The
receipt holds every row that the transfer made or changed.
-/
import CountingHouse.Ledger.Movement

set_option autoImplicit false

namespace CountingHouse

/-! ## Orders -/

/-- An order to move money. -/
structure TransferOrder where
  source : AccountId
  target : AccountId
  amount : Int
  currency : Currency
  owner : String
  deriving DecidableEq, Repr

namespace TransferOrder

def lowerRow (r : TransferOrder) : AccountId := (AccountId.ordered r.source r.target).1

def higherRow (r : TransferOrder) : AccountId := (AccountId.ordered r.source r.target).2

/-- The order, if it can be carried out on some ledger: it joins two accounts and moves
something. -/
def check (r : TransferOrder) : Except BankError TransferOrder := do
  if r.source = r.target then throw (.sameAccount r.source)
  discard <| positiveAmount r.amount
  return r

def fieldNames : List String :=
  ["from_account_id", "to_account_id", "amount", "currency", "owner"]

def toJson (r : TransferOrder) : Json :=
  .ofFields [("from_account_id", .ofInt r.source.number), ("to_account_id", .ofInt r.target.number),
    ("amount", .ofInt r.amount), ("currency", r.currency.toJson), ("owner", .ofText r.owner)]

def ofJson? (j : Json) : Option TransferOrder := do
  match ← j.record? fieldNames 0 with
  | [source, target, amount, currency, owner] =>
    return {
      source := ⟨← Json.required? Json.stored? source⟩
      target := ⟨← Json.required? Json.stored? target⟩
      amount := ← Json.required? Json.stored? amount
      currency := ← Json.required? Currency.ofJson? currency
      owner := ← Json.required? Json.text? owner }
  | _ => none

end TransferOrder

/-! ## Receipts -/

/-- The rows that a transfer made and changed. -/
structure TransferReceipt where
  transfer : Transfer
  sourceEntry : Entry
  targetEntry : Entry
  sourceAccount : Account
  targetAccount : Account
  deriving DecidableEq, Repr

namespace TransferReceipt

def fieldNames : List String :=
  ["transfer", "from_entry", "to_entry", "from_account", "to_account"]

def toJson (r : TransferReceipt) : Json :=
  .ofFields [("transfer", r.transfer.toJson), ("from_entry", r.sourceEntry.toJson),
    ("to_entry", r.targetEntry.toJson), ("from_account", r.sourceAccount.toJson),
    ("to_account", r.targetAccount.toJson)]

def ofJson? (j : Json) : Option TransferReceipt := do
  match ← j.record? fieldNames 0 with
  | [transfer, sourceEntry, targetEntry, sourceAccount, targetAccount] =>
    return {
      transfer := ← Json.required? Transfer.ofJson? transfer
      sourceEntry := ← Json.required? Entry.ofJson? sourceEntry
      targetEntry := ← Json.required? Entry.ofJson? targetEntry
      sourceAccount := ← Json.required? Account.ofJson? sourceAccount
      targetAccount := ← Json.required? Account.ofJson? targetAccount }
  | _ => none

end TransferReceipt

end CountingHouse
