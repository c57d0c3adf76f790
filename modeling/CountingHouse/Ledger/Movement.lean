/-
The journal: transfers and their entries.

A transfer records what left one account and what reached another; the two differ
when the currencies do, and then the rate is recorded with them. An entry is the
change that a transfer made to one account. Both are written once and never
change.
-/
import CountingHouse.Ledger.Account
import CountingHouse.Decimal.Json

set_option autoImplicit false

namespace CountingHouse

/-! ## Transfers -/

/-- Money moved from one account to another: `sourceAmount` left the first, `amount` reached
the second. -/
structure Transfer where
  id : TransferId
  source : AccountId
  target : AccountId
  amount : Int
  sourceAmount : Int
  exchangeRate : Option Decimal
  createdAt : Instant
  deriving DecidableEq, Repr

namespace Transfer

/-- Whether the transfer joins this account to another. -/
def touches (t : Transfer) (account : AccountId) : Bool :=
  t.source == account || t.target == account

/-- What the transfer did to the balance of an account; `none` for an account that it does
not touch. The least integer that a row can hold has no opposite there and stays as it is. -/
def signedAmount? (t : Transfer) (account : AccountId) : Option Int :=
  if account = t.source then some ((-t.sourceAmount).bmod (1 <<< 64))
  else if account = t.target then some t.amount
  else none

def changesCurrency (t : Transfer) : Bool := t.exchangeRate.isSome

/-- A transfer has a signed amount for exactly the accounts that it touches. -/
theorem isSome_signedAmount? (t : Transfer) (account : AccountId) :
    (t.signedAmount? account).isSome = t.touches account := by
  by_cases hs : account = t.source
  · simp [signedAmount?, touches, hs]
  · by_cases ht : account = t.target
    · subst ht
      simp [signedAmount?, touches, hs]
    · simp [signedAmount?, touches, hs, ht, Ne.symm hs, Ne.symm ht]

def fieldNames : List String :=
  ["id", "from_account_id", "to_account_id", "amount", "source_amount", "exchange_rate",
    "created_at"]

def toJson (t : Transfer) : Json :=
  .ofFields [("id", .ofInt t.id.number), ("from_account_id", .ofInt t.source.number),
    ("to_account_id", .ofInt t.target.number), ("amount", .ofInt t.amount),
    ("source_amount", .ofInt t.sourceAmount),
    ("exchange_rate", .ofOption Decimal.toJson t.exchangeRate),
    ("created_at", t.createdAt.toJson)]

def ofJson? (j : Json) : Option Transfer := do
  match ← j.record? fieldNames 0 with
  | [id, source, target, amount, sourceAmount, exchangeRate, createdAt] =>
    return {
      id := ⟨← Json.required? Json.stored? id⟩
      source := ⟨← Json.required? Json.stored? source⟩
      target := ⟨← Json.required? Json.stored? target⟩
      amount := ← Json.required? Json.stored? amount
      sourceAmount := ← Json.required? Json.stored? sourceAmount
      exchangeRate := ← Json.optional? Decimal.ofJson? exchangeRate
      createdAt := ← Json.required? Instant.ofJson? createdAt }
  | _ => none

end Transfer

/-! ## Entries -/

/-- What a transfer did to one account: negative for a debit, positive for a credit. -/
structure Entry where
  id : EntryId
  account : AccountId
  transfer : TransferId
  amount : Int
  createdAt : Instant
  deriving DecidableEq, Repr

namespace Entry

def fieldNames : List String := ["id", "account_id", "transfer_id", "amount", "created_at"]

def toJson (e : Entry) : Json :=
  .ofFields [("id", .ofInt e.id.number), ("account_id", .ofInt e.account.number),
    ("transfer_id", .ofInt e.transfer.number), ("amount", .ofInt e.amount),
    ("created_at", e.createdAt.toJson)]

def ofJson? (j : Json) : Option Entry := do
  match ← j.record? fieldNames 0 with
  | [id, account, transfer, amount, createdAt] =>
    return {
      id := ⟨← Json.required? Json.stored? id⟩
      account := ⟨← Json.required? Json.stored? account⟩
      transfer := ⟨← Json.required? Json.stored? transfer⟩
      amount := ← Json.required? Json.stored? amount
      createdAt := ← Json.required? Instant.ofJson? createdAt }
  | _ => none

end Entry

end CountingHouse
