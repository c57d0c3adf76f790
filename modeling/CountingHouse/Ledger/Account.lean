/-
Accounts.

An account belongs to a user and is kept in one currency. Its balance counts the
smallest unit of that currency and is the only thing about it that ever changes.
-/
import CountingHouse.Money.Amount
import CountingHouse.Calendar.Rfc3339

set_option autoImplicit false

namespace CountingHouse

/-- An account. -/
structure Account where
  id : AccountId
  owner : String
  balance : Int
  currency : Currency
  createdAt : Instant
  deriving DecidableEq, Repr

namespace Account

def belongsTo (a : Account) (username : String) : Bool := a.owner == username

def covers (a : Account) (amount : Int) : Bool := amount ≤ a.balance

/-! ## Documents -/

def fieldNames : List String := ["id", "owner", "balance", "currency", "created_at"]

def toJson (a : Account) : Json :=
  .ofFields [("id", .ofInt a.id.number), ("owner", .ofText a.owner),
    ("balance", .ofInt a.balance), ("currency", a.currency.toJson),
    ("created_at", a.createdAt.toJson)]

def ofJson? (j : Json) : Option Account := do
  match ← j.record? fieldNames 0 with
  | [id, owner, balance, currency, createdAt] =>
    return {
      id := ⟨← Json.required? Json.stored? id⟩
      owner := ← Json.required? Json.text? owner
      balance := ← Json.required? Json.stored? balance
      currency := ← Json.required? Currency.ofJson? currency
      createdAt := ← Json.required? Instant.ofJson? createdAt }
  | _ => none

end Account

end CountingHouse
