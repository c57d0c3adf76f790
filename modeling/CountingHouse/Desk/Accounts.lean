/-
Accounts at the counter.

Owners open accounts, look at them and ask for statements. What belongs to one owner
is shown to nobody else. A statement is checked first for its range of days, then for
its account.
-/
import CountingHouse.Stores

set_option autoImplicit false

namespace CountingHouse.AccountDesk

variable (b : Backend)

/-- Opens an empty account in the currency that a text names. -/
def openAccount (owner currency : String) : Operation Account := do
  b.createAccount owner (← .of (Currency.parse currency))

def account (owner : String) (id : AccountId) : Operation Account := do
  match ← b.account? id with
  | none => throw (.accountNotFound id)
  | some account =>
    if account.belongsTo owner then return account else throw (.unauthorized .notOwner)

def accounts (owner : String) (page : Page) : Operation (List Account) :=
  b.accountsOf owner page.limit page.offset

def statement (owner : String) (request : StatementRequest) : Operation (List StatementLine) := do
  let filter ← .of request.selection
  discard <| account b owner request.account
  return (← b.transfersOf filter).filterMap (StatementLine.of? request.account)

end CountingHouse.AccountDesk
