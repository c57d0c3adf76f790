/-
The error of every operation of the bank.

An error has a kind, a stable code, a message for the log and a message for the
public. The public message is the log message except where that would tell too
much: every failed check of a credential reads the same, nothing is said about
faults and uncertain outcomes, and a busy service just asks for a retry. Only
contention may be retried, because only there it is certain that nothing has been
written.
-/
import CountingHouse.Failure.Reason

set_option autoImplicit false

namespace CountingHouse

/-- What an error is about. -/
inductive ErrorKind where
  | validation
  | notFound
  | conflict
  | unauthorized
  | contention
  | indeterminate
  | internal
  deriving DecidableEq, Repr

/-- Why an operation of the bank failed. -/
inductive BankError where
  | validation (violation : Violation)
  | accountNotFound (id : AccountId)
  | rateNotFound (base target : Currency)
  | rateIdNotFound (id : RateId)
  | sameAccount (id : AccountId)
  | insufficientFunds (account : AccountId) (required available : Int)
  | currencyMismatch (account : AccountId) (expected actual : Currency)
  | amountTooSmall (minimum : Int) (source target : Currency)
  | duplicate (what : Duplicate)
  | unauthorized (failure : AuthFailure)
  | contention (what : Contention)
  | indeterminate (why : Uncertainty)
  | internal (fault : Fault)
  deriving DecidableEq, Repr

namespace BankError

def kind : BankError → ErrorKind
  | validation _ => .validation
  | accountNotFound _ | rateNotFound _ _ | rateIdNotFound _ => .notFound
  | sameAccount _ | insufficientFunds _ _ _ | currencyMismatch _ _ _ | amountTooSmall _ _ _
  | duplicate _ => .conflict
  | unauthorized _ => .unauthorized
  | contention _ => .contention
  | indeterminate _ => .indeterminate
  | internal _ => .internal

def code : BankError → String
  | validation _ => "VALIDATION_ERROR"
  | accountNotFound _ => "ACCOUNT_NOT_FOUND"
  | rateNotFound _ _ => "EXCHANGE_RATE_NOT_FOUND"
  | rateIdNotFound _ => "EXCHANGE_RATE_NOT_FOUND"
  | sameAccount _ => "SAME_ACCOUNT"
  | insufficientFunds _ _ _ => "INSUFFICIENT_FUNDS"
  | currencyMismatch _ _ _ => "CURRENCY_MISMATCH"
  | amountTooSmall _ _ _ => "AMOUNT_TOO_SMALL"
  | duplicate _ => "DUPLICATE"
  | unauthorized _ => "UNAUTHORIZED"
  | contention _ => "CONTENTION"
  | indeterminate _ => "INDETERMINATE"
  | internal _ => "INTERNAL_ERROR"

def message : BankError → String
  | validation v => "Invalid input: " ++ v.message
  | accountNotFound id => "Account not found: " ++ intText id.number
  | rateNotFound base target => "Exchange rate not found for " ++ CurrencyPair.label base target
  | rateIdNotFound id => "Exchange rate not found: " ++ intText id.number
  | sameAccount id =>
    "From account " ++ intText id.number ++ " cannot be equal to to account"
  | insufficientFunds account required available =>
    "Insufficient funds in account " ++ intText account.number ++ ": required "
      ++ intText required ++ ", available " ++ intText available
  | currencyMismatch account expected actual =>
    "Account " ++ intText account.number ++ " currency mismatch, expecting " ++ expected.code
      ++ " instead of " ++ actual.code
  | amountTooSmall minimum source target =>
    "Amount to transfer is less than 1 " ++ target.code ++ ", please increase amount to "
      ++ intText minimum ++ " " ++ source.code ++ " or more"
  | duplicate what => "Already exists: " ++ what.message
  | unauthorized failure => "Unauthorized: " ++ failure.message
  | contention what => "Contention: " ++ what.message
  | indeterminate why => "Indeterminate outcome: " ++ why.message
  | internal fault => "Internal error: " ++ fault.message

def publicText (e : BankError) : String :=
  match e.kind with
  | .unauthorized => "unauthorized"
  | .internal | .indeterminate => "internal error, please contact support"
  | .contention => "the service is busy, please retry"
  | .validation | .notFound | .conflict => e.message

/-- Whether the operation may be tried again: nothing has been written. -/
def mayRetry (e : BankError) : Bool := e.kind = .contention

def toJson (e : BankError) : Json := .ofFields [("error", .ofText e.publicText)]

theorem mayRetry_iff (e : BankError) : e.mayRetry = true ↔ ∃ what, e = contention what := by
  cases e <;> simp [mayRetry, kind]

end BankError

def Violation.refuse {α : Type} (v : Violation) : Except BankError α := .error (.validation v)

end CountingHouse
