/-
The reasons why an operation is refused.

Each refusal has a cause, and the cause is a value: what was wrong with an
argument (`Violation`), what already exists (`Duplicate`), which check of a
credential failed (`AuthFailure`), what was busy (`Contention`), and what went
wrong inside. Wording is a function of the cause. Causes that come with a wording
of their own, from a storage engine or from a caller, keep it as it is.
-/
import CountingHouse.Identifier
import CountingHouse.Money.Currency

set_option autoImplicit false

namespace CountingHouse

/-! ## Arguments -/

/-- What is wrong with an argument. -/
inductive Violation where
  | unsupportedCurrency (code : String)
  | sameCurrencies
  | amountNotPositive (amount : Int)
  | balanceOverflow
  | rateNotPositive
  | rateTooSmall
  | conversionOutOfRange
  | negativeOpeningBalance
  | pageIdTooSmall
  | pageSizeOutOfBounds (least greatest : Int)
  | pageIdOutOfRange
  | dateMissing
  | datesReversed
  | endDateOutOfRange
  | other (text : String) (field : Option String)
  deriving DecidableEq, Repr

namespace Violation

def message : Violation → String
  | unsupportedCurrency code => "currency " ++ code ++ " is not supported"
  | sameCurrencies => "base currency cannot be the same as target currency"
  | amountNotPositive amount => "amount must be greater than zero, got " ++ intText amount
  | balanceOverflow => "balance would overflow"
  | rateNotPositive => "exchange rate must be greater than zero"
  | rateTooSmall => "exchange rate is too small"
  | conversionOutOfRange => "converted amount is out of range"
  | negativeOpeningBalance => "opening balance cannot be negative"
  | pageIdTooSmall => "page_id must be at least 1"
  | pageSizeOutOfBounds least greatest =>
    "page_size must be between " ++ intText least ++ " and " ++ intText greatest
  | pageIdOutOfRange => "page_id is out of range"
  | dateMissing => "both start_date and end_date must be provided"
  | datesReversed => "start_date cannot be greater than end_date"
  | endDateOutOfRange => "end_date is out of range"
  | other text _ => text

def field : Violation → Option String
  | unsupportedCurrency _ => some "currency"
  | sameCurrencies => some "target_currency"
  | amountNotPositive _ => some "amount"
  | balanceOverflow => some "amount"
  | rateNotPositive => some "exchange_rate"
  | rateTooSmall => some "exchange_rate"
  | conversionOutOfRange => some "amount"
  | negativeOpeningBalance => some "balance"
  | pageIdTooSmall => some "page_id"
  | pageSizeOutOfBounds _ _ => some "page_size"
  | pageIdOutOfRange => some "page_id"
  | dateMissing => some "end_date"
  | datesReversed => some "start_date"
  | endDateOutOfRange => some "end_date"
  | other _ field => field

end Violation

/-! ## Uniqueness -/

/-- What already exists. -/
inductive Duplicate where
  | account (owner : String) (currency : Currency)
  | rate (pair : CurrencyPair)
  | session (id : SessionId)
  | other (text : String)
  deriving DecidableEq, Repr

def Duplicate.message : Duplicate → String
  | account owner currency => "account for " ++ owner ++ " in " ++ currency.code
  | rate pair => "exchange rate " ++ pair.toText
  | session id => "session " ++ id.uuid.toText
  | other text => text

/-! ## Credentials -/

/-- Which check of a credential failed. -/
inductive AuthFailure where
  | missingCredential
  | invalidSignature
  | invalidClaims
  | tokenExpired
  | sessionNotFound
  | sessionBlocked
  | sessionUserMismatch
  | tokenMismatch
  | sessionExpired
  | notOwner
  | notAdministrator
  deriving DecidableEq, Repr

def AuthFailure.message : AuthFailure → String
  | missingCredential => "authorization credential missing or malformed"
  | invalidSignature => "invalid token signature or algorithm"
  | invalidClaims => "invalid token claims"
  | tokenExpired => "token has expired"
  | sessionNotFound => "session not found"
  | sessionBlocked => "session is blocked"
  | sessionUserMismatch => "refresh token belongs to another user"
  | tokenMismatch => "refresh token does not match its session"
  | sessionExpired => "session has expired"
  | notOwner => "account does not belong to the authenticated user"
  | notAdministrator => "operation is reserved for the administrator"

/-! ## Storage -/

/-- What was busy. Nothing has been written, so the operation may be tried again. -/
inductive Contention where
  | lockTimeout (account : AccountId)
  | concurrentUpdate
  | shuttingDown
  | other (text : String)
  deriving DecidableEq, Repr

def Contention.message : Contention → String
  | lockTimeout account => "lock timeout on account " ++ intText account.number
  | concurrentUpdate => "could not serialize access due to concurrent update"
  | shuttingDown => "service is shutting down"
  | other text => text

/-- Why it is unknown whether something was written. -/
inductive Uncertainty where
  | lostAcknowledgement
  | other (text : String)
  deriving DecidableEq, Repr

def Uncertainty.message : Uncertainty → String
  | lostAcknowledgement => "connection lost while awaiting commit acknowledgement"
  | other text => text

/-- What went wrong inside. -/
inductive Fault where
  | notLocked (account : AccountId)
  | negativeBalance (account : AccountId)
  | other (text : String)
  deriving DecidableEq, Repr

def Fault.message : Fault → String
  | notLocked account =>
    "account " ++ intText account.number ++ " updated without holding its row lock"
  | negativeBalance account => "balance check violated for account " ++ intText account.number
  | other text => text

end CountingHouse
