/-
Exchange rates at the counter.

Anybody may read rates, and only the administrator writes them. Whether the caller is
the administrator is checked before anything about the rate is. A rate is read for
exactly the direction asked for; the inverse of another one never stands in.
-/
import CountingHouse.Stores

set_option autoImplicit false

namespace CountingHouse.RateDesk

variable (b : Backend)

def requireAdministrator (administrator caller : String) : Operation Unit :=
  if caller = administrator then pure () else throw (.unauthorized .notAdministrator)

/-- Adds the first rate of the pair that two texts name. -/
def create (administrator caller base target : String) (rate : Decimal) :
    Operation ExchangeRate := do
  requireAdministrator administrator caller
  let pair ← .of (CurrencyPair.parse base target)
  b.createRate pair (← .of (positiveRate rate))

def update (administrator caller : String) (id : RateId) (rate : Decimal) :
    Operation ExchangeRate := do
  requireAdministrator administrator caller
  b.updateRate id (← .of (positiveRate rate))

def rate (base target : String) : Operation ExchangeRate := do
  let pair ← .of (CurrencyPair.parse base target)
  match ← b.rate? pair with
  | some row => return row
  | none => throw (.rateNotFound pair.base pair.target)

/-- All rates, in the order of their numbers. -/
def list : Operation (List ExchangeRate) := b.rates

end CountingHouse.RateDesk
