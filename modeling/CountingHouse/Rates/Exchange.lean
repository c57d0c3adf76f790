/-
Exchange rates and what they make of an amount.

A rate is directional: one unit of the base currency buys `rate` units of the
target. Converting an amount multiplies and keeps whole units, rounding down. The
product is a decimal with a bounded coefficient, so it may itself be rounded
before it is cut to whole units. An amount that buys less than one unit is too
small, and the error names the smallest amount that is not.

That smallest amount starts from the inverse of the rate, rounded up to a whole
number. The inverse is itself a decimal and may be rounded in its last digit, so
the candidate is tried, and after it every larger one, until one buys a unit or
the range of amounts is over. At a rate above zero the first candidate does; at a
rate below zero a larger amount buys less, and the search leaves the range.
-/
import CountingHouse.Money.Amount
import CountingHouse.Decimal.Json
import CountingHouse.Calendar.Rfc3339

set_option autoImplicit false

namespace CountingHouse

/-! ## Rows -/

/-- A row of the rate table. -/
structure ExchangeRate where
  id : RateId
  base : Currency
  target : Currency
  rate : Decimal
  createdAt : Instant
  updatedAt : Instant
  deriving DecidableEq, Repr

/-- The rate, if it is above zero. -/
def positiveRate (rate : Decimal) : Except BankError Decimal :=
  if rate.isPositive then .ok rate else Violation.rateNotPositive.refuse

/-! ## Conversion -/

/-- An amount, what it buys, and the rate at which it does. -/
structure Conversion where
  sourceAmount : Int
  convertedAmount : Int
  rate : Decimal
  deriving DecidableEq, Repr

/-- The whole units that an amount buys at a rate. -/
def wholeUnits (amount : Int) (rate : Decimal) : Except BankError Int :=
  match (Decimal.ofParts? amount 0).bind fun factor => Decimal.mul? factor rate with
  | some product =>
    if IsStored product.floor then .ok product.floor else Violation.conversionOutOfRange.refuse
  | none => Violation.conversionOutOfRange.refuse

/-- The first of so many candidates that buys at least one unit. -/
def firstBuying (rate : Decimal) : Nat → Int → Except BankError Int
  | 0, _ => Violation.conversionOutOfRange.refuse
  | tries + 1, candidate =>
    match wholeUnits candidate rate with
    | .error e => .error e
    | .ok units =>
      if units < 1 then firstBuying rate tries (candidate + 1) else .ok candidate

/-- The first amount from a candidate on that buys at least one unit. -/
def searchFrom (rate : Decimal) (candidate : Int) : Except BankError Int :=
  -- every amount up to the end of the range has its turn
  firstBuying rate (greatestStored + 1 - candidate).toNat candidate

/-- The smallest amount that buys at least one unit. -/
def leastAmount (rate : Decimal) : Except BankError Int :=
  if rate.isAtLeastOne then .ok 1
  else match Decimal.div? Decimal.one rate with
    | some inverse =>
      if IsStored inverse.ceil then searchFrom rate inverse.ceil
      else Violation.rateTooSmall.refuse
    | none => Violation.rateTooSmall.refuse

def convert (amount : Int) (row : ExchangeRate) : Except BankError Conversion := do
  let converted ← wholeUnits amount row.rate
  if converted < 1 then
    throw (.amountTooSmall (← leastAmount row.rate) row.base row.target)
  return ⟨amount, converted, row.rate⟩

/-! ## Documents -/

namespace ExchangeRate

def fieldNames : List String :=
  ["id", "base_currency", "target_currency", "rate", "created_at", "updated_at"]

def toJson (r : ExchangeRate) : Json :=
  .ofFields [("id", .ofInt r.id.number), ("base_currency", r.base.toJson),
    ("target_currency", r.target.toJson), ("rate", r.rate.toJson),
    ("created_at", r.createdAt.toJson), ("updated_at", r.updatedAt.toJson)]

def ofJson? (j : Json) : Option ExchangeRate := do
  match ← j.record? fieldNames 0 with
  | [id, base, target, rate, createdAt, updatedAt] =>
    return {
      id := ⟨← Json.required? Json.stored? id⟩
      base := ← Json.required? Currency.ofJson? base
      target := ← Json.required? Currency.ofJson? target
      rate := ← Json.required? Decimal.ofJson? rate
      createdAt := ← Json.required? Instant.ofJson? createdAt
      updatedAt := ← Json.required? Instant.ofJson? updatedAt }
  | _ => none

end ExchangeRate

namespace Conversion

def toJson (c : Conversion) : Json :=
  .ofFields [("source_amount", .ofInt c.sourceAmount),
    ("converted_amount", .ofInt c.convertedAmount), ("rate", c.rate.toJson)]

def ofJson? (j : Json) : Option Conversion := do
  match ← j.record? ["source_amount", "converted_amount", "rate"] 0 with
  | [source, converted, rate] =>
    return {
      sourceAmount := ← Json.required? Json.stored? source
      convertedAmount := ← Json.required? Json.stored? converted
      rate := ← Json.required? Decimal.ofJson? rate }
  | _ => none

end Conversion

end CountingHouse
