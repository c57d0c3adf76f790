/-
Amounts and the texts of currencies.

Amounts are whole numbers of a currency's smallest unit. What a caller may move
is positive, and a balance only changes by an amount if the sum still fits a row.

A currency is read leniently: blanks around it and the case of its letters do not
matter. The case is removed by the full upper-casing of Unicode, so the letters
in an error are those of the upper-cased text.
-/
import CountingHouse.Failure.BankError
import CountingHouse.Text.Blank
import CountingHouse.Text.Upper

set_option autoImplicit false

namespace CountingHouse

open Text

/-! ## Amounts -/

/-- The amount, if it is above zero. -/
def positiveAmount (amount : Int) : Except BankError Int :=
  if amount ≤ 0 then (Violation.amountNotPositive amount).refuse else .ok amount

/-- The balance changed by a delta, if it still fits a row. -/
def changedBalance (balance delta : Int) : Except BankError Int :=
  if IsStored (balance + delta) then .ok (balance + delta) else Violation.balanceOverflow.refuse

/-! ## Currencies -/

namespace Currency

/-- The form of a text in which currencies are looked up. -/
def normalize (text : String) : String := String.ofList (upper (trim text.toList))

def parse (text : String) : Except BankError Currency :=
  match ofCode? (normalize text) with
  | some c => .ok c
  | none => (Violation.unsupportedCurrency (normalize text)).refuse

/-- The document of a currency: its letters. -/
def toJson (c : Currency) : Json := .ofText c.code

def ofJson? (j : Json) : Option Currency := do (parse (← j.text?)).toOption

end Currency

/-! ## Pairs -/

namespace CurrencyPair

/-- The pair of two currencies, which have to differ. -/
def new (base target : Currency) : Except BankError CurrencyPair :=
  if h : base = target then Violation.sameCurrencies.refuse else .ok ⟨base, target, h⟩

def parse (base target : String) : Except BankError CurrencyPair := do
  new (← Currency.parse base) (← Currency.parse target)

def toJson (p : CurrencyPair) : Json :=
  .ofFields [("base", p.base.toJson), ("target", p.target.toJson)]

def ofJson? (j : Json) : Option CurrencyPair := do
  match ← j.record? ["base", "target"] 0 with
  | [base, target] =>
    (new (← Json.required? Currency.ofJson? base)
      (← Json.required? Currency.ofJson? target)).toOption
  | _ => none

end CurrencyPair

end CountingHouse
