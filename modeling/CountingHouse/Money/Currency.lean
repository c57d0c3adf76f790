/-
Currencies and directional pairs of them.

The bank knows four currencies. A pair is directional, from a base to a target,
and its two currencies differ; the inverse pair is another pair.
-/

set_option autoImplicit false

namespace CountingHouse

/-- A currency that the bank keeps accounts in. -/
inductive Currency where
  | usd
  | eur
  | kes
  | gbp
  deriving DecidableEq, Repr

namespace Currency

/-- All currencies, in the order in which they are listed. -/
def all : List Currency := [usd, eur, kes, gbp]

def code : Currency → String
  | usd => "USD"
  | eur => "EUR"
  | kes => "KES"
  | gbp => "GBP"

/-- A currency is shown as its code. -/
instance : ToString Currency := ⟨code⟩

def ofCode? (code : String) : Option Currency := all.find? fun c => c.code == code

theorem mem_all (c : Currency) : c ∈ all := by cases c <;> decide

@[simp]
theorem ofCode?_code (c : Currency) : ofCode? c.code = some c := by cases c <;> decide

theorem code_of_ofCode? {code : String} {c : Currency} (h : ofCode? code = some c) :
    c.code = code := by
  have := List.find?_some h
  simpa using this

end Currency

/-- A direction of exchange: units of `target` are bought with units of `base`. -/
structure CurrencyPair where
  base : Currency
  target : Currency
  base_ne_target : base ≠ target
  deriving DecidableEq

namespace CurrencyPair

instance : Repr CurrencyPair where
  reprPrec p _ := repr p.base ++ "/" ++ repr p.target

/-- Two currency letters with a slash between them. -/
def label (base target : Currency) : String := base.code ++ "/" ++ target.code

def toText (p : CurrencyPair) : String := label p.base p.target

end CurrencyPair

end CountingHouse
