/-
The table of exchange rates.

A table holds at most one row for each directional pair, filed under that pair.
Rows are numbered in the order in which they were created, and a number is drawn
only for a row that is created. A rate is replaced by the number of its row,
which keeps its pair, its number and its date of creation.
-/
import CountingHouse.Rates.Exchange

set_option autoImplicit false

namespace CountingHouse

/-- Exchange rates filed under their pairs, with the number of the next row. -/
structure RateTable where
  rows : List (CurrencyPair × ExchangeRate) := []
  nextId : Int := 1
  deriving Repr

namespace RateTable

def empty : RateTable := {}

def current? (t : RateTable) (pair : CurrencyPair) : Option ExchangeRate := t.rows.lookup pair

/-- The rows, in the order of their numbers. -/
def list (t : RateTable) : List ExchangeRate :=
  (t.rows.map (·.2)).mergeSort fun a b => a.id.number ≤ b.id.number

def create (pair : CurrencyPair) (rate : Decimal) (now : Instant) (t : RateTable) :
    Except BankError ExchangeRate × RateTable :=
  match positiveRate rate with
  | .error e => (.error e, t)
  | .ok rate =>
    match t.current? pair with
    | some _ => (.error (.duplicate (.rate pair)), t)
    | none =>
      let row : ExchangeRate := ⟨⟨t.nextId⟩, pair.base, pair.target, rate, now, now⟩
      (.ok row, { rows := t.rows ++ [(pair, row)], nextId := t.nextId + 1 })

def update (id : RateId) (rate : Decimal) (now : Instant) (t : RateTable) :
    Except BankError ExchangeRate × RateTable :=
  match positiveRate rate with
  | .error e => (.error e, t)
  | .ok rate =>
    match t.rows.find? fun entry => entry.2.id == id with
    | none => (.error (.rateIdNotFound id), t)
    | some (_, old) =>
      let row := { old with rate, updatedAt := now }
      let replace := fun entry : CurrencyPair × ExchangeRate =>
        if entry.2.id == id then (entry.1, row) else entry
      (.ok row, { t with rows := t.rows.map replace })

@[simp]
theorem list_empty : empty.list = [] := by simp [empty, list]

/-- A pair without a row has none in the empty table. -/
@[simp]
theorem current?_empty (pair : CurrencyPair) : empty.current? pair = none := rfl

end RateTable

end CountingHouse
