/-
What a table of rates holds after a request.

A request is refused and the table stays as it is, or it enters exactly one row: a new one
at the end (`create_cases`), or another rate in an old one (`update_cases`). Either way the
rate has been found to be above zero first, so no table ever holds another kind
(`Positive.create`, `Positive.update`).
-/
import CountingHouse.Rates.Table
import Mathlib

set_option autoImplicit false

namespace CountingHouse

/-- A rate above zero passes. -/
theorem positiveRate_of_isPositive {rate : Decimal} (h : rate.isPositive = true) :
    positiveRate rate = .ok rate := if_pos h

/-- A rate is refused, or it is above zero and passes as it is. -/
theorem positiveRate_cases (rate : Decimal) :
    (∃ e, positiveRate rate = .error e) ∨
      (rate.isPositive = true ∧ positiveRate rate = .ok rate) := by
  unfold positiveRate
  by_cases h : rate.isPositive = true
  · rw [if_pos h]
    exact .inr ⟨h, rfl⟩
  · rw [if_neg h]
    exact .inl ⟨_, rfl⟩

namespace RateTable

variable {t : RateTable} {pair : CurrencyPair} {row : ExchangeRate}

/-- The current rate of a pair is one of the rows. -/
theorem mem_rows_of_current? (h : t.current? pair = some row) :
    ∃ entry ∈ t.rows, entry.2 = row := by
  obtain ⟨before, later, hrows, -⟩ := List.lookup_eq_some_iff.mp h
  refine ⟨(pair, row), ?_, rfl⟩
  rw [hrows]
  exact List.mem_append_right _ List.mem_cons_self

def enter (pair : CurrencyPair) (row : ExchangeRate) (t : RateTable) : RateTable :=
  { rows := t.rows ++ [(pair, row)], nextId := t.nextId + 1 }

def replace (id : RateId) (row : ExchangeRate) (t : RateTable) : RateTable :=
  { t with rows := t.rows.map fun entry => if entry.2.id == id then (entry.1, row) else entry }

/-- A positive rate for a pair that has none is entered under the next identifier. -/
theorem create_of_none {rate : Decimal} (now : Instant) (hrate : rate.isPositive = true)
    (hnone : t.current? pair = none) : t.create pair rate now
      = (.ok ⟨⟨t.nextId⟩, pair.base, pair.target, rate, now, now⟩,
        t.enter pair ⟨⟨t.nextId⟩, pair.base, pair.target, rate, now, now⟩) := by
  unfold create
  rw [positiveRate_of_isPositive hrate, hnone]
  rfl

/-- A request for a new rate is refused and changes nothing, or it enters one row at the end. -/
theorem create_cases (t : RateTable) (pair : CurrencyPair) (rate : Decimal) (now : Instant) :
    (∃ e, t.create pair rate now = (.error e, t)) ∨
    (rate.isPositive = true ∧ t.current? pair = none ∧ t.create pair rate now
      = (.ok ⟨⟨t.nextId⟩, pair.base, pair.target, rate, now, now⟩,
        t.enter pair ⟨⟨t.nextId⟩, pair.base, pair.target, rate, now, now⟩)) := by
  rcases positiveRate_cases rate with ⟨e, hrate⟩ | ⟨hpositive, hrate⟩
  · unfold create
    rw [hrate]
    exact .inl ⟨e, rfl⟩
  · rcases hcurrent : t.current? pair with _ | row
    · exact .inr ⟨hpositive, rfl, create_of_none now hpositive hcurrent⟩
    · unfold create
      rw [hrate, hcurrent]
      exact .inl ⟨_, rfl⟩

/-- A positive rate replaces that of the row under an identifier, which is otherwise as it was. -/
theorem update_of_find? {id : RateId} {rate : Decimal} {entry : CurrencyPair × ExchangeRate}
    (now : Instant) (hrate : rate.isPositive = true)
    (hfind : t.rows.find? (fun entry => entry.2.id == id) = some entry) :
    t.update id rate now = (.ok { entry.2 with rate, updatedAt := now },
      t.replace id { entry.2 with rate, updatedAt := now }) := by
  unfold update
  rw [positiveRate_of_isPositive hrate]
  simp only [hfind]
  rfl

/-- A request for another rate is refused and changes nothing, or it replaces one row that is found
under its identifier. -/
theorem update_cases (t : RateTable) (id : RateId) (rate : Decimal) (now : Instant) :
    (∃ e, t.update id rate now = (.error e, t)) ∨
    (rate.isPositive = true ∧ ∃ entry, t.rows.find? (fun entry => entry.2.id == id) = some entry ∧
      t.update id rate now = (.ok { entry.2 with rate, updatedAt := now },
        t.replace id { entry.2 with rate, updatedAt := now })) := by
  rcases positiveRate_cases rate with ⟨e, hrate⟩ | ⟨hpositive, hrate⟩
  · unfold update
    rw [hrate]
    exact .inl ⟨e, rfl⟩
  · rcases hfind : t.rows.find? fun entry => entry.2.id == id with _ | entry
    · unfold update
      rw [hrate]
      exact .inl ⟨.rateIdNotFound id, by simp only [hfind]⟩
    · exact .inr ⟨hpositive, entry, hfind, update_of_find? now hpositive hfind⟩

/-- The rates of a table are above zero. -/
def Positive (t : RateTable) : Prop := ∀ entry ∈ t.rows, entry.2.rate.isPositive = true

/-- In an empty table there is no rate to be anything else than positive. -/
theorem positive_empty : empty.Positive := by
  intro entry hentry
  exact absurd hentry List.not_mem_nil

/-- In a table of positive rates the current one of a pair is positive. -/
theorem Positive.current? (h : t.Positive) (hrow : t.current? pair = some row) :
    row.rate.isPositive = true := by
  obtain ⟨entry, hentry, rfl⟩ := mem_rows_of_current? hrow
  exact h entry hentry

/-- No request for a new rate brings one that is not positive into the table. -/
theorem Positive.create (h : t.Positive) (pair : CurrencyPair) (rate : Decimal)
    (now : Instant) : (t.create pair rate now).2.Positive := by
  rcases t.create_cases pair rate now with ⟨e, hcreate⟩ | ⟨hpositive, -, hcreate⟩
  · rw [hcreate]
    exact h
  · rw [hcreate]
    intro entry hentry
    rcases List.mem_append.mp hentry with hold | hnew
    · exact h entry hold
    · rw [List.mem_singleton.mp hnew]
      exact hpositive

/-- No request for another rate brings one that is not positive into the table. -/
theorem Positive.update (h : t.Positive) (id : RateId) (rate : Decimal) (now : Instant) :
    (t.update id rate now).2.Positive := by
  rcases t.update_cases id rate now with ⟨e, hupdate⟩ | ⟨hpositive, old, -, hupdate⟩
  · rw [hupdate]
    exact h
  · rw [hupdate]
    intro entry hentry
    obtain ⟨before, hbefore, rfl⟩ := List.mem_map.mp hentry
    by_cases hid : (before.2.id == id) = true
    · rw [if_pos hid]
      exact hpositive
    · rw [if_neg hid]
      exact h before hbefore

end RateTable

end CountingHouse
