/-
The least amount that buys a unit.

At a rate above zero the least such amount is the exact inverse of the rate, rounded up to a
whole number. What is computed starts from the inverse as a decimal, which is rounded itself,
but rounded up to a whole number it is the same (`ceil_of_div?_one`). Near one the product of an
amount and a rate is not rounded at all, because its coefficient is below twice the power of ten
of its scale. So the candidate is judged by the exact product, the search is over where it
began, and an amount is called too small exactly if it is.
-/
import CountingHouse.Proofs.Decimal.Inverse
import CountingHouse.Proofs.Rates.Conversion

set_option autoImplicit false

namespace CountingHouse

open Decimal

/-! ## Products that are not rounded -/

section Products

variable {amount : ℤ} {rate : Decimal}

/-- The exact product, if its coefficient fits. -/
theorem wholeUnits_of_magnitude_lt (hamount : 1 ≤ amount) (hstored : amount ≤ greatestStored)
    (hrate : rate.isPositive = true) (hfits : amount.toNat * rate.magnitude < coefficientBound) :
    wholeUnits amount rate = if IsStored ⌊amount * rate.value⌋ then .ok ⌊amount * rate.value⌋
      else Violation.conversionOutOfRange.refuse := by
  have hfraction := mul_value_eq (by omega : 0 ≤ amount) hrate
  have hall : Fits (amount * rate.value) rate.scale := by
    rw [hfraction]
    refine (roundHalfEven_lt_iff_fits (Nat.zero_le rate.scale)).mp ?_
    rw [pow_zero, roundHalfEven_one]
    exact hfits
  rcases wholeUnits_cases hamount hstored hrate with ⟨d, hrounds, hunits⟩ | ⟨hnot, -⟩
  · rw [hfraction] at hall
    have hscale : d.scale = rate.scale :=
      le_antisymm hrounds.scale_le (hrounds.most rate.scale le_rfl hall)
    rw [hunits, floor_eq_floor_value, value_of_rounds hrounds hscale, hfraction]
  · have hnonneg : 0 ≤ amount * rate.value := by
      rw [hfraction]
      positivity
    exact absurd (hall.of_places_le hnonneg (Nat.zero_le rate.scale)) hnot

/-- A product below two has a coefficient that fits. -/
theorem magnitude_lt_of_lt_two (hamount : 1 ≤ amount) (hrate : rate.isPositive = true)
    (hproduct : amount * rate.value < 2) : amount.toNat * rate.magnitude < coefficientBound := by
  have hpow : (0 : ℚ) < 10 ^ rate.scale := by positivity
  rw [mul_value_eq (by omega) hrate, div_lt_iff₀ hpow] at hproduct
  have hcoefficient : amount.toNat * rate.magnitude < 2 * 10 ^ rate.scale := by
    exact_mod_cast hproduct
  have hscale := rate.pow_scale_le
  have hvalue : coefficientBound = 79228162514264337593543950336 := by decide
  omega

/-- An amount whose exact product is below one buys nothing, since so small a product is not rounded
up to one. -/
theorem wholeUnits_of_lt_one (hamount : 1 ≤ amount) (hstored : amount ≤ greatestStored)
    (hrate : rate.isPositive = true) (hproduct : amount * rate.value < 1) :
    wholeUnits amount rate = .ok 0 := by
  have hfloor : ⌊(amount : ℚ) * rate.value⌋ = 0 := by
    have hvalue := (isPositive_iff rate).mp hrate
    have hcast : (1 : ℚ) ≤ amount := by exact_mod_cast hamount
    rw [Int.floor_eq_zero_iff, Set.mem_Ico]
    exact ⟨by positivity, hproduct⟩
  rw [wholeUnits_of_magnitude_lt hamount hstored hrate
    (magnitude_lt_of_lt_two hamount hrate (by linarith)), hfloor]
  exact if_pos (by decide)

/-- An amount whose exact product is from one to below two buys one unit. -/
theorem wholeUnits_of_lt_two (hamount : 1 ≤ amount) (hstored : amount ≤ greatestStored)
    (hrate : rate.isPositive = true) (hone : 1 ≤ amount * rate.value)
    (hproduct : amount * rate.value < 2) : wholeUnits amount rate = .ok 1 := by
  have hfloor : ⌊(amount : ℚ) * rate.value⌋ = 1 := by
    rw [Int.floor_eq_iff]
    norm_num
    exact ⟨hone, hproduct⟩
  rw [wholeUnits_of_magnitude_lt hamount hstored hrate
    (magnitude_lt_of_lt_two hamount hrate hproduct), hfloor]
  exact if_pos (by decide)

/-- A product that is not below one buys a unit, or more than can be credited. -/
theorem wholeUnits_of_one_le (hamount : 1 ≤ amount) (hstored : amount ≤ greatestStored)
    (hrate : rate.isPositive = true) (hone : 1 ≤ amount * rate.value) :
    (∃ units, 1 ≤ units ∧ wholeUnits amount rate = .ok units) ∨
      wholeUnits amount rate = Violation.conversionOutOfRange.refuse := by
  rcases wholeUnits_cases hamount hstored hrate with ⟨d, hrounds, hunits⟩ | ⟨-, hunits⟩
  · have hleast := floor_le_floor_of_rounds hrounds
    rw [← mul_value_eq (by omega) hrate] at hleast
    have hfloor : 1 ≤ ⌊(amount : ℚ) * rate.value⌋ := Int.le_floor.mpr (by exact_mod_cast hone)
    by_cases hin : IsStored d.floor
    · exact .inl ⟨d.floor, hfloor.trans hleast, hunits.trans (if_pos hin)⟩
    · exact .inr (hunits.trans (if_neg hin))
  · exact .inr hunits

end Products

/-! ## The least amount -/

section Search

variable {rate : Decimal} {least : ℤ}

/-- The least whole number whose product with a positive factor reaches one is the inverse of the
factor, rounded up. -/
theorem isLeast_ceil_inv {x : ℚ} (hx : 0 < x) : IsLeast {n : ℤ | 1 ≤ n ∧ 1 ≤ n * x} ⌈x⁻¹⌉ := by
  have hreach : ∀ n : ℤ, 1 ≤ n * x ↔ ⌈x⁻¹⌉ ≤ n := by
    intro n
    rw [Int.ceil_le, inv_le_iff_one_le_mul₀ hx]
  constructor
  · exact ⟨Int.ceil_pos.mpr (inv_pos.mpr hx), (hreach _).mpr le_rfl⟩
  · intro n hn
    exact (hreach n).mp hn.2

/-- At a rate below one the least amount buys one unit. -/
theorem mul_lt_two_of_isLeast (hbelow : rate.value < 1)
    (hleast : IsLeast {n : ℤ | 1 ≤ n ∧ 1 ≤ n * rate.value} least) : least * rate.value < 2 := by
  by_contra htwo
  have htwo : 2 ≤ least * rate.value := not_lt.mp htwo
  -- otherwise the amount before it would buy a unit too
  have hbefore : 1 ≤ ((least - 1 : ℤ) : ℚ) * rate.value := by
    push_cast
    linarith
  have hone : least ≠ 1 := by
    rintro rfl
    push_cast at htwo
    linarith
  have hpositive : 1 ≤ least := hleast.1.1
  have hlower : least ≤ least - 1 := hleast.2 ⟨by omega, hbefore⟩
  omega

variable (hrate : rate.isPositive = true) (hbelow : rate.value < 1)
variable (hleast : IsLeast {n : ℤ | 1 ≤ n ∧ 1 ≤ n * rate.value} least)

include hrate hbelow hleast

/-- A search that starts from the least amount is over at once, however far it might go. -/
theorem firstBuying_of_isLeast (hstored : least ≤ greatestStored) (tries : ℕ) :
    firstBuying rate (tries + 1) least = .ok least := by
  have hunits : wholeUnits least rate = .ok 1 :=
    wholeUnits_of_lt_two hleast.1.1 hstored hrate hleast.1.2
      (mul_lt_two_of_isLeast hbelow hleast)
  unfold firstBuying
  simp only [hunits]
  exact if_neg (by decide)

/-- The search ends at its first candidate if that is the least amount. -/
theorem searchFrom_of_isLeast (hstored : least ≤ greatestStored) :
    searchFrom rate least = .ok least := by
  -- the least amount is one of those that have their turn
  obtain ⟨tries, htries⟩ : ∃ tries, (greatestStored + 1 - least).toNat = tries + 1 :=
    ⟨(greatestStored - least).toNat, by omega⟩
  unfold searchFrom
  rw [htries]
  exact firstBuying_of_isLeast hrate hbelow hleast hstored tries

/-- The candidate from which the search starts is the least amount. -/
theorem ceil_eq_of_isLeast {inverse : Decimal} (h : div? one rate = some inverse) :
    inverse.ceil = least := by
  rw [ceil_of_div?_one hrate hbelow h]
  exact (isLeast_ceil_inv ((isPositive_iff rate).mp hrate)).unique hleast

end Search

/-- The least amount that buys a unit is found, unless it is out of range. -/
theorem leastAmount_of_isLeast {rate : Decimal} {least : ℤ} (hrate : rate.isPositive = true)
    (hleast : IsLeast {n : ℤ | 1 ≤ n ∧ 1 ≤ n * rate.value} least) :
    leastAmount rate
      = if least ≤ greatestStored then .ok least else Violation.rateTooSmall.refuse := by
  unfold leastAmount
  by_cases hone : rate.isAtLeastOne = true
  · -- one unit of the base buys one of the target
    have hvalue : 1 ≤ ((1 : ℤ) : ℚ) * rate.value := by
      rw [Int.cast_one, one_mul]
      exact (isAtLeastOne_iff rate).mp hone
    have heq : least = 1 := le_antisymm (hleast.2 ⟨le_rfl, hvalue⟩) hleast.1.1
    rw [if_pos hone, heq]
    exact (if_pos (by decide)).symm
  · have hbelow : rate.value < 1 := by
      rw [isAtLeastOne_iff] at hone
      exact not_le.mp hone
    obtain ⟨inverse, hinverse, -⟩ := exists_div?_one hrate hbelow
    have hceil := ceil_eq_of_isLeast hrate hbelow hleast hinverse
    rw [if_neg hone, hinverse]
    simp only [hceil]
    by_cases hstored : least ≤ greatestStored
    · have hpositive : 1 ≤ least := hleast.1.1
      have hin : IsStored least := ⟨by unfold leastStored; omega, hstored⟩
      rw [if_pos hin, if_pos hstored]
      exact searchFrom_of_isLeast hrate hbelow hleast hstored
    · rw [if_neg hstored]
      exact if_neg fun hin => hstored hin.2

/-! ## Amounts that are too small -/

section TooSmall

variable {amount least : ℤ} {row : ExchangeRate}

/-- The outcome of a conversion whose amount is too small: the least amount is named, or it is
out of range. -/
def refusedBelow (least : ℤ) (row : ExchangeRate) : Except BankError Conversion :=
  if least ≤ greatestStored then .error (.amountTooSmall least row.base row.target)
  else Violation.rateTooSmall.refuse

/-- An amount whose exact product is below one is refused with the least amount that would do, or
with the rate if there is no such amount in range. -/
theorem convert_of_lt_one (hamount : 1 ≤ amount) (hstored : amount ≤ greatestStored)
    (hrate : row.rate.isPositive = true)
    (hleast : IsLeast {n : ℤ | 1 ≤ n ∧ 1 ≤ n * row.rate.value} least)
    (hproduct : amount * row.rate.value < 1) : convert amount row = refusedBelow least row := by
  have hunits := wholeUnits_of_lt_one hamount hstored hrate hproduct
  have hfound := leastAmount_of_isLeast hrate hleast
  unfold convert refusedBelow
  rw [hunits, hfound]
  by_cases hin : least ≤ greatestStored
  · rw [if_pos hin, if_pos hin]
    rfl
  · rw [if_neg hin, if_neg hin]
    rfl

/-- An amount that is not too small is credited, or there is no room for what it buys. -/
theorem convert_of_one_le (hamount : 1 ≤ amount) (hstored : amount ≤ greatestStored)
    (hrate : row.rate.isPositive = true) (hone : 1 ≤ amount * row.rate.value) :
    (∃ units, 1 ≤ units ∧ convert amount row = .ok ⟨amount, units, row.rate⟩) ∨
      convert amount row = Violation.conversionOutOfRange.refuse := by
  rcases wholeUnits_of_one_le hamount hstored hrate hone with ⟨units, hpos, hunits⟩ | hunits
  · exact .inl ⟨units, hpos, convert_eq_ok_iff.mpr ⟨units, hunits, hpos, rfl⟩⟩
  · refine .inr ?_
    unfold convert
    rw [hunits]
    rfl

/-- A conversion that is refused for an amount too small, whether or not the least amount can be
named. -/
def RefusedAsTooSmall (outcome : Except BankError Conversion) : Prop :=
  (∃ minimum base target, outcome = .error (.amountTooSmall minimum base target)) ∨
    ∃ v : Violation, outcome = .error (.validation v) ∧ v.field = some "exchange_rate"

/-- A conversion is refused as too small exactly if the exact product is below one. -/
theorem refusedAsTooSmall_iff (hamount : 1 ≤ amount) (hstored : amount ≤ greatestStored)
    (hrate : row.rate.isPositive = true) :
    RefusedAsTooSmall (convert amount row) ↔ amount * row.rate.value < 1 := by
  have hleast := isLeast_ceil_inv ((isPositive_iff row.rate).mp hrate)
  by_cases hproduct : amount * row.rate.value < 1
  · refine iff_of_true ?_ hproduct
    rw [convert_of_lt_one hamount hstored hrate hleast hproduct]
    unfold refusedBelow RefusedAsTooSmall
    by_cases hin : ⌈row.rate.value⁻¹⌉ ≤ greatestStored
    · rw [if_pos hin]
      exact .inl ⟨_, _, _, rfl⟩
    · rw [if_neg hin]
      exact .inr ⟨_, rfl, rfl⟩
  · refine iff_of_false ?_ hproduct
    -- neither a credit nor a sum out of range is a refusal of that kind
    rcases convert_of_one_le hamount hstored hrate (not_lt.mp hproduct) with
      ⟨units, -, hconvert⟩ | hconvert
    · rw [hconvert]
      rintro (⟨minimum, base, target, h⟩ | ⟨v, h, -⟩)
      all_goals cases h
    · rw [hconvert]
      rintro (⟨minimum, base, target, h⟩ | ⟨v, h, hfield⟩)
      · cases h
      · cases h
        exact absurd hfield (by decide)

/-- What is reported about the least amount that buys a unit at the rate of a row. -/
structure LeastReported (row : ExchangeRate) (least : ℤ) : Prop where
  /-- It is the least amount above zero whose exact product with the rate is one or more. -/
  isLeast : IsLeast {n : ℤ | 1 ≤ n ∧ 1 ≤ n * row.rate.value} least
  /-- It is found if it is in range. -/
  found : least ≤ greatestStored → leastAmount row.rate = .ok least
  /-- Otherwise the rate is refused. -/
  beyond : greatestStored < least → ∃ v : Violation,
    leastAmount row.rate = .error (.validation v) ∧ v.field = some "exchange_rate"
  /-- Whenever there is a search, it starts from this amount and ends there, in range, however
  many candidates it might try. -/
  search : ∀ inverse, row.rate.isAtLeastOne = false → div? one row.rate = some inverse →
    IsStored inverse.ceil →
    inverse.ceil = least ∧ ∀ tries, firstBuying row.rate (tries + 1) inverse.ceil = .ok least
  /-- An amount is refused as too small exactly if it is. -/
  refused_iff : ∀ amount, 1 ≤ amount → amount ≤ greatestStored →
    (RefusedAsTooSmall (convert amount row) ↔ amount * row.rate.value < 1)
  /-- The minimum that is named with an amount too small is above the amount and converts, and no
  smaller amount does. -/
  named : ∀ amount minimum base target, 1 ≤ amount → amount ≤ greatestStored →
    convert amount row = .error (.amountTooSmall minimum base target) →
    amount < minimum ∧ (∃ c, convert minimum row = .ok c) ∧
      ∀ smaller, 1 ≤ smaller → smaller < minimum → ∀ c, convert smaller row ≠ .ok c

/-- The minimum that a refusal names is the least amount, and it is in range. -/
theorem eq_of_amountTooSmall {minimum : ℤ} {base target : Currency} (hamount : 1 ≤ amount)
    (hstored : amount ≤ greatestStored) (hrate : row.rate.isPositive = true)
    (hleast : IsLeast {n : ℤ | 1 ≤ n ∧ 1 ≤ n * row.rate.value} least)
    (h : convert amount row = .error (.amountTooSmall minimum base target)) :
    amount * row.rate.value < 1 ∧ least ≤ greatestStored ∧ minimum = least := by
  have hproduct : amount * row.rate.value < 1 := by
    rw [← refusedAsTooSmall_iff hamount hstored hrate]
    exact .inl ⟨minimum, base, target, h⟩
  rw [convert_of_lt_one hamount hstored hrate hleast hproduct, refusedBelow] at h
  by_cases hin : least ≤ greatestStored
  · rw [if_pos hin] at h
    cases h
    exact ⟨hproduct, hin, rfl⟩
  · rw [if_neg hin] at h
    cases h

/-- At every rate above zero the least amount is reported as it is, and the search for it is over
where it begins. -/
theorem leastReported_of_isPositive (hrate : row.rate.isPositive = true) :
    LeastReported row ⌈row.rate.value⁻¹⌉ := by
  have hvalue := (isPositive_iff row.rate).mp hrate
  have hleast := isLeast_ceil_inv hvalue
  have hfound := leastAmount_of_isLeast hrate hleast
  refine ⟨hleast, ?_, ?_, ?_, ?_, ?_⟩
  · intro hin
    rw [hfound, if_pos hin]
  · intro hbeyond
    rw [hfound, if_neg (not_le.mpr hbeyond)]
    exact ⟨.rateTooSmall, rfl, rfl⟩
  · intro inverse hone hinverse hstored
    have hbelow : row.rate.value < 1 := by
      rw [← not_le, ← isAtLeastOne_iff, hone]
      exact Bool.false_ne_true
    have hceil := ceil_eq_of_isLeast hrate hbelow hleast hinverse
    rw [hceil] at hstored ⊢
    exact ⟨rfl, firstBuying_of_isLeast hrate hbelow hleast hstored.2⟩
  · intro amount hamount hstored
    exact refusedAsTooSmall_iff hamount hstored hrate
  · intro amount minimum base target hamount hstored h
    obtain ⟨hproduct, hin, rfl⟩ := eq_of_amountTooSmall hamount hstored hrate hleast h
    refine ⟨?_, ?_, ?_⟩
    · -- the product of the least amount is the greater one
      have hlt : (amount : ℚ) * row.rate.value < ⌈row.rate.value⁻¹⌉ * row.rate.value :=
        hproduct.trans_le hleast.1.2
      exact_mod_cast lt_of_mul_lt_mul_right hlt hvalue.le
    · have hbelow : row.rate.value < 1 := by
        have hcast : (1 : ℚ) ≤ amount := by exact_mod_cast hamount
        have hle : row.rate.value ≤ amount * row.rate.value := le_mul_of_one_le_left hvalue.le hcast
        exact hle.trans_lt hproduct
      have hunits := wholeUnits_of_lt_two hleast.1.1 hin hrate hleast.1.2
        (mul_lt_two_of_isLeast hbelow hleast)
      exact ⟨_, convert_eq_ok_iff.mpr ⟨1, hunits, le_rfl, rfl⟩⟩
    · intro smaller hpos hsmaller c hc
      have hless : smaller * row.rate.value < 1 := by
        by_contra hone
        exact absurd (hleast.2 ⟨hpos, not_lt.mp hone⟩) (not_le.mpr hsmaller)
      rw [convert_of_lt_one hpos (by omega) hrate hleast hless, refusedBelow, if_pos hin] at hc
      cases hc

end TooSmall

/-- At 0.0077 a hundred units are too few and 130 are just enough. The inverse of that rate has no
end, so it is rounded. -/
theorem leastReported_of_isPositive_small :
    let rate : Decimal := ⟨false, 77, 4, by decide, by decide⟩
    let row : ExchangeRate := ⟨⟨1⟩, .kes, .usd, rate, default, default⟩
    rate.isPositive = true ∧ leastAmount rate = .ok 130 ∧ RefusedAsTooSmall (convert 100 row) := by
  intro rate row
  have hpositive : row.rate.isPositive = true := by decide
  have hvalue : row.rate.value = 77 / 10 ^ 4 := by
    simp only [row, rate, value, coefficient]
    norm_num
  have hceil : ⌈row.rate.value⁻¹⌉ = 130 := by
    rw [hvalue, Int.ceil_eq_iff]
    norm_num
  have hreported := leastReported_of_isPositive hpositive
  rw [hceil] at hreported
  have hless : ((100 : ℤ) : ℚ) * row.rate.value < 1 := by
    rw [hvalue]
    norm_num
  exact ⟨hpositive, hreported.found (by decide),
    (hreported.refused_iff 100 (by decide) (by decide)).mpr hless⟩

end CountingHouse
