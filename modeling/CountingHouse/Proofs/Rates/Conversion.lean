/-
What is credited for an amount.

Converting multiplies an amount by a rate and keeps the whole units of the product. The product
is a decimal, and a decimal has 96 bits for its coefficient. As long as they are enough, what is
credited is the exact floor of the exact product. Where they are not, the last places of the
product are rounded away before its whole units are taken, and a product that lies closer below
a whole number than half of the last place kept is credited as that number
(`Credits.nearly`). At least nine places are kept of a product that can be credited at
all, so a product with a fraction of less than one minus half of a thousand-millionth is never
rounded up.
-/
import CountingHouse.Proofs.Decimal.Rounding
import CountingHouse.Proofs.Rates.Table

set_option autoImplicit false

namespace CountingHouse

open Decimal

/-! ## Conversions that succeed -/

/-- A chain of fallible steps succeeds if the first step does and the rest does with its result. -/
theorem bind_eq_ok {ε α β : Type} {x : Except ε α} {f : α → Except ε β} {b : β} :
    (x >>= f) = .ok b ↔ ∃ a, x = .ok a ∧ f a = .ok b := by
  rcases x with e | a
  · constructor
    · intro h
      cases h
    · rintro ⟨a, ha, -⟩
      cases ha
  · constructor
    · intro h
      exact ⟨a, rfl, h⟩
    · rintro ⟨_, ⟨⟩, h⟩
      exact h

/-- What is credited are the whole units of the product, if there are any. -/
theorem convert_eq_ok_iff {amount : Int} {row : ExchangeRate} {c : Conversion} :
    convert amount row = .ok c ↔
      ∃ units, wholeUnits amount row.rate = .ok units ∧ 1 ≤ units ∧
        c = ⟨amount, units, row.rate⟩ := by
  unfold convert
  rw [bind_eq_ok]
  refine exists_congr fun units => and_congr_right fun _ => ?_
  by_cases hless : units < 1
  · rw [if_pos hless]
    constructor
    · intro h
      -- too small an amount is an error, whether or not the least one can be named
      rcases hleast : leastAmount row.rate with e | least
      all_goals
        rw [hleast] at h
        cases h
    · rintro ⟨hone, -⟩
      omega
  · rw [if_neg hless]
    constructor
    · intro h
      exact ⟨by omega, (Except.ok.inj h).symm⟩
    · rintro ⟨-, rfl⟩
      rfl

/-! ## Products with an amount -/

variable {amount : ℤ} {rate : Decimal}

/-- The exact product of a whole amount and a rate, as a fraction. -/
theorem mul_value_eq (hamount : 0 ≤ amount) (hrate : rate.isPositive = true) :
    (amount : ℚ) * rate.value = ((amount.toNat * rate.magnitude : ℕ) : ℚ) / 10 ^ rate.scale := by
  have hcast : (amount : ℚ) = (amount.toNat : ℚ) := by
    exact_mod_cast (Int.toNat_of_nonneg hamount).symm
  rw [value_of_isNegative_eq_false (sign_of_isPositive hrate).1, hcast]
  push_cast
  ring

/-- The product of an amount and a rate is the exact one, made to fit. -/
theorem mul?_amount (hamount : 1 ≤ amount) (hstored : amount ≤ greatestStored)
    (hrate : rate.isPositive = true) :
    ((ofParts? amount 0).bind fun factor => mul? factor rate)
      = fitting? false (amount.toNat * rate.magnitude) rate.scale := by
  obtain ⟨hsign, hmagnitude⟩ := sign_of_isPositive hrate
  have hscale := rate.scale_le
  unfold maxScale at hscale
  have hbound : amount.natAbs < coefficientBound ∧ 0 ≤ maxScale := by
    have hvalue : coefficientBound = 79228162514264337593543950336 := by decide
    unfold greatestStored at hstored
    omega
  have hnot : ¬ amount < 0 := by omega
  have hfactor : ofParts? amount 0 = some ⟨false, amount.natAbs, 0, hbound.1, hbound.2⟩ := by
    unfold ofParts? ofSigned? ofMagnitude?
    rw [dif_pos hbound]
    simp only [hnot, decide_false, Bool.false_and]
  have hnatAbs : amount.natAbs = amount.toNat := by omega
  rw [hfactor, Option.bind_some]
  unfold mul?
  simp only
  rw [if_neg (by omega), if_neg (by omega), hsign, hnatAbs, Nat.zero_add]
  rfl

/-- What an amount buys: the whole units of the exact product as it is rounded, unless they are
out of range. -/
theorem wholeUnits_cases (hamount : 1 ≤ amount) (hstored : amount ≤ greatestStored)
    (hrate : rate.isPositive = true) :
    (∃ d, Rounds (amount.toNat * rate.magnitude) rate.scale d ∧
      wholeUnits amount rate
        = if IsStored d.floor then .ok d.floor else Violation.conversionOutOfRange.refuse) ∨
    (¬ Fits (amount * rate.value) 0 ∧
      wholeUnits amount rate = Violation.conversionOutOfRange.refuse) := by
  unfold wholeUnits
  rw [mul?_amount hamount hstored hrate, mul_value_eq (by omega) hrate]
  rcases fitting?_cases (p := amount.toNat * rate.magnitude) rate.scale_le with
    ⟨d, hfitting, hrounds⟩ | ⟨hfitting, hnot⟩
  · exact .inl ⟨d, hrounds, by rw [hfitting]⟩
  · exact .inr ⟨hnot, by rw [hfitting]⟩

/-! ## How many places are kept -/

/-- A product below the end of the range has room for nine places. -/
theorem fits_nine {x : ℚ} (h : ⌊x⌋ ≤ greatestStored) : Fits x 9 := by
  have hx : x < (greatestStored : ℚ) + 1 := by
    have hlt := Int.lt_floor_add_one x
    have hle : ((⌊x⌋ : ℤ) : ℚ) ≤ greatestStored := by exact_mod_cast h
    linarith
  have hvalue : (coefficientBound : ℚ) = 79228162514264337593543950336 := by
    exact_mod_cast (by decide : coefficientBound = 79228162514264337593543950336)
  unfold greatestStored at hx
  unfold Fits
  rw [hvalue]
  push_cast at hx
  linarith

variable {p s : ℕ} {d : Decimal}

/-- Of a product in range at least nine places are kept, or all that there are. -/
theorem places_of_rounds (h : Rounds p s d) (hrange : ⌊(p : ℚ) / 10 ^ s⌋ ≤ greatestStored) :
    d.scale = s ∨ 9 ≤ d.scale := by
  rcases le_or_gt 9 s with hs | hs
  · exact .inr (h.most 9 hs (fits_nine hrange))
  · have hnonneg : (0 : ℚ) ≤ p / 10 ^ s := by positivity
    exact .inl (le_antisymm h.scale_le
      (h.most s le_rfl ((fits_nine hrange).of_places_le hnonneg hs.le)))

/-! ## Credits -/

/-- The outcome of a conversion that comes to so many units, which may be out of range. -/
def credited (amount : ℤ) (row : ExchangeRate) (units : ℤ) : Except BankError Conversion :=
  if IsStored units then .ok ⟨amount, units, row.rate⟩ else Violation.conversionOutOfRange.refuse

variable {row : ExchangeRate}

/-- A conversion that buys at least one unit is settled by whether the units are in range. -/
theorem convert_of_wholeUnits {units : ℤ} (hunits : 1 ≤ units)
    (h : wholeUnits amount row.rate
      = if IsStored units then .ok units else Violation.conversionOutOfRange.refuse) :
    convert amount row = credited amount row units := by
  unfold convert credited
  rw [h]
  by_cases hstored : IsStored units
  · rw [if_pos hstored, if_pos hstored]
    change (if units < 1 then _ else _) = _
    rw [if_neg (by omega)]
    rfl
  · rw [if_neg hstored, if_neg hstored]
    rfl

/-- Half of a last place leads up to the next whole number or stays below it. -/
theorem floor_add_eq_ite {x ε : ℚ} (hε : 0 ≤ ε) (hsmall : ε ≤ 1 / 2) :
    ⌊x + ε⌋ = if 1 - Int.fract x ≤ ε then ⌊x⌋ + 1 else ⌊x⌋ := by
  have hsplit := Int.floor_add_fract x
  have hfract := Int.fract_lt_one x
  have hnonneg := Int.fract_nonneg x
  split
  · rw [Int.floor_eq_iff]
    push_cast
    constructor
    · linarith
    · linarith
  · rw [Int.floor_eq_iff]
    constructor
    · linarith
    · linarith

/-- A fraction lies a unit of its own scale or more below the next whole number. -/
theorem unit_le_one_sub_fract (p s : ℕ) :
    1 / 10 ^ s ≤ 1 - Int.fract ((p : ℚ) / 10 ^ s) := by
  have hpow : (0 : ℚ) < 10 ^ s := by positivity
  have hlt : (p : ℚ) < (⌊(p : ℚ) / 10 ^ s⌋ + 1 : ℤ) * 10 ^ s := by
    rw [← div_lt_iff₀ hpow]
    push_cast
    exact Int.lt_floor_add_one _
  have hstep : (p : ℚ) + 1 ≤ (⌊(p : ℚ) / 10 ^ s⌋ + 1 : ℤ) * 10 ^ s := by
    have hint : (p : ℤ) < (⌊(p : ℚ) / 10 ^ s⌋ + 1) * 10 ^ s := by exact_mod_cast hlt
    exact_mod_cast hint
  rw [Int.fract, div_le_iff₀ hpow]
  have hcancel : (p : ℚ) / 10 ^ s * 10 ^ s = p := div_mul_cancel₀ _ hpow.ne'
  push_cast at hstep
  linarith

/-- What converting an amount at a rate comes to, told by the exact product. -/
structure Credits (amount : ℤ) (row : ExchangeRate) (product : ℚ) : Prop where
  /-- Of a product in range as many places are kept as fit, and these are all of them or at least
  nine. What is credited is the floor of the product, but if the next whole number is no further
  away than half of the last place kept, it is that number. -/
  nearly : 1 ≤ ⌊product⌋ → ⌊product⌋ ≤ greatestStored → ∃ places,
    IsGreatest {n | n ≤ row.rate.scale ∧ Fits product n} places ∧
      (places = row.rate.scale ∨ 9 ≤ places) ∧
      convert amount row = credited amount row
        (if 1 - Int.fract product ≤ 1 / (2 * 10 ^ places) then ⌊product⌋ + 1 else ⌊product⌋)
  /-- It is the floor if the coefficient of the product fits, and also if the product lies further
  below the next whole number than half of a thousand-millionth. -/
  exactly : (amount.toNat * row.rate.magnitude < coefficientBound
      ∨ 1 / (2 * 10 ^ 9) < 1 - Int.fract product) →
    1 ≤ ⌊product⌋ → ⌊product⌋ ≤ greatestStored →
    convert amount row = .ok ⟨amount, ⌊product⌋, row.rate⟩
  /-- Above the range nothing is credited. -/
  beyond : greatestStored < ⌊product⌋ → ∃ v : Violation,
    convert amount row = .error (.validation v) ∧ v.field = some "amount"

variable (hamount : 1 ≤ amount) (hstored : amount ≤ greatestStored)
variable (hrate : row.rate.isPositive = true)

include hamount hstored hrate

/-- What is credited of a product in range: its floor, or one more where the product is within half
of the last place kept of the next whole number. The places that are kept are known exactly. -/
theorem credits_nearly {product : ℚ} (hproduct : product = amount * row.rate.value)
    (hone : 1 ≤ ⌊product⌋) (hrange : ⌊product⌋ ≤ greatestStored) : ∃ places,
    IsGreatest {n | n ≤ row.rate.scale ∧ Fits product n} places ∧
      (places = row.rate.scale ∨ 9 ≤ places) ∧
      convert amount row = credited amount row
        (if 1 - Int.fract product ≤ 1 / (2 * 10 ^ places) then ⌊product⌋ + 1 else ⌊product⌋) := by
  have hnonneg : 0 ≤ product := by
    have hfloor : (1 : ℚ) ≤ ⌊product⌋ := by exact_mod_cast hone
    exact zero_le_one.trans (hfloor.trans (Int.floor_le product))
  rcases wholeUnits_cases hamount hstored hrate with ⟨d, hrounds, hunits⟩ | ⟨hnot, -⟩
  · -- the product as it is kept is off by at most half a unit of its last place, which reaches the
    -- next whole number exactly when the fraction is within that of it
    have hfraction := mul_value_eq (by omega : 0 ≤ amount) hrate
    rw [← hproduct] at hfraction
    have hplaces := places_of_rounds hrounds (by rw [← hfraction]; exact hrange)
    have hfloor : d.floor = ⌊product + 1 / (2 * 10 ^ d.scale)⌋ := by
      rw [hfraction]
      exact floor_of_rounds hrounds (by omega)
    have hhalf : (1 : ℚ) / (2 * 10 ^ d.scale) ≤ 1 / 2 := by
      have hpow : (1 : ℚ) ≤ 10 ^ d.scale := one_le_pow₀ (by norm_num)
      exact one_div_le_one_div_of_le (by norm_num) (by linarith)
    have hleast : ⌊product⌋ ≤ d.floor := by
      rw [hfraction]
      exact floor_le_floor_of_rounds hrounds
    refine ⟨d.scale, ⟨⟨hrounds.scale_le, ?_⟩, fun n hn => ?_⟩, hplaces, ?_⟩
    · rw [hfraction]
      exact hrounds.fits
    · rw [hfraction] at hn
      exact hrounds.most n hn.1 hn.2
    · rw [← floor_add_eq_ite (by positivity) hhalf, ← hfloor]
      exact convert_of_wholeUnits (hone.trans hleast) hunits
  · -- an amount in range has a product that fits with nine places, so some rounding exists
    rw [← hproduct] at hnot
    exact absurd ((fits_nine hrange).of_places_le hnonneg (Nat.zero_le 9)) hnot

/-- The floor is credited where the coefficient fits, since nothing is rounded, and where the
product lies further from the next whole number than half of a ninth place, since at least nine
places are kept. -/
theorem credits_exactly {product : ℚ} (hproduct : product = amount * row.rate.value)
    (hfar : amount.toNat * row.rate.magnitude < coefficientBound
      ∨ 1 / (2 * 10 ^ 9) < 1 - Int.fract product)
    (hone : 1 ≤ ⌊product⌋) (hrange : ⌊product⌋ ≤ greatestStored) :
    convert amount row = .ok ⟨amount, ⌊product⌋, row.rate⟩ := by
  obtain ⟨places, hgreatest, hplaces, hconvert⟩ :=
    credits_nearly hamount hstored hrate hproduct hone hrange
  have hfraction := mul_value_eq (by omega : 0 ≤ amount) hrate
  rw [← hproduct] at hfraction
  -- a fraction is never closer to a whole number than a unit of its own scale
  have hall : places = row.rate.scale → 1 / (2 * 10 ^ places) < 1 - Int.fract product := by
    rintro rfl
    have hunit := unit_le_one_sub_fract (amount.toNat * row.rate.magnitude) row.rate.scale
    rw [← hfraction] at hunit
    have hpow : (0 : ℚ) < 10 ^ row.rate.scale := by positivity
    have hhalf : (1 : ℚ) / (2 * 10 ^ row.rate.scale) < 1 / 10 ^ row.rate.scale :=
      one_div_lt_one_div_of_lt hpow (by linarith)
    exact hhalf.trans_le hunit
  have hbelow : 1 / (2 * 10 ^ places) < 1 - Int.fract product := by
    rcases hfar with hfits | hfar
    · refine hall (le_antisymm hgreatest.1.1 (hgreatest.2 ⟨le_rfl, ?_⟩))
      have hkept := (roundHalfEven_lt_iff_fits (Nat.zero_le row.rate.scale)).mp
        (show roundHalfEven (amount.toNat * row.rate.magnitude) (10 ^ 0) < coefficientBound by
          simpa using hfits)
      rw [hfraction]
      exact hkept
    · rcases hplaces with hscale | hnine
      · exact hall hscale
      · have hpow : (10 : ℚ) ^ 9 ≤ 10 ^ places := pow_le_pow_right₀ (by norm_num) hnine
        have hle : (1 : ℚ) / (2 * 10 ^ places) ≤ 1 / (2 * 10 ^ 9) :=
          one_div_le_one_div_of_le (by norm_num) (by linarith)
        exact hle.trans_lt hfar
  have hstoredFloor : IsStored ⌊product⌋ := ⟨by unfold leastStored; omega, hrange⟩
  rw [hconvert, if_neg (not_le.mpr hbelow)]
  exact if_pos hstoredFloor

/-- A product above the range is refused on the field of the amount, whether it cannot be put down
at all or only its floor is too large. -/
theorem credits_beyond {product : ℚ} (hproduct : product = amount * row.rate.value)
    (hbeyond : greatestStored < ⌊product⌋) : ∃ v : Violation,
    convert amount row = .error (.validation v) ∧ v.field = some "amount" := by
  have hrefused : wholeUnits amount row.rate = Violation.conversionOutOfRange.refuse := by
    rcases wholeUnits_cases hamount hstored hrate with ⟨d, hrounds, hunits⟩ | ⟨-, hunits⟩
    · have hleast := floor_le_floor_of_rounds hrounds
      rw [← mul_value_eq (by omega) hrate, ← hproduct] at hleast
      rw [hunits, if_neg (fun hin => absurd hin.2 (by omega))]
    · exact hunits
  refine ⟨.conversionOutOfRange, ?_, rfl⟩
  unfold convert
  rw [hrefused]
  rfl

/-- Whatever the amount and the rate are, what is credited is told by the exact product: its
floor, or the next whole number if that is as near as the rounding of the product reaches. -/
theorem credits_of_isPositive : Credits amount row (amount * row.rate.value) where
  nearly := credits_nearly hamount hstored hrate rfl
  exactly := credits_exactly hamount hstored hrate rfl
  beyond := credits_beyond hamount hstored hrate rfl

omit hamount hstored hrate

/-- Four times three and a third has one digit too many, and is credited exactly. -/
theorem credits_of_isPositive_four_thirds :
    let rate : Decimal := ⟨false, 33333333333333333333333333333, 28, by decide, by decide⟩
    let row : ExchangeRate := ⟨⟨1⟩, .usd, .kes, rate, default, default⟩
    (1 : ℤ) ≤ 4 ∧ 4 ≤ greatestStored ∧ rate.isPositive = true ∧
      coefficientBound ≤ 4 * rate.magnitude ∧ convert 4 row = .ok ⟨4, 13, rate⟩ := by
  intro rate row
  have hone : (1 : ℤ) ≤ 4 := by decide
  have hstored : 4 ≤ greatestStored := by decide
  have hpositive : rate.isPositive = true := by decide
  have hlarge : coefficientBound ≤ 4 * rate.magnitude := by decide
  have hvalue : ((4 : ℤ) : ℚ) * row.rate.value
      = 133333333333333333333333333332 / 10 ^ 28 := by
    simp only [row, rate, value, coefficient]
    norm_num
  have hfloor : ⌊((4 : ℤ) : ℚ) * row.rate.value⌋ = 13 := by
    rw [hvalue, Int.floor_eq_iff]
    norm_num
  have hfar : 1 / (2 * 10 ^ 9) < 1 - Int.fract (((4 : ℤ) : ℚ) * row.rate.value) := by
    rw [Int.fract, hfloor, hvalue]
    norm_num
  have hexactly := (credits_of_isPositive hone hstored hpositive).exactly (.inr hfar)
  rw [hfloor] at hexactly
  exact ⟨hone, hstored, hpositive, hlarge, hexactly (by decide) (by decide)⟩

/-- Three units at three and a third, written with 28 places, are less than ten by one unit of the
last place, and are credited as ten. -/
theorem convert_ne_floor :
    let rate : Decimal := ⟨false, 33333333333333333333333333333, 28, by decide, by decide⟩
    let row : ExchangeRate := ⟨⟨1⟩, .usd, .kes, rate, default, default⟩
    rate.isPositive = true ∧ ⌊(3 : ℚ) * rate.value⌋ = 9 ∧ convert 3 row = .ok ⟨3, 10, rate⟩ := by
  intro rate row
  refine ⟨by decide, ?_, by decide +kernel⟩
  rw [Int.floor_eq_iff]
  simp only [rate, value, coefficient]
  norm_num

end CountingHouse
