/-
Conversion follows the order of exact products.

Two products may be rounded at different places, and each of them may be rounded up. All the
same the smaller product never comes to more whole units than the greater one
(`floor_le_floor_of_le`). If no digit of the smaller product is dropped, its whole units are
exact, and rounding never leads below a whole number. If digits are dropped, they are dropped
because there is no room for more places, so the greater product has no more places, and what
rounding can add to it, half of its last place, is no less.

Hence an amount and a rate count by their product alone (`FollowsOrder.alike`): it does not
matter how the rate is written, nor how the product is split between the two.
-/
import CountingHouse.Proofs.Rates.Least

set_option autoImplicit false

namespace CountingHouse

open Decimal

/-! ## Rounding of two products -/

section Rounding

variable {p s p' s' : ℕ} {d d' : Decimal}

/-- Where digits of the smaller number are dropped, no more places are kept of the greater. -/
theorem scale_le_of_rounds (h : Rounds p s d) (h' : Rounds p' s' d')
    (hle : (p : ℚ) / 10 ^ s ≤ p' / 10 ^ s') (hdropped : d.scale ≠ s) : d'.scale ≤ d.scale := by
  have hfits : Fits (p / 10 ^ s) d'.scale := h'.fits.of_le hle
  by_cases hplaces : d'.scale ≤ s
  · exact h.most d'.scale hplaces hfits
  · -- otherwise there would have been room for all places of the smaller one
    have hall : s ≤ d.scale :=
      h.most s le_rfl (hfits.of_places_le (by positivity) (Nat.le_of_lt (not_le.mp hplaces)))
    exact absurd (le_antisymm h.scale_le hall) hdropped

/-- The smaller of two numbers has no more whole units when both are rounded. -/
theorem floor_le_floor_of_le (h : Rounds p s d) (h' : Rounds p' s' d')
    (hle : (p : ℚ) / 10 ^ s ≤ p' / 10 ^ s') (hrange : ⌊(p' : ℚ) / 10 ^ s'⌋ ≤ greatestStored) :
    d.floor ≤ d'.floor := by
  have hfloor : ⌊(p : ℚ) / 10 ^ s⌋ ≤ ⌊(p' : ℚ) / 10 ^ s'⌋ := Int.floor_mono hle
  by_cases hall : d.scale = s
  · calc d.floor = ⌊(p : ℚ) / 10 ^ s⌋ := by rw [floor_eq_floor_value, value_of_rounds h hall]
      _ ≤ ⌊(p' : ℚ) / 10 ^ s'⌋ := hfloor
      _ ≤ d'.floor := floor_le_floor_of_rounds h'
  · -- half of the last place kept is no less for the greater number
    have hscale := scale_le_of_rounds h h' hle hall
    have hpow : (10 : ℚ) ^ d'.scale ≤ 10 ^ d.scale := pow_le_pow_right₀ (by norm_num) hscale
    have hhalf : (1 : ℚ) / (2 * 10 ^ d.scale) ≤ 1 / (2 * 10 ^ d'.scale) :=
      one_div_le_one_div_of_le (by positivity) (by linarith)
    have hplaces := places_of_rounds h (hfloor.trans hrange)
    have hplaces' := places_of_rounds h' hrange
    rw [floor_of_rounds h (by omega), floor_of_rounds h' (by omega)]
    exact Int.floor_mono (by linarith)

end Rounding

/-! ## Conversions of two amounts -/

section Order

variable {a b : ℤ} {lower upper : Decimal}

/-- If what the greater product buys is in range, so is what the smaller one buys, and it is no
more. -/
theorem wholeUnits_le (ha : 1 ≤ a) (ha' : a ≤ greatestStored) (hb : 1 ≤ b)
    (hb' : b ≤ greatestStored) (hlower : lower.isPositive = true)
    (hupper : upper.isPositive = true) (hle : a * lower.value ≤ b * upper.value) {v : ℤ}
    (hv : wholeUnits b upper = .ok v) : ∃ u ≤ v, wholeUnits a lower = .ok u := by
  have hx := mul_value_eq (by omega : 0 ≤ a) hlower
  have hy := mul_value_eq (by omega : 0 ≤ b) hupper
  rcases wholeUnits_cases hb hb' hupper with ⟨d', hrounds', hunits'⟩ | ⟨-, hunits'⟩
  · rw [hunits'] at hv
    by_cases hstored : IsStored d'.floor
    · obtain rfl : d'.floor = v := by
        rw [if_pos hstored] at hv
        exact Except.ok.inj hv
      have hrange : ⌊(b : ℚ) * upper.value⌋ ≤ greatestStored := by
        rw [hy]
        exact (floor_le_floor_of_rounds hrounds').trans hstored.2
      have hnonneg : 0 ≤ a * lower.value := by
        rw [hx]
        positivity
      rcases wholeUnits_cases ha ha' hlower with ⟨d, hrounds, hunits⟩ | ⟨hnot, -⟩
      · have hfloor : d.floor ≤ d'.floor := by
          refine floor_le_floor_of_le hrounds hrounds' ?_ (hy ▸ hrange)
          rw [← hx, ← hy]
          exact hle
        have hzero : 0 ≤ d.floor := by
          have hleast := floor_le_floor_of_rounds hrounds
          rw [← hx] at hleast
          exact (Int.floor_nonneg.mpr hnonneg).trans hleast
        have hin : IsStored d.floor :=
          ⟨by unfold leastStored; omega, hfloor.trans hstored.2⟩
        exact ⟨d.floor, hfloor, hunits.trans (if_pos hin)⟩
      · -- a product in range has room for nine places
        have hfits : Fits (a * lower.value) 9 := (fits_nine hrange).of_le hle
        exact absurd (hfits.of_places_le hnonneg (Nat.zero_le 9)) hnot
    · rw [if_neg hstored] at hv
      cases hv
  · rw [hunits'] at hv
    cases hv

end Order

section Outcomes

variable {amount a b : ℤ} {row lower upper : ExchangeRate}

/-- So many units are credited. -/
def Credited (amount : ℤ) (row : ExchangeRate) (units : ℤ) : Prop :=
  convert amount row = .ok ⟨amount, units, row.rate⟩

/-- The conversion fails because there is no room for what the amount buys. -/
def OutOfRange (amount : ℤ) (row : ExchangeRate) : Prop :=
  convert amount row = Violation.conversionOutOfRange.refuse

/-- Units are credited exactly if the amount buys them and there is at least one. -/
theorem credited_iff {units : ℤ} :
    Credited amount row units ↔ wholeUnits amount row.rate = .ok units ∧ 1 ≤ units := by
  unfold Credited
  rw [convert_eq_ok_iff]
  constructor
  · rintro ⟨found, hfound, hpos, hsame⟩
    cases hsame
    exact ⟨hfound, hpos⟩
  · rintro ⟨hunits, hpos⟩
    exact ⟨units, hunits, hpos, rfl⟩

/-- Where whole units are bought at all, there is room for them. -/
theorem not_outOfRange_of_wholeUnits (hamount : 1 ≤ amount) (hstored : amount ≤ greatestStored)
    (hrate : row.rate.isPositive = true) {units : ℤ}
    (hunits : wholeUnits amount row.rate = .ok units) : ¬ OutOfRange amount row := by
  unfold OutOfRange
  by_cases hproduct : amount * row.rate.value < 1
  · -- then the amount is too small, which is another failure
    have hleast := isLeast_ceil_inv ((isPositive_iff row.rate).mp hrate)
    rw [convert_of_lt_one hamount hstored hrate hleast hproduct, refusedBelow]
    by_cases hin : ⌈row.rate.value⁻¹⌉ ≤ greatestStored
    · rw [if_pos hin]
      simp [Violation.refuse]
    · rw [if_neg hin]
      simp [Violation.refuse]
  · rcases wholeUnits_of_one_le hamount hstored hrate (not_lt.mp hproduct) with
      ⟨found, hpos, hfound⟩ | hrefused
    · rw [convert_eq_ok_iff.mpr ⟨found, hfound, hpos, rfl⟩]
      simp [Violation.refuse]
    · rw [hrefused] at hunits
      cases hunits

/-- The conversions of two amounts, each at a rate of its own. -/
structure FollowsOrder (a b : ℤ) (lower upper : ExchangeRate) : Prop where
  /-- The smaller exact product is credited with no more. -/
  credit : a * lower.rate.value ≤ b * upper.rate.value →
    ∀ u v, Credited a lower u → Credited b upper v → u ≤ v
  /-- If the greater product is credited or too small, there is room for the smaller one. -/
  room : a * lower.rate.value ≤ b * upper.rate.value →
    (∃ v, Credited b upper v) ∨ RefusedAsTooSmall (convert b upper) → ¬ OutOfRange a lower
  /-- If the smaller product is credited, the greater one is not too small. -/
  enough : a * lower.rate.value ≤ b * upper.rate.value →
    (∃ u, Credited a lower u) → ¬ RefusedAsTooSmall (convert b upper)
  /-- Of equal products the same is credited, or of neither anything. -/
  alike : a * lower.rate.value = b * upper.rate.value →
    ∀ units, Credited a lower units ↔ Credited b upper units
  /-- Zeros at the end of the rate make no difference. -/
  zeros : ∀ more, a = b → upper.rate.magnitude = lower.rate.magnitude * 10 ^ more →
    upper.rate.scale = lower.rate.scale + more →
    ∀ units, Credited a lower units ↔ Credited b upper units
  /-- At the same rate a larger amount is never credited with less. -/
  larger : a ≤ b → upper.rate = lower.rate →
    ∀ u v, Credited a lower u → Credited b upper v → u ≤ v

variable (ha : 1 ≤ a) (ha' : a ≤ greatestStored) (hb : 1 ≤ b) (hb' : b ≤ greatestStored)
variable (hlower : lower.rate.isPositive = true) (hupper : upper.rate.isPositive = true)

include ha ha' hb hb' hlower hupper

/-- A larger product is credited with no less, although both are rounded, and not to the same number
of places. -/
theorem credit_le (hle : a * lower.rate.value ≤ b * upper.rate.value) {u v : ℤ}
    (hu : Credited a lower u) (hv : Credited b upper v) : u ≤ v := by
  obtain ⟨found, hfound, hunits⟩ :=
    wholeUnits_le ha ha' hb hb' hlower hupper hle (credited_iff.mp hv).1
  obtain rfl : found = u := Except.ok.inj (hunits.symm.trans (credited_iff.mp hu).1)
  exact hfound

/-- What is credited of a product is credited of every equal one. -/
theorem credited_of_eq (heq : a * lower.rate.value = b * upper.rate.value) {v : ℤ}
    (hv : Credited b upper v) : Credited a lower v := by
  obtain ⟨hunits, hpos⟩ := credited_iff.mp hv
  obtain ⟨u, hu, hfound⟩ := wholeUnits_le ha ha' hb hb' hlower hupper heq.le hunits
  obtain ⟨w, hw, hagain⟩ := wholeUnits_le hb hb' ha ha' hupper hlower heq.ge hfound
  obtain rfl : w = v := Except.ok.inj (hagain.symm.trans hunits)
  obtain rfl : u = w := le_antisymm hu hw
  exact credited_iff.mpr ⟨hfound, hpos⟩

/-- Equal products are credited alike, whatever amounts and rates they are made of. -/
theorem credited_iff_of_eq (heq : a * lower.rate.value = b * upper.rate.value) (units : ℤ) :
    Credited a lower units ↔ Credited b upper units :=
  ⟨credited_of_eq hb hb' ha ha' hupper hlower heq.symm,
    credited_of_eq ha ha' hb hb' hlower hupper heq⟩

/-- If the greater product buys whole units, be it none of them, there is room for the smaller
one. -/
theorem not_outOfRange_of_le (hle : a * lower.rate.value ≤ b * upper.rate.value)
    (hother : (∃ v, Credited b upper v) ∨ RefusedAsTooSmall (convert b upper)) :
    ¬ OutOfRange a lower := by
  obtain ⟨v, hv⟩ : ∃ v, wholeUnits b upper.rate = .ok v := by
    rcases hother with ⟨v, hv⟩ | hsmall
    · exact ⟨v, (credited_iff.mp hv).1⟩
    · rw [refusedAsTooSmall_iff hb hb' hupper] at hsmall
      exact ⟨0, wholeUnits_of_lt_one hb hb' hupper hsmall⟩
  obtain ⟨u, -, hu⟩ := wholeUnits_le ha ha' hb hb' hlower hupper hle hv
  exact not_outOfRange_of_wholeUnits ha ha' hlower hu

/-- If an amount is enough, then so is one with a larger product. -/
theorem not_refusedAsTooSmall_of_le (hle : a * lower.rate.value ≤ b * upper.rate.value) {u : ℤ}
    (hu : Credited a lower u) : ¬ RefusedAsTooSmall (convert b upper) := by
  intro hsmall
  rw [refusedAsTooSmall_iff hb hb' hupper] at hsmall
  -- the smaller product would be too small as well
  have hless : a * lower.rate.value < 1 := hle.trans_lt hsmall
  rw [← refusedAsTooSmall_iff ha ha' hlower] at hless
  unfold Credited at hu
  rw [hu] at hless
  rcases hless with ⟨minimum, base, target, h⟩ | ⟨v, h, -⟩
  · cases h
  · cases h

/-- At rates above zero conversion follows the order of the exact products: the smaller one is
converted to no more, and fails for want of room only if the other does. -/
theorem followsOrder_of_isPositive : FollowsOrder a b lower upper := by
  have hcredit : a * lower.rate.value ≤ b * upper.rate.value →
      ∀ u v, Credited a lower u → Credited b upper v → u ≤ v :=
    fun hle u v => credit_le ha ha' hb hb' hlower hupper hle
  have halike := credited_iff_of_eq ha ha' hb hb' hlower hupper
  refine ⟨hcredit, not_outOfRange_of_le ha ha' hb hb' hlower hupper, ?_, halike, ?_, ?_⟩
  · rintro hle ⟨u, hu⟩
    exact not_refusedAsTooSmall_of_le ha ha' hb hb' hlower hupper hle hu
  · intro more hsame hmagnitude hscale
    refine halike ?_
    have hpow : (10 : ℚ) ^ more ≠ 0 := by positivity
    rw [hsame, value_of_isNegative_eq_false (sign_of_isPositive hlower).1,
      value_of_isNegative_eq_false (sign_of_isPositive hupper).1, hmagnitude, hscale, pow_add]
    push_cast
    field_simp
  · intro hle hsame
    refine hcredit ?_
    have hvalue := (isPositive_iff lower.rate).mp hlower
    have hcast : (a : ℚ) ≤ b := by exact_mod_cast hle
    rw [hsame]
    exact mul_le_mul_of_nonneg_right hcast hvalue.le

end Outcomes

/-- Three units at three and a third, written with 28 places, are rounded up to ten; four units at
two and a half are ten, and no less is credited for them. -/
theorem followsOrder_of_isPositive_ten :
    let third : Decimal := ⟨false, 33333333333333333333333333333, 28, by decide, by decide⟩
    let half : Decimal := ⟨false, 25, 1, by decide, by decide⟩
    let lower : ExchangeRate := ⟨⟨1⟩, .usd, .kes, third, default, default⟩
    let upper : ExchangeRate := ⟨⟨2⟩, .eur, .kes, half, default, default⟩
    third.isPositive = true ∧ half.isPositive = true ∧
      ((3 : ℤ) : ℚ) * third.value ≤ ((4 : ℤ) : ℚ) * half.value ∧ Credited 4 upper 10 ∧
      ¬ OutOfRange 3 lower ∧ ∀ units, Credited 3 lower units → units ≤ 10 := by
  intro third half lower upper
  have hthird : third.isPositive = true := by decide
  have hhalf : half.isPositive = true := by decide
  have hle : ((3 : ℤ) : ℚ) * lower.rate.value ≤ ((4 : ℤ) : ℚ) * upper.rate.value := by
    simp only [lower, upper, third, half, value, coefficient]
    norm_num
  have hten : Credited 4 upper 10 := by
    unfold Credited
    decide +kernel
  have horder : FollowsOrder 3 4 lower upper := followsOrder_of_isPositive (by decide) (by decide)
    (by decide) (by decide) hthird hhalf
  exact ⟨hthird, hhalf, hle, hten, horder.room hle (.inl ⟨10, hten⟩),
    fun units hunits => horder.credit hle units 10 hunits hten⟩

end CountingHouse
