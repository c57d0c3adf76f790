/-
Rounding keeps as much as fits.

The number that a decimal stands for is `value`, and everything that is asked of a decimal is a
question about that number. A fraction whose coefficient does not fit is rounded, and what comes
of it is told by the number alone: as many places are kept as leave a coefficient of 96 bits
(`Fits`), and the last one is rounded to the nearest, a tie to the even neighbour
(`le_roundHalfEven_iff`).

Rounding can lead up to the next whole number. `floor_of_rounds` says exactly when: the whole
units of the rounded number are those of the number and half of the last place kept. A tie does
not make a difference there, because a whole number is an even multiple of the last place.
-/
import CountingHouse.Decimal.Arithmetic
import Mathlib

set_option autoImplicit false

namespace CountingHouse.Decimal

/-! ## The number -/

/-- The number that a decimal stands for. -/
def value (d : Decimal) : ℚ := d.coefficient / 10 ^ d.scale

/-- Rounding down to an integer is that of the number, also below zero. -/
theorem floor_eq_floor_value (d : Decimal) : d.floor = ⌊d.value⌋ := by
  have hpow : ((10 : ℚ) ^ d.scale) = ((10 ^ d.scale : ℕ) : ℚ) := by push_cast; rfl
  unfold floor value
  rw [hpow, Rat.floor_intCast_div_natCast, Int.fdiv_eq_ediv_of_nonneg]
  · rfl
  · exact Int.natCast_nonneg _

/-- The test for the sign is the comparison of the number; a zero is not positive, whatever its
sign. -/
theorem isPositive_iff (d : Decimal) : d.isPositive = true ↔ 0 < d.value := by
  have hpow : (0 : ℚ) < 10 ^ d.scale := by positivity
  unfold isPositive value
  rw [decide_eq_true_eq, div_pos_iff_of_pos_right hpow, Int.cast_pos]

/-- A decimal above zero has no sign and a coefficient. -/
theorem sign_of_isPositive {d : Decimal} (h : d.isPositive = true) :
    d.isNegative = false ∧ 0 < d.magnitude := by
  unfold isPositive coefficient at h
  rw [decide_eq_true_eq] at h
  rcases hsign : d.isNegative with _ | _
  · rw [hsign] at h
    simp only [Bool.false_eq_true, if_false] at h
    exact ⟨rfl, by omega⟩
  · rw [hsign] at h
    simp only [if_true] at h
    omega

/-- Without the sign, the number is the magnitude with its places. -/
theorem value_of_isNegative_eq_false {d : Decimal} (h : d.isNegative = false) :
    d.value = d.magnitude / 10 ^ d.scale := by
  unfold value coefficient
  rw [h]
  simp only [Bool.false_eq_true, if_false, Int.cast_natCast]

/-! ## Rounding to the nearest -/

/-- A quotient is rounded to at least a number exactly if the number is at most half above it,
and if it is just half above, exactly if it is even. -/
theorem le_roundHalfEven_iff {n d k : ℕ} (hd : 0 < d) : k ≤ roundHalfEven n d ↔
    2 * (k * d) < 2 * n + d ∨ (2 * (k * d) = 2 * n + d ∧ k % 2 = 0) := by
  have hsplit : d * (n / d) + n % d = n := Nat.div_add_mod n d
  have hrest : n % d < d := Nat.mod_lt n hd
  simp only [roundHalfEven]
  generalize n / d = q at *
  generalize n % d = r at *
  have hcomm : d * q = q * d := Nat.mul_comm d q
  rcases Nat.lt_trichotomy k (q + 1) with hbelow | hnext | habove
  · -- no rounding leads below the quotient
    have hmono : k * d ≤ q * d := Nat.mul_le_mul_right d (by omega)
    split
    · omega
    · omega
  · -- the one case in which the rest decides
    subst hnext
    have hstep : (q + 1) * d = q * d + d := Nat.succ_mul q d
    split
    · omega
    · omega
  · -- no rounding leads two above the quotient
    have hmono : (q + 2) * d ≤ k * d := Nat.mul_le_mul_right d (by omega)
    have hstep : (q + 2) * d = q * d + 2 * d := Nat.add_mul q 2 d
    split
    · omega
    · omega

/-- For an even number the tie counts. -/
theorem le_roundHalfEven_iff_of_even {n d k : ℕ} (hd : 0 < d) (hk : k % 2 = 0) :
    k ≤ roundHalfEven n d ↔ 2 * (k * d) ≤ 2 * n + d := by
  rw [le_roundHalfEven_iff hd]
  omega

/-- With the denominator one there is nothing to round. -/
@[simp]
theorem roundHalfEven_one (n : ℕ) : roundHalfEven n 1 = n := by
  refine eq_of_forall_le_iff fun k => ?_
  rw [le_roundHalfEven_iff Nat.one_pos]
  omega

/-! ## What fits -/

/-- Whether a number that is rounded to so many places has a coefficient within the bound. -/
def Fits (x : ℚ) (places : ℕ) : Prop := x * 10 ^ places < coefficientBound - 1 / 2

/-- With fewer places there is more room. -/
theorem Fits.of_places_le {x : ℚ} {m n : ℕ} (h : Fits x n) (hx : 0 ≤ x) (hmn : m ≤ n) :
    Fits x m := by
  have hpow : (10 : ℚ) ^ m ≤ 10 ^ n := pow_le_pow_right₀ (by norm_num) hmn
  exact lt_of_le_of_lt (mul_le_mul_of_nonneg_left hpow hx) h

/-- A smaller number has more room. -/
theorem Fits.of_le {x y : ℚ} {n : ℕ} (h : Fits y n) (hxy : x ≤ y) : Fits x n := by
  have hpow : (0 : ℚ) ≤ 10 ^ n := by positivity
  exact lt_of_le_of_lt (mul_le_mul_of_nonneg_right hxy hpow) h

/-- Dropping digits leaves a coefficient that fits exactly if the places that are left fit. -/
theorem roundHalfEven_lt_iff_fits {p s dropped : ℕ} (h : dropped ≤ s) :
    roundHalfEven p (10 ^ dropped) < coefficientBound
      ↔ Fits (p / 10 ^ s) (s - dropped) := by
  have hpos : 0 < 10 ^ dropped := by positivity
  have hscale : (p : ℚ) / 10 ^ s * 10 ^ (s - dropped) = p / 10 ^ dropped := by
    have hpow : (10 : ℚ) ^ s = 10 ^ (s - dropped) * 10 ^ dropped := by
      rw [← pow_add, Nat.sub_add_cancel h]
    rw [hpow]
    field_simp
  have hbound : coefficientBound % 2 = 0 := by decide
  rw [← not_le, le_roundHalfEven_iff_of_even hpos hbound, not_le]
  unfold Fits
  rw [hscale, div_lt_iff₀ (by positivity : (0 : ℚ) < 10 ^ dropped), ← Nat.cast_lt (α := ℚ)]
  push_cast
  constructor
  · intro h
    linarith
  · intro h
    linarith

/-! ## Fractions that are made to fit -/

/-- What a decimal has to do with a fraction that was made to fit: it has as many of the places
as fit, and the last one is rounded. -/
structure Rounds (p s : ℕ) (d : Decimal) : Prop where
  scale_le : d.scale ≤ s
  fits : Fits (p / 10 ^ s) d.scale
  most : ∀ places ≤ s, Fits (p / 10 ^ s) places → places ≤ d.scale
  isNegative : d.isNegative = false
  magnitude : d.magnitude = roundHalfEven p (10 ^ (s - d.scale))

variable {p s : ℕ} {d : Decimal}

/-- A decimal has no more places than the bound on the scale allows, so only the coefficient
decides whether enough digits have been dropped. -/
theorem surplus_iff (hs : s ≤ maxScale) {dropped : ℕ} (h : dropped ≤ s) :
    (decide (s ≤ dropped + maxScale)
        && decide (roundHalfEven p (Nat.pow 10 dropped) < coefficientBound)) = true
      ↔ Fits (p / 10 ^ s) (s - dropped) := by
  rw [← roundHalfEven_lt_iff_fits h, Bool.and_eq_true, decide_eq_true_eq, decide_eq_true_eq]
  exact and_iff_right (by omega)

/-- A fraction is made to fit as soon as its whole units fit. -/
theorem fitting?_cases (hs : s ≤ maxScale) :
    (∃ d, fitting? false p s = some d ∧ Rounds p s d) ∨
      (fitting? false p s = none ∧ ¬ Fits (p / 10 ^ s) 0) := by
  rcases hsurplus : surplusDigits? p s with _ | dropped
  · -- not even dropping all of the places helps
    refine .inr ⟨by unfold fitting?; rw [hsurplus]; rfl, fun hfits => ?_⟩
    have hnone := List.find?_eq_none.mp hsurplus s (List.mem_range.mpr (by omega))
    rw [surplus_iff hs le_rfl, Nat.sub_self] at hnone
    exact hnone hfits
  · obtain ⟨henough, hmem, hfewer⟩ := List.find?_range_eq_some.mp hsurplus
    have hle : dropped ≤ s := Nat.lt_succ_iff.mp (List.mem_range.mp hmem)
    have hfits := (surplus_iff hs hle).mp henough
    have hbounds : roundHalfEven p (10 ^ dropped) < coefficientBound ∧ s - dropped ≤ maxScale :=
      ⟨(roundHalfEven_lt_iff_fits hle).mpr hfits, by omega⟩
    refine .inl ⟨⟨false, roundHalfEven p (10 ^ dropped), s - dropped, hbounds.1, hbounds.2⟩,
      ?_, ?_⟩
    · unfold fitting?
      rw [hsurplus]
      exact dif_pos hbounds
    · refine ⟨Nat.sub_le s dropped, hfits, fun places hplaces hfit => ?_, rfl, ?_⟩
      · -- fewer digits would have been dropped
        by_contra hmore
        have hearlier := hfewer (s - places) (by simp only at hmore; omega)
        rw [Bool.not_eq_true', Bool.eq_false_iff] at hearlier
        refine hearlier ((surplus_iff hs (Nat.sub_le s places)).mpr ?_)
        rw [Nat.sub_sub_self hplaces]
        exact hfit
      · simp only [Nat.sub_sub_self hle]

/-- A whole number is reached exactly if half of the last place kept is enough to reach it. -/
theorem natCast_le_value_iff_of_rounds (h : Rounds p s d) (hplaces : d.scale ≠ 0 ∨ d.scale = s)
    (n : ℕ) : (n : ℚ) ≤ d.value ↔ (n : ℚ) ≤ p / 10 ^ s + 1 / (2 * 10 ^ d.scale) := by
  have hkept : (0 : ℚ) < 10 ^ d.scale := by positivity
  have hdropped : 0 < 10 ^ (s - d.scale) := by positivity
  have hsplit : (10 : ℚ) ^ s = 10 ^ d.scale * 10 ^ (s - d.scale) := by
    rw [← pow_add, Nat.add_sub_cancel' h.scale_le]
  have hround : n * 10 ^ d.scale ≤ roundHalfEven p (10 ^ (s - d.scale))
      ↔ 2 * (n * 10 ^ d.scale * 10 ^ (s - d.scale)) ≤ 2 * p + 10 ^ (s - d.scale) := by
    rcases hplaces with hsome | hall
    · -- a whole number is an even multiple of the last place
      refine le_roundHalfEven_iff_of_even hdropped ?_
      obtain ⟨k, hk⟩ := Nat.exists_eq_succ_of_ne_zero hsome
      have heven : n * 10 ^ d.scale = 2 * (n * 10 ^ k * 5) := by
        rw [hk, pow_succ]
        ring
      omega
    · -- where nothing is dropped there is no tie
      rw [hall, Nat.sub_self, pow_zero, roundHalfEven_one]
      omega
  rw [value_of_isNegative_eq_false h.isNegative, h.magnitude, le_div_iff₀ hkept]
  calc (n : ℚ) * 10 ^ d.scale ≤ roundHalfEven p (10 ^ (s - d.scale))
      ↔ n * 10 ^ d.scale ≤ roundHalfEven p (10 ^ (s - d.scale)) := by
        exact_mod_cast Iff.rfl
    _ ↔ 2 * (n * 10 ^ d.scale * 10 ^ (s - d.scale)) ≤ 2 * p + 10 ^ (s - d.scale) := hround
    _ ↔ (2 : ℚ) * (n * 10 ^ d.scale * 10 ^ (s - d.scale)) ≤ 2 * p + 10 ^ (s - d.scale) := by
        exact_mod_cast Iff.rfl
    _ ↔ (n : ℚ) ≤ p / 10 ^ s + 1 / (2 * 10 ^ d.scale) := by
        have hlast : (p : ℚ) / 10 ^ s + 1 / (2 * 10 ^ d.scale)
            = (2 * p + 10 ^ (s - d.scale)) / (2 * 10 ^ s) := by
          rw [hsplit]
          field_simp
        rw [hlast, le_div_iff₀ (by positivity), hsplit]
        constructor
        · intro h
          linarith
        · intro h
          linarith

/-- A fraction of which no digit is dropped stays what it is. -/
theorem value_of_rounds (h : Rounds p s d) (hall : d.scale = s) : d.value = p / 10 ^ s := by
  rw [value_of_isNegative_eq_false h.isNegative, h.magnitude, hall, Nat.sub_self, pow_zero,
    roundHalfEven_one]

/-- Rounding never leads below a whole number. -/
theorem floor_le_floor_of_rounds (h : Rounds p s d) : ⌊(p : ℚ) / 10 ^ s⌋ ≤ d.floor := by
  have hkept : (0 : ℚ) < 10 ^ d.scale := by positivity
  have hdropped : 0 < 10 ^ (s - d.scale) := by positivity
  have hpow : (0 : ℚ) < 10 ^ s := by positivity
  obtain ⟨n, hn⟩ : ∃ n : ℕ, ⌊(p : ℚ) / 10 ^ s⌋ = n :=
    Int.eq_ofNat_of_zero_le (Int.floor_nonneg.mpr (by positivity))
  have hle : n * 10 ^ s ≤ p := by
    have hfloor := Int.floor_le ((p : ℚ) / 10 ^ s)
    rw [hn, le_div_iff₀ hpow] at hfloor
    exact_mod_cast hfloor
  have hsplit : n * 10 ^ d.scale * 10 ^ (s - d.scale) = n * 10 ^ s := by
    rw [mul_assoc, ← pow_add, Nat.add_sub_cancel' h.scale_le]
  have hround : n * 10 ^ d.scale ≤ roundHalfEven p (10 ^ (s - d.scale)) :=
    (le_roundHalfEven_iff hdropped).mpr (.inl (by omega))
  rw [hn, floor_eq_floor_value, Int.le_floor, value_of_isNegative_eq_false h.isNegative,
    h.magnitude, le_div_iff₀ hkept]
  exact_mod_cast hround

/-- The whole units of what a fraction is rounded to are those of the fraction and half of the
last place kept. -/
theorem floor_of_rounds (h : Rounds p s d) (hplaces : d.scale ≠ 0 ∨ d.scale = s) :
    d.floor = ⌊(p : ℚ) / 10 ^ s + 1 / (2 * 10 ^ d.scale)⌋ := by
  rw [floor_eq_floor_value]
  refine eq_of_forall_le_iff fun z => ?_
  rw [Int.le_floor, Int.le_floor]
  rcases le_or_gt 0 z with hz | hz
  · obtain ⟨n, rfl⟩ := Int.eq_ofNat_of_zero_le hz
    exact natCast_le_value_iff_of_rounds h hplaces n
  · -- neither number is below zero
    have hneg : (z : ℚ) ≤ 0 := by exact_mod_cast hz.le
    have hvalue : 0 ≤ d.value := by
      rw [value_of_isNegative_eq_false h.isNegative]
      positivity
    have hsum : (0 : ℚ) ≤ p / 10 ^ s + 1 / (2 * 10 ^ d.scale) := by positivity
    exact iff_of_true (hneg.trans hvalue) (hneg.trans hsum)

end CountingHouse.Decimal
