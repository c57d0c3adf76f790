/-
The inverse of a number below one.

The inverse as a decimal has 28 places at most and 96 bits for its coefficient, so it is rounded
to its last place, and rounding could lead down to a whole number that lies below the exact
inverse. It never does. The number is a whole multiple of its own last place, so an inverse that
lies above a whole number lies above it by at least one part in the coefficient, and the inverse
is kept with so many places that this is more than half of the last of them
(`magnitude_lt_of_scale`). Hence the rounded inverse reaches above a whole number exactly if the
exact one does (`roundHalfEven_mul_le_iff`), and rounded up to whole numbers they are the same
(`ceil_of_div?_one`).
-/
import CountingHouse.Proofs.Decimal.Rounding

set_option autoImplicit false

namespace CountingHouse.Decimal

variable {d inverse : Decimal}

/-! ## The number and its parts -/

/-- Rounding up to an integer is that of the number, also below zero. -/
theorem ceil_eq_ceil_value (d : Decimal) : d.ceil = ⌈d.value⌉ := by
  have hpow : ((10 : ℚ) ^ d.scale) = ((10 ^ d.scale : ℕ) : ℚ) := by push_cast; rfl
  have hfloor : Int.fdiv (-d.coefficient) (Nat.pow 10 d.scale) = ⌊-d.value⌋ := by
    unfold value
    rw [hpow, ← neg_div, ← Int.cast_neg, Rat.floor_intCast_div_natCast,
      Int.fdiv_eq_ediv_of_nonneg]
    · rfl
    · exact Int.natCast_nonneg _
  unfold ceil
  rw [hfloor, Int.floor_neg, neg_neg]

/-- The test for at least one is the comparison of the number. -/
theorem isAtLeastOne_iff (d : Decimal) : d.isAtLeastOne = true ↔ 1 ≤ d.value := by
  have hpow : (0 : ℚ) < 10 ^ d.scale := by positivity
  unfold isAtLeastOne value
  rw [decide_eq_true_eq, le_div_iff₀ hpow, one_mul]
  norm_cast

/-- A number below one has a coefficient below the power of its scale. -/
theorem magnitude_lt_pow (hd : d.isPositive = true) (hbelow : d.value < 1) :
    d.magnitude < 10 ^ d.scale := by
  have hpow : (0 : ℚ) < 10 ^ d.scale := by positivity
  rw [value_of_isNegative_eq_false (sign_of_isPositive hd).1, div_lt_one hpow] at hbelow
  exact_mod_cast hbelow

/-- There are 28 places at most. -/
theorem pow_scale_le (d : Decimal) : 10 ^ d.scale ≤ 10 ^ 28 :=
  Nat.pow_le_pow_right (by decide) d.scale_le

/-! ## Places enough -/

/-- The first match from the end of a range is the greatest one. -/
theorem find?_reverse_range_eq_some_iff {p : ℕ → Bool} {n k : ℕ} :
    (List.range n).reverse.find? p = some k ↔ IsGreatest {j | j < n ∧ p j = true} k := by
  induction n with
  | zero => simp [IsGreatest]
  | succ n ih =>
    rw [List.range_succ, List.reverse_append, List.reverse_singleton, List.singleton_append]
    by_cases hn : p n = true
    · -- the last one is a match, and no other is as great
      rw [List.find?_cons_of_pos hn]
      constructor
      · intro hlast
        rw [← Option.some.inj hlast]
        exact ⟨⟨Nat.lt_succ_self n, hn⟩, fun j hj => Nat.lt_succ_iff.mp hj.1⟩
      · rintro ⟨⟨hk, -⟩, hgreatest⟩
        have hle : n ≤ k := hgreatest ⟨Nat.lt_succ_self n, hn⟩
        rw [show k = n by omega]
    · have hsame : {j | j < n + 1 ∧ p j = true} = {j | j < n ∧ p j = true} := by
        ext j
        simp only [Set.mem_ofPred_eq]
        constructor
        · rintro ⟨hj, hp⟩
          have hne : j ≠ n := by
            rintro rfl
            exact hn hp
          exact ⟨by omega, hp⟩
        · rintro ⟨hj, hp⟩
          exact ⟨by omega, hp⟩
      rw [List.find?_cons_of_neg hn, ih, hsame]

/-- A quotient that is rounded on a grid which is fine for its divisor is above a whole number
exactly if the quotient is. -/
theorem roundHalfEven_mul_le_iff {n t m z : ℕ} (hm : 0 < m) (hfine : m < 2 * t) :
    roundHalfEven (n * t) m ≤ z * t ↔ n ≤ z * m := by
  have hgrid : (z * t + 1) * m = z * m * t + m := by ring
  rw [← not_lt, ← Nat.succ_le_iff, Nat.succ_eq_add_one, le_roundHalfEven_iff hm, hgrid]
  by_cases hle : n ≤ z * m
  · have hscaled : n * t ≤ z * m * t := Nat.mul_le_mul_right t hle
    exact iff_of_true (by omega) hle
  · -- the quotient is above by one part in its divisor at least, and a half is less than that
    have hscaled : (z * m + 1) * t ≤ n * t := Nat.mul_le_mul_right t (by omega)
    have hstep : (z * m + 1) * t = z * m * t + t := by ring
    exact iff_of_false (by omega) hle

/-- The inverse is kept with places enough for a number with such a coefficient. -/
theorem magnitude_lt_of_scale {m s k : ℕ} (hm : m < 10 ^ s) (hs : 10 ^ s ≤ 10 ^ 28)
    (hk : k = maxScale ∨ coefficientBound ≤ roundHalfEven (10 ^ (s + (k + 1))) m) :
    m < 2 * 10 ^ k := by
  rcases Nat.eq_zero_or_pos m with rfl | hpos
  · positivity
  · rcases hk with rfl | hlarge
    · unfold maxScale
      omega
    · -- one more place would have made the coefficient too large
      have hbound : coefficientBound % 2 = 0 := by decide
      rw [le_roundHalfEven_iff_of_even hpos hbound] at hlarge
      have hvalue : coefficientBound = 79228162514264337593543950336 := by decide
      have hpow : 10 ^ (s + (k + 1)) = 10 ^ s * 10 ^ k * 10 := by ring
      have hgrid : 10 ^ s * 10 ^ k ≤ 10 ^ 28 * 10 ^ k := Nat.mul_le_mul_right _ hs
      rw [hvalue, hpow] at hlarge
      generalize 10 ^ s * 10 ^ k = product at hlarge hgrid
      generalize 10 ^ k = t at hgrid ⊢
      omega

/-! ## The inverse -/

/-- A number below one has an inverse, which is rounded in its last place, and the last place is
fine for its coefficient. -/
theorem exists_div?_one (hd : d.isPositive = true) (hbelow : d.value < 1) :
    ∃ inverse, div? one d = some inverse ∧ inverse.isNegative = false ∧
      inverse.magnitude = roundHalfEven (10 ^ d.scale * 10 ^ inverse.scale) d.magnitude ∧
      d.magnitude < 2 * 10 ^ inverse.scale := by
  obtain ⟨hsign, hmagnitude⟩ := sign_of_isPositive hd
  have hquotient : ∀ k, quotientAt one d k
      = roundHalfEven (10 ^ (d.scale + k)) d.magnitude := by
    intro k
    show roundHalfEven (1 * 10 ^ (d.scale + k)) (d.magnitude * 10 ^ 0) = _
    rw [one_mul, pow_zero, mul_one]
  -- without places it fits in any case
  have hwhole : quotientAt one d 0 < coefficientBound := by
    have hbound : coefficientBound % 2 = 0 := by decide
    have hvalue : coefficientBound = 79228162514264337593543950336 := by decide
    have hpow := d.pow_scale_le
    rw [hquotient, Nat.add_zero, ← not_le, le_roundHalfEven_iff_of_even hmagnitude hbound, hvalue]
    omega
  obtain ⟨k, hk⟩ : ∃ k, ((List.range (maxScale + 1)).reverse.find? fun scale =>
      quotientAt one d scale < coefficientBound) = some k := by
    rw [← Option.isSome_iff_exists, List.find?_isSome]
    exact ⟨0, by simp, by simpa using hwhole⟩
  obtain ⟨⟨hle, hfits⟩, hgreatest⟩ := find?_reverse_range_eq_some_iff.mp hk
  have hbounds : quotientAt one d k < coefficientBound ∧ k ≤ maxScale :=
    ⟨by simpa using hfits, Nat.lt_succ_iff.mp hle⟩
  refine ⟨⟨false, quotientAt one d k, k, hbounds.1, hbounds.2⟩, ?_, rfl, ?_, ?_⟩
  · unfold div?
    rw [if_neg hmagnitude.ne', hk, hsign]
    exact dif_pos hbounds
  · show quotientAt one d k = roundHalfEven (10 ^ d.scale * 10 ^ k) d.magnitude
    rw [hquotient, pow_add]
  · refine magnitude_lt_of_scale (magnitude_lt_pow hd hbelow) d.pow_scale_le ?_
    by_cases hlast : k = maxScale
    · exact .inl hlast
    · refine .inr ?_
      rw [← hquotient, ← not_lt]
      intro hmore
      have hnext : k + 1 ≤ k := hgreatest ⟨by omega, by simpa using hmore⟩
      omega

/-- The inverse as a decimal and the exact inverse are rounded up to the same number. -/
theorem ceil_of_div?_one (hd : d.isPositive = true) (hbelow : d.value < 1)
    (h : div? one d = some inverse) : inverse.ceil = ⌈d.value⁻¹⌉ := by
  obtain ⟨found, hfound, hsign, hmagnitude, hfine⟩ := exists_div?_one hd hbelow
  obtain rfl : found = inverse := Option.some.inj (hfound.symm.trans h)
  have hcoefficient := (sign_of_isPositive hd).2
  have hvalue := value_of_isNegative_eq_false (sign_of_isPositive hd).1
  have hinverse := value_of_isNegative_eq_false hsign
  have hunit : (0 : ℚ) < 10 ^ found.scale := by positivity
  have hexact : (0 : ℚ) < d.magnitude := by exact_mod_cast hcoefficient
  rw [ceil_eq_ceil_value]
  refine eq_of_forall_ge_iff fun z => ?_
  rw [Int.ceil_le, Int.ceil_le, hinverse, hvalue, inv_div]
  rcases le_or_gt 0 z with hz | hz
  · obtain ⟨n, rfl⟩ := Int.eq_ofNat_of_zero_le hz
    rw [div_le_iff₀ hunit, div_le_iff₀ hexact, hmagnitude]
    exact_mod_cast roundHalfEven_mul_le_iff hcoefficient hfine
  · -- neither of them is below zero
    have hneg : (z : ℚ) < 0 := by exact_mod_cast hz
    have hleft : (0 : ℚ) ≤ found.magnitude / 10 ^ found.scale := by positivity
    have hright : (0 : ℚ) ≤ 10 ^ d.scale / d.magnitude := by positivity
    exact iff_of_false (by linarith) (by linarith)

end CountingHouse.Decimal
