/-
Products and quotients of decimals.

The exact product of two decimals has a coefficient of up to 192 bits and a
scale of up to 56, so it may not fit. Then digits are dropped at the end, as few
as make it fit, and the last digit kept is rounded to the nearest, a tie going to
the even neighbour; the rounding looks at the exact product once and never
twice. A quotient is treated the same way from the other side: it gets as many
digits as fit. What cannot be made to fit by dropping digits behind the point is
no result at all.
-/
import CountingHouse.Decimal.Basic

set_option autoImplicit false

namespace CountingHouse.Decimal

/-! ## Rounding -/

/-- The quotient of two natural numbers rounded to the nearest, ties to even. -/
def roundHalfEven (n d : Nat) : Nat :=
  let q := n / d
  let r := n % d
  if d < 2 * r ∨ (2 * r = d ∧ q % 2 = 1) then q + 1 else q

/-- The least number of digits to drop from `magnitude / 10 ^ scale` so that both the scale
and the rounded coefficient are within bounds. -/
def surplusDigits? (magnitude scale : Nat) : Option Nat :=
  (List.range (scale + 1)).find? fun dropped =>
    scale ≤ dropped + maxScale && roundHalfEven magnitude (Nat.pow 10 dropped) < coefficientBound

/-- The decimal closest to `magnitude / 10 ^ scale` with that sign, if there is one. -/
def fitting? (negative : Bool) (magnitude scale : Nat) : Option Decimal := do
  let dropped ← surplusDigits? magnitude scale
  ofSigned? negative (roundHalfEven magnitude (Nat.pow 10 dropped)) (scale - dropped)

/-! ## Products -/

/-- The product of two decimals; `none` if it is too large. Two coefficients of at most 32
bits whose scales add up to more than 47 give zero outright. -/
def mul? (x y : Decimal) : Option Decimal :=
  if x.magnitude = 0 ∨ y.magnitude = 0 then some zero
  else if x.magnitude < 1 <<< 32 ∧ y.magnitude < 1 <<< 32 ∧ 47 < x.scale + y.scale then some zero
  else
    fitting? (x.isNegative != y.isNegative) (x.magnitude * y.magnitude)
      (x.scale + y.scale)

/-! ## Quotients -/

/-- The coefficient of the quotient at a given scale, rounded. -/
def quotientAt (x y : Decimal) (scale : Nat) : Nat :=
  roundHalfEven (x.magnitude * Nat.pow 10 (y.scale + scale)) (y.magnitude * Nat.pow 10 x.scale)

/-- The quotient of two decimals at the largest scale at which it fits; `none` if the divisor
is zero or the quotient is too large. -/
def div? (x y : Decimal) : Option Decimal :=
  if y.magnitude = 0 then none
  else do
    let scale ← (List.range (maxScale + 1)).reverse.find? fun scale =>
      quotientAt x y scale < coefficientBound
    ofSigned? (x.isNegative != y.isNegative) (quotientAt x y scale) scale

example : (do let third ← div? one (← ofParts? 3 0); return third.coefficient)
    = some 3333333333333333333333333333 := by decide +kernel

end CountingHouse.Decimal
