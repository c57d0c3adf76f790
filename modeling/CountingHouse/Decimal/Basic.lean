/-
Decimal numbers with a bounded coefficient.

A decimal is a sign and `magnitude / 10 ^ scale`. The magnitude fits 96 bits and
the scale is at most 28; both bounds belong to the type, so whoever builds a
decimal from a result has to say why it fits. The scale is part of the value that
is stored and written (`1.50` is not written `1.5`), and so is the sign of a zero;
comparison looks at the number alone, which is `coefficient / 10 ^ scale` with
the signed coefficient.
-/

set_option autoImplicit false

namespace CountingHouse

/-- The first coefficient that is too large: 96 bits. -/
def Decimal.coefficientBound : Nat := 1 <<< 96

def Decimal.maxScale : Nat := 28

/-- The number `magnitude / 10 ^ scale` with a sign. -/
structure Decimal where
  isNegative : Bool
  magnitude : Nat
  scale : Nat
  magnitude_lt : magnitude < Decimal.coefficientBound
  scale_le : scale ≤ Decimal.maxScale
  deriving DecidableEq

namespace Decimal

/-! ## Building -/

/-- The decimal with the given parts, if they are within bounds. -/
def ofMagnitude? (isNegative : Bool) (magnitude scale : Nat) : Option Decimal :=
  if h : magnitude < coefficientBound ∧ scale ≤ maxScale then
    some ⟨isNegative, magnitude, scale, h.1, h.2⟩
  else none

/-- The decimal of a sign and a magnitude, if it is within bounds. A zero loses its sign. -/
def ofSigned? (isNegative : Bool) (magnitude scale : Nat) : Option Decimal :=
  ofMagnitude? (isNegative && magnitude != 0) magnitude scale

/-- The decimal of a signed coefficient, if it is within bounds. -/
def ofParts? (coefficient : Int) (scale : Nat) : Option Decimal :=
  ofSigned? (coefficient < 0) coefficient.natAbs scale

def zero : Decimal := ⟨false, 0, 0, by decide, by decide⟩

def one : Decimal := ⟨false, 1, 0, by decide, by decide⟩

instance : Inhabited Decimal := ⟨zero⟩

instance : Repr Decimal where
  reprPrec d _ := (if d.isNegative then "-" else "") ++ repr d.magnitude ++ "e-" ++ repr d.scale

/-! ## Looking at the number -/

/-- The magnitude with the sign. -/
def coefficient (d : Decimal) : Int := if d.isNegative then -(d.magnitude : Int) else d.magnitude

def isPositive (d : Decimal) : Bool := 0 < d.coefficient

def isAtLeastOne (d : Decimal) : Bool := (Nat.pow 10 d.scale) ≤ d.coefficient

/-- The greatest integer that is not above the number. -/
def floor (d : Decimal) : Int := Int.fdiv d.coefficient (Nat.pow 10 d.scale)

/-- The least integer that is not below the number. -/
def ceil (d : Decimal) : Int := -Int.fdiv (-d.coefficient) (Nat.pow 10 d.scale)

/-- What `ofMagnitude?` builds has the parts it was given. -/
theorem ofMagnitude?_eq_some {isNegative : Bool} {magnitude scale : Nat} {d : Decimal}
    (h : ofMagnitude? isNegative magnitude scale = some d) :
    d.isNegative = isNegative ∧ d.magnitude = magnitude ∧ d.scale = scale := by
  unfold ofMagnitude? at h
  split at h
  · cases h
    exact ⟨rfl, rfl, rfl⟩
  · cases h

/-- What `ofParts?` builds has the parts it was given. -/
theorem ofParts?_eq_some {coefficient : Int} {scale : Nat} {d : Decimal}
    (h : ofParts? coefficient scale = some d) : d.coefficient = coefficient ∧ d.scale = scale := by
  obtain ⟨hsign, hmagnitude, hscale⟩ := ofMagnitude?_eq_some h
  refine ⟨?_, hscale⟩
  unfold Decimal.coefficient
  rw [hsign, hmagnitude]
  by_cases hneg : coefficient < 0
  · -- a negative coefficient is not zero, so the sign is kept
    have hne : coefficient.natAbs ≠ 0 := by omega
    rw [if_pos (by simp only [hneg, decide_true, Bool.true_and, bne_iff_ne]; exact hne)]
    omega
  · rw [if_neg (by simp only [hneg, decide_false, Bool.false_and]; exact Bool.false_ne_true)]
    omega

end Decimal

end CountingHouse
