/-
Binary floating point in exact arithmetic.

A finite number of the 64-bit format that is not negative is `mantissa · 2 ^ exponent`
with a mantissa below 2^53 and an exponent of at least -1074. Arithmetic is
defined by what it has to give: take the exact result as a quotient of natural
numbers and round it to the nearest number of the format, ties to the even
mantissa; a result beyond the largest finite number is none.

The shortest decimal of a number is the one with the fewest digits among those
that round to it, and the nearest of these where several have that many, the
greater of two that are equally near. The numbers that round to `m · 2 ^ e` form
an interval reaching half a unit to each side (a quarter below, where the mantissa
is the least of its binade), whose ends count when the mantissa is even. On the
grid of decimals with k digits only the two neighbours of the number itself have
to be tried, because the interval contains the number.
-/
import CountingHouse.Decimal.Arithmetic
import CountingHouse.Text.Numeral

set_option autoImplicit false

namespace CountingHouse

open Decimal Text

/-- The number `mantissa · 2 ^ exponent`. -/
structure Binary64 where
  mantissa : Nat
  exponent : Int
  deriving DecidableEq, Repr

namespace Binary64

/-! ## Rounding to the format -/

def leastExponent : Int := -1074

def greatestExponent : Int := 971

/-- `n / d` measured in units of `2 ^ exponent`, as a quotient of natural numbers. -/
def inUnits (n d : Nat) (exponent : Int) : Nat × Nat :=
  if 0 ≤ exponent then (n, d * Nat.pow 2 exponent.toNat) else (n * Nat.pow 2 (-exponent).toNat, d)

/-- The exponent at which the mantissa of `n / d` has 53 bits, or the least exponent. -/
def exponentOf (n d : Nat) : Int :=
  let guess : Int := max leastExponent ((n.log2 : Int) - d.log2 - 53)
  let (a, b) := inUnits n d guess
  if a / b < 1 <<< 53 then guess else guess + 1

/-- The number of the format nearest to `n / d`; `none` beyond the largest finite one. -/
def round? (n d : Nat) : Option Binary64 :=
  let exponent := exponentOf n d
  let (a, b) := inUnits n d exponent
  let mantissa := roundHalfEven a b
  -- rounding up may need one more bit, and then the mantissa is even
  let rounded : Binary64 :=
    if mantissa < 1 <<< 53 then ⟨mantissa, exponent⟩ else ⟨mantissa / 2, exponent + 1⟩
  if rounded.exponent ≤ greatestExponent then some rounded else none

/-- The number as a quotient of natural numbers. -/
def ratio (x : Binary64) : Nat × Nat :=
  if 0 ≤ x.exponent then (x.mantissa * Nat.pow 2 x.exponent.toNat, 1)
  else (x.mantissa, Nat.pow 2 (-x.exponent).toNat)

/-! ## Arithmetic -/

def mul? (x y : Binary64) : Option Binary64 :=
  round? (x.ratio.1 * y.ratio.1) (x.ratio.2 * y.ratio.2)

def div? (x y : Binary64) : Option Binary64 :=
  round? (x.ratio.1 * y.ratio.2) (x.ratio.2 * y.ratio.1)

def powerOfTen? (power : Nat) : Option Binary64 := round? (Nat.pow 10 power) 1

/-- The largest power of ten that is looked up as one number. -/
def tablePower : Nat := 308

/-- `x` times a power of ten, rounding after each factor: one factor for a power within the
table, and division by the table's last entry until it is within. Dividing three times
leaves nothing, so the bound is not reached. -/
def scaled? : Nat → Binary64 → Int → Option Binary64
  | 0, x, _ => some x
  | bound + 1, x, power =>
    if power.natAbs ≤ tablePower then do
      let factor ← powerOfTen? power.natAbs
      if 0 ≤ power then mul? x factor else div? x factor
    else if x.mantissa = 0 then some x
    else if 0 ≤ power then none
    else do
      let rest ← div? x (← powerOfTen? tablePower)
      scaled? bound rest (power + tablePower)

/-- `significand · 10 ^ power` as the format's arithmetic gives it. -/
def ofScientific? (significand : Nat) (power : Int) : Option Binary64 := do
  scaled? 8 (← round? significand 1) power

/-! ## The shortest decimal -/

/-- Whether the quotient `n / d` rounds to the number, whose mantissa is not zero. -/
def rounds (x : Binary64) (n d : Nat) : Bool :=
  let (a, b) := inUnits n d (x.exponent - 2)
  -- quarters of a unit, because below a power of two the next number is half as far away
  let center := 4 * x.mantissa
  let below := if x.mantissa = 1 <<< 52 ∧ leastExponent < x.exponent then center - 1 else center - 2
  let above := center + 2
  if x.mantissa % 2 = 0 then below * b ≤ a && a ≤ above * b
  else below * b < a && a < above * b

/-- The position of the point: the power of ten just above `n / d`, which is positive. -/
def pointPosition (n d : Nat) : Int :=
  if d ≤ n then (natNumeral (n / d)).length
  else
    match (List.range 400).find? fun zeros => d ≤ n * Nat.pow 10 (zeros + 1) with
    | some zeros => -(zeros : Int)
    | none => 0

/-- `n / d` measured in units of a power of ten. -/
def inTens (n d : Nat) (power : Int) : Nat × Nat :=
  if 0 ≤ power then (n, d * Nat.pow 10 power.toNat) else (n * Nat.pow 10 (-power).toNat, d)

/-- The neighbour of the number on the grid of multiples of `10 ^ power` that rounds to it,
the nearer one if both do, and of two that are equally near the upper one. -/
def onGrid? (x : Binary64) (power : Int) : Option Nat :=
  let (n, d) := x.ratio
  let (a, b) := inTens n d power
  let lower := a / b
  let fits := fun k : Nat =>
    if 0 ≤ power then rounds x (k * Nat.pow 10 power.toNat) 1 else rounds x k (Nat.pow 10 (-power).toNat)
  match fits lower, fits (lower + 1) with
  | true, true => some (if 2 * (a % b) < b then lower else lower + 1)
  | true, false => some lower
  | false, true => some (lower + 1)
  | false, false => none

/-- The shortest decimal that rounds to the number, as digits and a power of ten. Seventeen
digits are always enough. -/
def shortest (x : Binary64) : Nat × Int :=
  if x.mantissa = 0 then (0, 0)
  else
    let (n, d) := x.ratio
    let point := pointPosition n d
    match (List.range 17).findSome? fun k : Nat =>
        let power : Int := point - (k + 1 : Nat)
        (onGrid? x power).map fun digits => (digits, power) with
    | some found => found
    | none => (0, 0)

def writeShortest (x : Binary64) : List Char :=
  let (digits, power) := shortest x
  if 0 ≤ power then natNumeral (digits * Nat.pow 10 power.toNat)
  else
    let places := (-power).toNat
    let fraction := padded places (digits % Nat.pow 10 places)
    let kept := (fraction.reverse.dropWhile (· = '0')).reverse
    natNumeral (digits / Nat.pow 10 places) ++ (if kept.isEmpty then [] else '.' :: kept)

end Binary64

end CountingHouse
