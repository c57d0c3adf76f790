/-
The written forms of decimals.

Writing gives plain notation: the whole part, and behind a point exactly as many
digits as the scale says. Reading plain notation is wider: an optional sign,
underscores behind a first digit, a point with digits on at least one side of
it, and any number of digits behind the point. Digits that the magnitude or
the scale has no room for are cut off; `decidingDigit` says which of them decides
whether the last digit kept is raised (5 and above: up). A whole part that does
not fit is refused. A zero that is read has no sign.

Scientific notation is a plain form, an `e` and an exponent of at most 28. A
negative exponent and one not above the scale only move the point; where it would
move too far to the left, digits are rounded away, a half going up, and the sign
stays even if nothing else does. A larger exponent multiplies.
-/
import CountingHouse.Decimal.Arithmetic
import CountingHouse.Text.Numeral

set_option autoImplicit false

namespace CountingHouse.Decimal

open Text

/-! ## Writing -/

/-- The digits of `magnitude / 10 ^ scale`, with a point in front of the last `scale` of
them. -/
def writePlain (magnitude scale : Nat) : List Char :=
  if scale = 0 then natNumeral magnitude
  else natNumeral (magnitude / Nat.pow 10 scale) ++ '.' :: padded scale (magnitude % Nat.pow 10 scale)

def write (d : Decimal) : List Char :=
  (if d.isNegative then ['-'] else []) ++ writePlain d.magnitude d.scale

def toText (d : Decimal) : String := String.ofList (write d)

/-! ## Reading plain notation -/

/-- Whether a character may stand among digits: it is one, or an underscore. -/
def isFiller (c : Char) : Bool := c.isDigit || c = '_'

/-- The least magnitude that is long: one more digit may take it beyond 64 bits, with a byte
to spare. -/
def longMagnitude : Nat := ((1 <<< 64) - 1) / 10 - 255

/-- The digit that decides about the rounding of a magnitude in front of digits and
underscores. It is the first digit; but behind a magnitude that was not long before its last
digit only the first character counts, and an underscore there stands for a zero. -/
def decidingDigit (magnitude : Nat) (behind : List Char) : Nat :=
  let seen := if magnitude / 10 < longMagnitude then behind.take 1 else behind
  (seen.findSome? digitValue?).getD 0

/-- The magnitude and scale when there is no room for what comes next, which has to be digits
and underscores: the deciding digit rounds the last digit kept. If raising that overflows the
magnitude, one more digit goes. -/
def cutOff? (magnitude scale : Nat) (behind : List Char) : Option (Nat × Nat) := do
  guard (behind.all isFiller)
  if decidingDigit magnitude behind < 5 then return (magnitude, scale)
  else if magnitude + 1 < coefficientBound then return (magnitude + 1, scale)
  else if scale = 0 then none
  else return ((magnitude + 5) / 10, scale - 1)

/-- Reads on with the magnitude and scale so far, knowing whether the point (`pointed`) and
some digit (`begun`) have been seen. -/
def readOn? (pointed begun : Bool) (magnitude scale : Nat) : List Char → Option (Nat × Nat)
  | [] => if begun then some (magnitude, scale) else none
  | c :: rest =>
    -- no room behind the point
    if pointed && scale == maxScale then cutOff? magnitude scale (c :: rest)
    else match digitValue? c with
      | some digit =>
        if magnitude * 10 + digit < coefficientBound then
          readOn? pointed true (magnitude * 10 + digit) (if pointed then scale + 1 else 0) rest
        -- no room in the magnitude; in front of the point that is the end
        else if pointed then cutOff? magnitude scale (c :: rest)
        else none
      | none =>
        if c = '.' && !pointed then readOn? true begun magnitude scale rest
        else if c = '_' && begun then readOn? pointed begun magnitude scale rest
        else none

/-- The decimal of a plain form. -/
def readPlain? (s : List Char) : Option Decimal := do
  let (negative, digits) := match s with
    | '-' :: rest => (true, rest)
    | '+' :: rest => (false, rest)
    | _ => (false, s)
  let (magnitude, scale) ← readOn? false false 0 0 digits
  ofSigned? negative magnitude scale

/-! ## Reading scientific notation -/

/-- The same number without zeros at the end of its fraction. -/
def withoutTrailingZeros (magnitude : Nat) : Nat → Nat × Nat
  | 0 => (magnitude, 0)
  | scale + 1 =>
    if magnitude % 10 = 0 then withoutTrailingZeros (magnitude / 10) scale
    else (magnitude, scale + 1)

/-- The decimal times a power of ten, in steps of at most nineteen digits. -/
def timesPowerOfTen? (d : Decimal) (power : Nat) : Option Decimal := do
  let raised ←
    if power < 19 then mul? d (← ofParts? (Nat.pow 10 power) 0)
    else
      let most ← mul? d (← ofParts? (Nat.pow 10 19) 0)
      if power = 19 then some most else mul? most (← ofParts? (Nat.pow 10 (power - 19)) 0)
  let (magnitude, scale) := withoutTrailingZeros raised.magnitude raised.scale
  ofSigned? raised.isNegative magnitude scale

/-- The decimal divided by a power of ten: the point moves to the left, and digits that get
beyond the largest scale are rounded away, a half going up. -/
def overPowerOfTen? (d : Decimal) (power : Nat) : Option Decimal :=
  let surplus := d.scale + power - maxScale
  ofMagnitude? d.isNegative ((d.magnitude + Nat.pow 10 surplus / 2) / Nat.pow 10 surplus)
    (d.scale + power - surplus)

/-- The decimal of a scientific form. -/
def readScientific? (s : List Char) : Option Decimal := do
  let isMark := fun c : Char => c = 'e' || c = 'E'
  guard (s.any isMark)
  let base ← readPlain? (s.takeWhile (!isMark ·))
  match (s.dropWhile (!isMark ·)).drop 1 with
  | '-' :: digits => overPowerOfTen? base (← readNat? maxScale digits)
  | digits =>
    let power ← readNat? maxScale digits
    if power ≤ base.scale then ofMagnitude? base.isNegative base.magnitude (base.scale - power)
    else timesPowerOfTen? base power

/-- The decimal of a plain or else a scientific form. -/
def read? (s : List Char) : Option Decimal := readPlain? s <|> readScientific? s

end CountingHouse.Decimal
