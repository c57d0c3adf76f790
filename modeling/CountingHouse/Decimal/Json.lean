/-
Decimals in JSON documents.

A decimal is written as a string in plain notation. It is read from a string in
plain or scientific notation, or from a number. A number without fraction and
exponent that fits 64 bits is taken exactly. Any other number passes through
binary floating point first, the way a general JSON reader delivers it: the
digits are gathered into a 64-bit significand as long as they fit, the digits
behind are dropped (those of the whole part still count for the exponent), the
significand is scaled by a power of ten, and the result is read back from its
shortest decimal.
-/
import CountingHouse.Decimal.Text
import CountingHouse.Decimal.Binary64
import CountingHouse.Json.Value

set_option autoImplicit false

namespace CountingHouse.Decimal

open Text

def significandLimit : Nat := (1 <<< 64) - 1

/-- Gathers digits into a significand as long as it stays within the limit; the second
number counts the digits gathered. -/
def gather (significand gathered : Nat) : List Char → Nat × Nat
  | [] => (significand, gathered)
  | c :: rest =>
    let next := significand * 10 + (digitValue? c).getD 0
    if next ≤ significandLimit then gather next (gathered + 1) rest else (significand, gathered)

/-- The exponents that are told apart; beyond them a number is zero or too large. -/
def powerLimit : Nat := (1 <<< 31) - 1

/-- The floating-point number that a JSON number denotes, without its sign. -/
def floating? (n : Numeral) : Option Binary64 := do
  let (significand, whole) := gather 0 0 n.whole
  let (significand, fraction) := gather significand 0 (n.fraction.getD [])
  let power : Int := (n.whole.length - whole : Nat) - (fraction : Int)
  match n.exponent with
  | none => Binary64.ofScientific? significand power
  | some (negative, digits) =>
    let shift ← digitsValue? digits
    if shift ≤ powerLimit then
      Binary64.ofScientific? significand (if negative then power - shift else power + shift)
    else if significand ≠ 0 ∧ !negative then none
    else some ⟨0, Binary64.leastExponent⟩

def ofNumeral? (n : Numeral) : Option Decimal := do
  let whole ← digitsValue? n.whole
  let isInteger := n.fraction.isNone && n.exponent.isNone
  if isInteger && !n.negative && whole ≤ significandLimit then ofParts? whole 0
  else if isInteger && n.negative && 0 < whole && whole ≤ 1 <<< 63 then ofParts? (-(whole : Int)) 0
  else
    let digits := Binary64.writeShortest (← floating? n)
    readPlain? (if n.negative then '-' :: digits else digits)

def ofJson? : Json → Option Decimal
  | .string p => do read? (← Json.characters? p)
  | .number n => ofNumeral? n
  | _ => none

def toJson (d : Decimal) : Json := .ofText (toText d)

end CountingHouse.Decimal
