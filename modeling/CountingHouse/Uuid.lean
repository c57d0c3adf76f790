/-
Universally unique identifiers.

An identifier is 128 bits, written as 32 small hexadecimal digits in groups of 8,
4, 4, 4 and 12 with hyphens between the groups. Four forms are read, in either
case of the digits: the written one, the same in braces, the same behind
`urn:uuid:` (whose letters may be of either case), and the 32 digits without
hyphens.
-/
import CountingHouse.Json.Reader
import CountingHouse.Json.Printer

set_option autoImplicit false

namespace CountingHouse

/-- A 128-bit identifier. -/
structure Uuid where
  bits : BitVec 128
  deriving DecidableEq, Repr

namespace Uuid

/-- An identifier of the random kind: four bits say so and two name the layout, the others
are taken from the given ones. -/
def ofRandom (random : BitVec 128) : Uuid :=
  let cleared := random &&& ~~~(0xF000C000000000000000#128)
  ⟨cleared ||| 0x40008000000000000000#128⟩

def version (u : Uuid) : Nat := u.bits.toNat / (1 <<< 76) % 16

/-! ## Writing -/

/-- The `count` hexadecimal digits of a number, most significant first. -/
def hexDigits : Nat → Nat → List Char
  | 0, _ => []
  | count + 1, n => hexDigits count (n / 16) ++ [Json.hexDigit (n % 16)]

/-- Puts hyphens behind the digits numbered 8, 12, 16 and 20. -/
def hyphenated (digits : List Char) : List Char :=
  digits.take 8 ++ '-' :: (digits.drop 8).take 4 ++ '-' :: (digits.drop 12).take 4
    ++ '-' :: (digits.drop 16).take 4 ++ '-' :: digits.drop 20

def write (u : Uuid) : List Char := hyphenated (hexDigits 32 u.bits.toNat)

def toText (u : Uuid) : String := String.ofList u.write

/-! ## Reading -/

def hexNumber? (s : List Char) : Option Nat :=
  s.foldl (fun acc c => do return 16 * (← acc) + (← Json.hexValue? c)) (some 0)

/-- The identifier of 32 digits. -/
def readDigits? (s : List Char) : Option Uuid :=
  if s.length = 32 then (hexNumber? s).map fun n => ⟨BitVec.ofNat 128 n⟩ else none

def readHyphenated? (s : List Char) : Option Uuid :=
  let digits := s.take 8 ++ (s.drop 9).take 4 ++ (s.drop 14).take 4 ++ (s.drop 19).take 4
    ++ s.drop 24
  if s.length = 36 ∧ hyphenated digits = s then readDigits? digits else none

def read? (s : List Char) : Option Uuid :=
  if s.length = 32 then readDigits? s
  else if s.length = 36 then readHyphenated? s
  else if s.length = 38 then
    if s.head? = some '\x7b' ∧ s.getLast? = some '\x7d' then
      readHyphenated? (s.drop 1).dropLast
    else none
  else if (s.take 9).map Char.toLower = "urn:uuid:".toList then readHyphenated? (s.drop 9)
  else none

/-! ## Documents -/

/-- The document of an identifier: its text. -/
def toJson (u : Uuid) : Json := .ofText u.toText

def ofJson? : Json → Option Uuid
  | .string p => do read? (← Json.characters? p)
  | _ => none

end Uuid

end CountingHouse
