/-
Base 64 in the URL-safe alphabet, without padding.

Three bytes become four characters, and a last group of one or two bytes becomes
two or three. Reading is strict, so that every byte string has one written form:
a character outside the alphabet, a padding character, a lone character in the
last group and a last character whose unused bits are not zero are all refused.
-/

set_option autoImplicit false

namespace CountingHouse.Text.Base64

/-! ## The alphabet -/

def digit (n : Nat) : Char :=
  if n < 26 then Char.ofNat ('A'.toNat + n)
  else if n < 52 then Char.ofNat ('a'.toNat + (n - 26))
  else if n < 62 then Char.ofNat ('0'.toNat + (n - 52))
  else if n = 62 then '-'
  else '_'

/-- The six-bit value of a character. -/
def value? (c : Char) : Option Nat :=
  if 'A' ≤ c ∧ c ≤ 'Z' then some (c.toNat - 'A'.toNat)
  else if 'a' ≤ c ∧ c ≤ 'z' then some (c.toNat - 'a'.toNat + 26)
  else if '0' ≤ c ∧ c ≤ '9' then some (c.toNat - '0'.toNat + 52)
  else if c = '-' then some 62
  else if c = '_' then some 63
  else none

/-! ## Writing and reading -/

def encode : List UInt8 → List Char
  | [] => []
  | [a] =>
    let n := a.toNat
    [digit (n / 4), digit (n % 4 * 16)]
  | [a, b] =>
    let n := a.toNat * 256 + b.toNat
    [digit (n / 1024), digit (n / 16 % 64), digit (n % 16 * 4)]
  | a :: b :: c :: rest =>
    let n := a.toNat * 65536 + b.toNat * 256 + c.toNat
    digit (n / 262144) :: digit (n / 4096 % 64) :: digit (n / 64 % 64) :: digit (n % 64) ::
      encode rest

def decode? : List Char → Option (List UInt8)
  | [] => some []
  | [_] => none
  | [p, q] => do
    let n := (← value? p) * 64 + (← value? q)
    guard (n % 16 = 0)
    return [UInt8.ofNat (n / 16)]
  | [p, q, r] => do
    let n := (← value? p) * 4096 + (← value? q) * 64 + (← value? r)
    guard (n % 4 = 0)
    return [UInt8.ofNat (n / 1024), UInt8.ofNat (n / 4 % 256)]
  | p :: q :: r :: s :: rest => do
    let n := (← value? p) * 262144 + (← value? q) * 4096 + (← value? r) * 64 + (← value? s)
    let more ← decode? rest
    return UInt8.ofNat (n / 65536) :: UInt8.ofNat (n / 256 % 256) :: UInt8.ofNat (n % 256) :: more

end CountingHouse.Text.Base64
