/-
UTF-8 in both directions.

Writing takes a character to its one, two, three or four bytes. Reading goes the
other way and is total: it yields a list of *symbols*, each either a character
or a stray byte. A byte is stray when no character starts there, by the standard
table of well-formed sequences (no overlong forms, no surrogates, nothing above
U+10FFFF). After a stray byte reading resumes with the very next byte, so bytes
in the ASCII range are always read as the characters they are. A byte string is
valid UTF-8 exactly when reading it meets no stray byte.
-/

set_option autoImplicit false

namespace CountingHouse.Text

/-- A character read from bytes, or a byte that belongs to no character. -/
inductive Symbol where
  | char (c : Char)
  | stray (byte : UInt8)
  deriving DecidableEq, Repr

namespace Utf8

/-! ## Writing -/

/-- A continuation byte carrying six bits. -/
def tail (n : Nat) : UInt8 := UInt8.ofNat (0x80 + n % 64)

def encodeChar (c : Char) : List UInt8 :=
  let n := c.toNat
  if n < 0x80 then [UInt8.ofNat n]
  else if n < 0x800 then [UInt8.ofNat (0xC0 + n / 64), tail n]
  else if n < 0x10000 then [UInt8.ofNat (0xE0 + n / 4096), tail (n / 64), tail n]
  else [UInt8.ofNat (0xF0 + n / 262144), tail (n / 4096), tail (n / 64), tail n]

def encode (s : List Char) : List UInt8 := s.flatMap encodeChar

/-! ## Reading -/

/-- The payload of a continuation byte in the given range. -/
def tailIn? (low high : Nat) (b : UInt8) : Option Nat :=
  if low ≤ b.toNat ∧ b.toNat ≤ high then some (b.toNat - 0x80) else none

def tail? : UInt8 → Option Nat := tailIn? 0x80 0xBF

/-- The second byte's payload after a three-byte lead: the lead narrows the range where
an overlong form or a surrogate would arise. -/
def second3? (lead : Nat) : UInt8 → Option Nat :=
  if lead = 0xE0 then tailIn? 0xA0 0xBF
  else if lead = 0xED then tailIn? 0x80 0x9F
  else tail?

/-- The second byte's payload after a four-byte lead. -/
def second4? (lead : Nat) : UInt8 → Option Nat :=
  if lead = 0xF0 then tailIn? 0x90 0xBF
  else if lead = 0xF4 then tailIn? 0x80 0x8F
  else tail?

/-- The character at the front of a byte string, with the number of bytes behind its lead
byte. -/
def front? (lead : UInt8) (rest : List UInt8) : Option (Char × Nat) :=
  let a := lead.toNat
  if a < 0x80 then some (Char.ofNat a, 0)
  -- lower bytes are continuations, and 0xC0 and 0xC1 would only start overlong forms
  else if 0xC2 ≤ a ∧ a ≤ 0xDF then
    match rest with
    | b :: _ => do return (Char.ofNat ((a - 0xC0) * 64 + (← tail? b)), 1)
    | _ => none
  else if 0xE0 ≤ a ∧ a ≤ 0xEF then
    match rest with
    | b :: c :: _ => do
      return (Char.ofNat ((a - 0xE0) * 4096 + (← second3? a b) * 64 + (← tail? c)), 2)
    | _ => none
  else if 0xF0 ≤ a ∧ a ≤ 0xF4 then
    match rest with
    | b :: c :: d :: _ => do
      return (Char.ofNat ((a - 0xF0) * 262144 + (← second4? a b) * 4096 + (← tail? c) * 64
        + (← tail? d)), 3)
    | _ => none
  else none

def symbols : List UInt8 → List Symbol
  | [] => []
  | b :: rest =>
    match front? b rest with
    | some (c, n) => .char c :: symbols (rest.drop n)
    | none => .stray b :: symbols rest
termination_by bytes => bytes.length
decreasing_by all_goals simp only [List.length_cons, List.length_drop]; omega

end Utf8

def utf8 (s : String) : List UInt8 := Utf8.encode s.toList

/-- The symbols of a string: its characters. -/
def symbolsOf (s : String) : List Symbol := s.toList.map .char

end CountingHouse.Text
