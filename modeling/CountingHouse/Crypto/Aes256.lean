/-
The block cipher AES with a key of 256 bits.

A block is 16 bytes, read as four columns of four. A round replaces each byte by
way of its inverse in the field of 256 elements, shifts the rows, mixes the columns
and adds a round key; the last round does not mix. The sixty words of the round
keys are made from a window on the eight words before each of them, and the key is
the first window.
-/
import CountingHouse.Crypto.Sha256

set_option autoImplicit false

namespace CountingHouse.Crypto.Aes256

/-! ## The field of bytes -/

/-- Twice an element of the field: its polynomial times `x`, modulo
`x⁸ + x⁴ + x³ + x + 1`. -/
def double (a : UInt8) : UInt8 := (a <<< 1) ^^^ (if a &&& 0x80 = 0 then 0 else 0x1B)

/-- The product of two elements, from the `count` low bits of the second. -/
def times (a : UInt8) : Nat → UInt8 → UInt8
  | 0, _ => 0
  | count + 1, b => (if b &&& 1 = 0 then 0 else a) ^^^ times (double a) count (b >>> 1)

def power (a : UInt8) : Nat → UInt8
  | 0 => 1
  | n + 1 => times a 8 (power a n)

/-- The substitute of a byte: its inverse, which is its 254th power, with every bit added to
the four bits behind it, and a constant. -/
def substitute (a : UInt8) : UInt8 :=
  let b := power a 254
  let rotated (n : UInt8) : UInt8 := (b <<< n) ||| (b >>> (8 - n))
  b ^^^ rotated 1 ^^^ rotated 2 ^^^ rotated 3 ^^^ rotated 4 ^^^ 0x63

def substitutes : Array UInt8 := (Array.range 256).map fun n => substitute (UInt8.ofNat n)

/-- The substitute of a byte, looked up. -/
def look (a : UInt8) : UInt8 := substitutes.getD a.toNat 0

/-! ## Blocks -/

/-- A block, column by column. -/
abbrev Block := Vector UInt8 16

def addKey (key s : Block) : Block := Vector.zipWith (· ^^^ ·) key s

/-- Turns row number `r` to the left by `r` places. -/
def shiftRows (s : Block) : Block :=
  Vector.ofFn fun i => s.get ⟨(i.val + 4 * (i.val % 4)) % 16, Nat.mod_lt _ (by decide)⟩

/-- Mixes each column: a byte becomes twice itself, plus three times the byte below it, plus
the other two. -/
def mixColumns (s : Block) : Block :=
  Vector.ofFn fun i =>
    let column := i.val / 4 * 4
    -- a column does not run over the end of the block
    have h : column + 3 < 16 := by omega
    let entry (n : Nat) : UInt8 := s.get ⟨column + n % 4, by omega⟩
    let a := entry i.val
    let b := entry (i.val + 1)
    double a ^^^ (double b ^^^ b) ^^^ entry (i.val + 2) ^^^ entry (i.val + 3)

/-! ## Round keys -/

abbrev Word := Vector UInt8 4

/-- The word behind eight others, of which the first is number `i - 8`. -/
def nextWord (i : Nat) (first last : Word) : Word :=
  let mixed : Word :=
    if i % 8 = 0 then
      #v[look last[1] ^^^ power 2 (i / 8 - 1), look last[2], look last[3], look last[0]]
    else if i % 8 = 4 then last.map look
    else last
  Vector.zipWith (· ^^^ ·) first mixed

/-- The next `count` words of the round keys, of which the first is number `i - 8`. -/
def expand : Nat → Nat → Vector Word 8 → List Word
  | 0, _, _ => []
  | count + 1, i, window =>
    let moved := Vector.ofFn fun n : Fin 8 =>
      if h : n.val + 1 < 8 then window[n.val + 1] else nextWord i window[0] window[7]
    window[0] :: expand count (i + 1) moved

/-- The words of the round keys, four to a key. -/
def blocks : List Word → List Block
  | a :: b :: c :: d :: rest => (a ++ b ++ c ++ d) :: blocks rest
  | _ => []

def roundKeys (key : List UInt8) : List Block :=
  blocks (expand 60 8 (Vector.ofFn fun w => Vector.ofFn fun b => key.getD (4 * w + b) 0))

/-! ## The cipher -/

/-- The rounds behind the first addition. -/
def rounds : List Block → Block → Block
  | [], s => s
  -- the last round does not mix columns
  | [key], s => addKey key (shiftRows (s.map look))
  | key :: rest, s => rounds rest (addKey key (mixColumns (shiftRows (s.map look))))

def encrypt (keys : List Block) (s : Block) : Block :=
  match keys with
  | [] => s
  | first :: rest => rounds rest (addKey first s)

end CountingHouse.Crypto.Aes256
