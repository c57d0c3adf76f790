/-
Authenticated encryption: AES-256 in Galois counter mode.

The text is combined with a keystream, which is the cipher on a counter behind the
nonce, so sealing and opening combine with the same bytes. The tag authenticates
the sealed text and the associated data: both are run through a polynomial hash over
the field of 2^128 elements, and the value is combined with the cipher on the first
counter. Opening checks the tag first and in full.
-/
import CountingHouse.Crypto.Aes256

set_option autoImplicit false

namespace CountingHouse.Crypto.Gcm

open Aes256 (Block)

/-! ## The hash -/

/-- The block of a byte string, filled up with zeros. -/
def blockOf (bytes : List UInt8) : Block := Vector.ofFn fun i => bytes.getD i 0

/-- The element of the field that a block stands for. -/
def element (b : Block) : BitVec 128 :=
  BitVec.ofNat 128 (b.toList.foldl (fun n byte => n * 256 + byte.toNat) 0)

def blockOfElement (x : BitVec 128) : Block :=
  Vector.ofFn fun i => UInt8.ofNat (x.toNat / Nat.pow 256 (15 - i.val))

/-- The product of two elements: the sum of the multiples of the first that the `count`
highest bits of the second ask for. Each step halves the first, modulo
`x¹²⁸ + x⁷ + x² + x + 1` with the lowest power first. -/
def times : Nat → BitVec 128 → BitVec 128 → BitVec 128
  | 0, _, _ => 0
  | count + 1, a, b =>
    let half := (a >>> 1) ^^^ (if a.getLsbD 0 then 0xE1000000000000000000000000000000#128 else 0)
    (if b.getMsbD 0 then a else 0) ^^^ times count half (b <<< 1)

/-- The hash of the blocks of a byte string, from a value on. -/
def hashFrom (h x : BitVec 128) (bytes : List UInt8) : BitVec 128 :=
  if _h : bytes = [] then x
  else hashFrom h (times 128 h (x ^^^ element (blockOf bytes))) (bytes.drop 16)
termination_by bytes.length
decreasing_by
  have : bytes.length ≠ 0 := fun e => _h (List.length_eq_zero_iff.1 e)
  simp only [List.length_drop]
  omega

/-- The hash of associated data and of a sealed text `body`, each filled up to whole blocks, with their
lengths behind them. -/
def polynomialHash (h : BitVec 128) (associated body : List UInt8) : BitVec 128 :=
  hashFrom h (hashFrom h (hashFrom h 0 associated) body)
    (bigEndian 8 (associated.length * 8) ++ bigEndian 8 (body.length * 8))

/-! ## The keystream -/

/-- The cipher on a counter behind the nonce. -/
def counterBlock (keys : List Block) (nonce : List UInt8) (counter : Nat) : Block :=
  Aes256.encrypt keys (blockOf (nonce ++ bigEndian 4 counter))

/-- Byte number `i` of the keystream is byte `i % 16` of the block of counter `i / 16 + 2`;
these are the first blocks of it. -/
def keystream (keys : List Block) (nonce : List UInt8) (blocks : Nat) : List UInt8 :=
  (List.range blocks).flatMap fun i => (counterBlock keys nonce (i + 2)).toList

/-- A text combined with the keystream. -/
def mask (keys : List Block) (nonce text : List UInt8) : List UInt8 :=
  List.zipWith (· ^^^ ·) text (keystream keys nonce ((text.length + 15) / 16))

/-- The tag of a sealed text `body` and associated data. -/
def tag (keys : List Block) (nonce associated body : List UInt8) : List UInt8 :=
  -- counter 1 is kept for the tag, the text starts with counter 2
  let h := element (Aes256.encrypt keys (blockOf []))
  let value := blockOfElement (polynomialHash h associated body)
  (Aes256.addKey (counterBlock keys nonce 1) value).toList

/-! ## Sealing and opening -/

def tagLength : Nat := 16

/-- The sealed form of a text: the masked text and its tag. -/
def close (key nonce associated text : List UInt8) : List UInt8 :=
  let keys := Aes256.roundKeys key
  let masked := mask keys nonce text
  masked ++ tag keys nonce associated masked

/-- The text behind a sealed form `body`, if its tag is right. -/
def open? (key nonce associated body : List UInt8) : Option (List UInt8) :=
  let keys := Aes256.roundKeys key
  let length := body.length - tagLength
  let masked := body.take length
  if tagLength ≤ body.length ∧ body.drop length = tag keys nonce associated masked then
    some (mask keys nonce masked)
  else none

/-! ## Laws -/

/-- The keystream has sixteen bytes for each of its blocks. -/
@[simp]
theorem length_keystream (keys : List Block) (nonce : List UInt8) (blocks : Nat) :
    (keystream keys nonce blocks).length = 16 * blocks := by
  induction blocks with
  | zero => rfl
  | succ blocks ih =>
    have split : keystream keys nonce (blocks + 1)
        = keystream keys nonce blocks ++ (counterBlock keys nonce (blocks + 2)).toList := by
      simp [keystream, List.range_succ]
    rw [split, List.length_append, ih, Vector.length_toList]
    omega

@[simp]
theorem length_mask (keys : List Block) (nonce text : List UInt8) :
    (mask keys nonce text).length = text.length := by
  simp only [mask, List.length_zipWith, length_keystream]
  omega

@[simp]
theorem length_tag (keys : List Block) (nonce associated body : List UInt8) :
    (tag keys nonce associated body).length = tagLength := by
  simp [tag, tagLength]

end CountingHouse.Crypto.Gcm
