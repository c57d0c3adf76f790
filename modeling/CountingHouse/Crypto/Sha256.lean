/-
SHA-256, and what is built on it: HMAC and HKDF.

A message is padded to whole blocks of 64 bytes. Each block is expanded to 64 words,
of which every word behind the sixteenth is made from a window on the sixteen
before it, and the state of eight words is run through 64 rounds, one for each
word. Windows, states and digests have their lengths in their types.

The key of an HMAC is filled up with zeros to a block, or hashed first if it is
longer than that. HKDF draws one block of key material, which is all that a
32-byte key needs.
-/

set_option autoImplicit false

namespace CountingHouse.Crypto

/-! ## Bytes and words -/

/-- Byte number `i` of a word, counted from its most significant end. -/
def byteOfWord (w : UInt32) (i : Nat) : UInt8 := UInt8.ofNat (w.toNat / Nat.pow 256 (3 - i))

/-- The word of four bytes, the most significant first. -/
def wordOfBytes (a b c d : UInt8) : UInt32 :=
  UInt32.ofNat (((a.toNat * 256 + b.toNat) * 256 + c.toNat) * 256 + d.toNat)

/-- A number as that many bytes, the most significant first. -/
def bigEndian : Nat → Nat → List UInt8
  | 0, _ => []
  | count + 1, n => UInt8.ofNat (n / Nat.pow 256 count) :: bigEndian count n

@[simp]
theorem length_bigEndian (count n : Nat) : (bigEndian count n).length = count := by
  induction count with
  | zero => rfl
  | succ count ih => simp [bigEndian, ih]

namespace Sha256

/-! ## Constants -/

/-- The constants of the rounds: the first 32 bits of the fractional parts of the cube roots
of the first 64 primes. -/
def roundConstants : List UInt32 :=
  [0x428a2f98, 0x71374491, 0xb5c0fbcf, 0xe9b5dba5, 0x3956c25b, 0x59f111f1, 0x923f82a4, 0xab1c5ed5,
   0xd807aa98, 0x12835b01, 0x243185be, 0x550c7dc3, 0x72be5d74, 0x80deb1fe, 0x9bdc06a7, 0xc19bf174,
   0xe49b69c1, 0xefbe4786, 0x0fc19dc6, 0x240ca1cc, 0x2de92c6f, 0x4a7484aa, 0x5cb0a9dc, 0x76f988da,
   0x983e5152, 0xa831c66d, 0xb00327c8, 0xbf597fc7, 0xc6e00bf3, 0xd5a79147, 0x06ca6351, 0x14292967,
   0x27b70a85, 0x2e1b2138, 0x4d2c6dfc, 0x53380d13, 0x650a7354, 0x766a0abb, 0x81c2c92e, 0x92722c85,
   0xa2bfe8a1, 0xa81a664b, 0xc24b8b70, 0xc76c51a3, 0xd192e819, 0xd6990624, 0xf40e3585, 0x106aa070,
   0x19a4c116, 0x1e376c08, 0x2748774c, 0x34b0bcb5, 0x391c0cb3, 0x4ed8aa4a, 0x5b9cca4f, 0x682e6ff3,
   0x748f82ee, 0x78a5636f, 0x84c87814, 0x8cc70208, 0x90befffa, 0xa4506ceb, 0xbef9a3f7, 0xc67178f2]

/-- The state of the hash: eight words. -/
abbrev State := Vector UInt32 8

/-- The first state: the first 32 bits of the fractional parts of the square roots of the
first eight primes. -/
def initial : State :=
  #v[0x6a09e667, 0xbb67ae85, 0x3c6ef372, 0xa54ff53a, 0x510e527f, 0x9b05688c, 0x1f83d9ab, 0x5be0cd19]

/-! ## One block -/

/-- Rotates a word to the right. -/
def rotate (w : UInt32) (n : UInt32) : UInt32 := (w >>> n) ||| (w <<< (32 - n))

/-- Sixteen words: a block, or the words in front of the next one. -/
abbrev Window := Vector UInt32 16

/-- The word behind a window. -/
def nextWord (w : Window) : UInt32 :=
  let s0 := rotate w[1] 7 ^^^ rotate w[1] 18 ^^^ (w[1] >>> 3)
  let s1 := rotate w[14] 17 ^^^ rotate w[14] 19 ^^^ (w[14] >>> 10)
  w[0] + s0 + w[9] + s1

def slide (w : Window) : Window :=
  Vector.ofFn fun i => if h : i.val + 1 < 16 then w[i.val + 1] else nextWord w

/-- The words of the rounds to come. -/
def expand : Nat → Window → List UInt32
  | 0, _ => []
  | rounds + 1, w => w[0] :: expand rounds (slide w)

def round (s : State) (constant word : UInt32) : State :=
  let s1 := rotate s[4] 6 ^^^ rotate s[4] 11 ^^^ rotate s[4] 25
  let choice := (s[4] &&& s[5]) ^^^ (~~~s[4] &&& s[6])
  let t1 := s[7] + s1 + choice + constant + word
  let s0 := rotate s[0] 2 ^^^ rotate s[0] 13 ^^^ rotate s[0] 22
  let majority := (s[0] &&& s[1]) ^^^ (s[0] &&& s[2]) ^^^ (s[1] &&& s[2])
  #v[t1 + (s0 + majority), s[0], s[1], s[2], s[3] + t1, s[4], s[5], s[6]]

def compress (s : State) (block : Window) : State :=
  let mixed := (roundConstants.zip (expand 64 block)).foldl (fun s (k, w) => round s k w) s
  Vector.zipWith (· + ·) s mixed

/-! ## Messages -/

/-- The message filled up to whole blocks: a one bit, zeros, and the length in bits. -/
def pad (message : List UInt8) : List UInt8 :=
  message ++ 0x80 :: List.replicate ((119 - message.length % 64) % 64) 0
    ++ bigEndian 8 (message.length * 8)

/-- The words of a byte string; up to three bytes behind the last whole word are left out. -/
def words : List UInt8 → List UInt32
  | a :: b :: c :: d :: rest => wordOfBytes a b c d :: words rest
  | _ => []

/-- The state behind the whole blocks of a list of words. -/
def absorb (s : State) (ws : List UInt32) : State :=
  if h : (ws.drop 15).isEmpty then s
  else
    -- a whole block is taken off, so what is left is shorter
    have : 15 < ws.length := by simpa using h
    absorb (compress s (Vector.ofFn fun i => ws.getD i 0)) (ws.drop 16)
termination_by ws.length
decreasing_by simp only [List.length_drop]; omega

def digest (message : List UInt8) : Vector UInt8 32 :=
  let s := absorb initial (words (pad message))
  Vector.ofFn fun i => byteOfWord s[i.val / 4] (i.val % 4)

def hash (message : List UInt8) : List UInt8 := (digest message).toList

@[simp]
theorem length_hash (message : List UInt8) : (hash message).length = 32 := by simp [hash]

end Sha256

/-! ## HMAC -/

def hmacKey (key : List UInt8) : List UInt8 :=
  -- a key of exactly one block is not hashed
  let short := if key.length ≤ 64 then key else Sha256.hash key
  short ++ List.replicate (64 - short.length) 0

/-- The authentication code of a message under a key. -/
def hmac (key message : List UInt8) : List UInt8 :=
  let block := hmacKey key
  Sha256.hash (block.map (· ^^^ 0x5C) ++ Sha256.hash (block.map (· ^^^ 0x36) ++ message))

@[simp]
theorem length_hmac (key message : List UInt8) : (hmac key message).length = 32 := by simp [hmac]

/-! ## HKDF -/

/-- A 32-byte key for the purpose named by `info`, drawn from a secret. -/
def hkdf (salt secret info : List UInt8) : List UInt8 := hmac (hmac salt secret) (info ++ [1])

@[simp]
theorem length_hkdf (salt secret info : List UInt8) : (hkdf salt secret info).length = 32 := by
  simp [hkdf]

end CountingHouse.Crypto
