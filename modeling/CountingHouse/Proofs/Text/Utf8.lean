/-
Bytes are read back as the characters that were written.

The first byte of a character tells how many bytes follow, and each byte that follows carries
six bits of the number of the character. The second byte is narrowed behind four of the first
ones; that excludes overlong forms, surrogates and numbers above the last character, and so it
excludes nothing that is ever written.
-/
import CountingHouse.Text.Utf8

set_option autoImplicit false

namespace CountingHouse.Text.Utf8

/-! ## Single bytes -/

/-- A continuation byte is 0x80 and the last six bits of the number. -/
theorem toNat_tail (n : Nat) : (tail n).toNat = 0x80 + n % 64 := by
  have h : 0x80 + n % 64 < 256 := by omega
  rw [tail, UInt8.toNat_ofNat']
  exact Nat.mod_eq_of_lt h

/-- A continuation byte in the range that is asked for is read as its six bits. -/
theorem tailIn?_tail {low high n : Nat} (hlow : low ≤ 0x80 + n % 64)
    (hhigh : 0x80 + n % 64 ≤ high) : tailIn? low high (tail n) = some (n % 64) := by
  unfold tailIn?
  rw [toNat_tail, if_pos ⟨hlow, hhigh⟩, Nat.add_sub_cancel_left]

/-- Where any continuation byte will do, it is read as its six bits. -/
@[simp]
theorem tail?_tail (n : Nat) : tail? (tail n) = some (n % 64) :=
  tailIn?_tail (by omega) (by omega)

/-- A first byte of three takes any second byte of a character that is no surrogate and needs
three bytes. -/
theorem second3?_tail {n : Nat} (h : 0x800 ≤ n) (hlt : n < 0x10000)
    (hvalid : n < 0xD800 ∨ 0xDFFF < n) :
    second3? (0xE0 + n / 4096) (tail (n / 64)) = some (n / 64 % 64) := by
  unfold second3?
  split
  · exact tailIn?_tail (by omega) (by omega)
  · split
    · exact tailIn?_tail (by omega) (by omega)
    · exact tail?_tail _

/-- A first byte of four takes any second byte of a character that needs four bytes. -/
theorem second4?_tail {n : Nat} (h : 0x10000 ≤ n) (hlt : n < 0x110000) :
    second4? (0xF0 + n / 262144) (tail (n / 4096)) = some (n / 4096 % 64) := by
  unfold second4?
  split
  · exact tailIn?_tail (by omega) (by omega)
  · split
    · exact tailIn?_tail (by omega) (by omega)
    · exact tail?_tail _

/-! ## Characters -/

/-- The bytes of a character are a first byte, by which it is found in front of any others. -/
theorem exists_front?_encodeChar (c : Char) (rest : List UInt8) :
    ∃ lead more, encodeChar c = lead :: more ∧
      front? lead (more ++ rest) = some (c, more.length) := by
  have hvalid : c.toNat < 0xD800 ∨ 0xDFFF < c.toNat ∧ c.toNat < 0x110000 := c.valid
  have hbyte : ∀ n < 256, (UInt8.ofNat n).toNat = n := fun n hn => by
    rw [UInt8.toNat_ofNat']
    exact Nat.mod_eq_of_lt hn
  unfold encodeChar
  -- one case for each length of the encoding; the lead byte tells them apart, and the six-bit
  -- groups add up to the code point again
  by_cases h1 : c.toNat < 0x80
  · refine ⟨_, _, if_pos h1, ?_⟩
    simp only [front?, hbyte c.toNat (by omega), if_pos h1, Char.ofNat_toNat, List.length_nil]
  rw [if_neg h1]
  by_cases h2 : c.toNat < 0x800
  · refine ⟨_, _, if_pos h2, ?_⟩
    have hlead : 0xC0 + c.toNat / 64 < 256 := by omega
    have hnumber : c.toNat / 64 * 64 + c.toNat % 64 = c.toNat := by omega
    simp only [front?, hbyte _ hlead, List.cons_append, List.nil_append, tail?_tail]
    rw [if_neg (by omega), if_pos (by omega)]
    simp [hnumber]
  rw [if_neg h2]
  by_cases h3 : c.toNat < 0x10000
  · refine ⟨_, _, if_pos h3, ?_⟩
    have hlead : 0xE0 + c.toNat / 4096 < 256 := by omega
    have hsecond := second3?_tail (by omega) h3 (by omega)
    have hnumber : c.toNat / 4096 * 4096 + c.toNat / 64 % 64 * 64
        + c.toNat % 64 = c.toNat := by omega
    simp only [front?, hbyte _ hlead, List.cons_append, List.nil_append, tail?_tail, hsecond]
    rw [if_neg (by omega), if_neg (by omega), if_pos (by omega)]
    simp [hnumber]
  · refine ⟨_, _, if_neg h3, ?_⟩
    have hlead : 0xF0 + c.toNat / 262144 < 256 := by omega
    have hsecond := second4?_tail (n := c.toNat) (by omega) (by omega)
    have hnumber : c.toNat / 262144 * 262144 + c.toNat / 4096 % 64 * 4096
        + c.toNat / 64 % 64 * 64 + c.toNat % 64 = c.toNat := by omega
    simp only [front?, hbyte _ hlead, List.cons_append, List.nil_append, tail?_tail, hsecond]
    rw [if_neg (by omega), if_neg (by omega), if_neg (by omega), if_pos (by omega)]
    simp [hnumber]

/-! ## Texts -/

/-- The bytes of a character are read as that character, whatever comes behind them. -/
theorem symbols_encodeChar_append (c : Char) (rest : List UInt8) :
    symbols (encodeChar c ++ rest) = .char c :: symbols rest := by
  obtain ⟨lead, more, hbytes, hfront⟩ := exists_front?_encodeChar c rest
  rw [hbytes, List.cons_append, symbols, hfront]
  simp only [List.drop_left]

/-- Reading what has been written meets no stray byte and yields the characters. -/
theorem symbols_encode (s : List Char) : symbols (encode s) = s.map .char := by
  induction s with
  | nil =>
    unfold encode
    rw [List.flatMap_nil, symbols]
    rfl
  | cons c s ih =>
    unfold encode at ih ⊢
    rw [List.flatMap_cons, symbols_encodeChar_append, ih, List.map_cons]

end CountingHouse.Text.Utf8
