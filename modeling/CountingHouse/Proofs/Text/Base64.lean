/-
Base 64 is read back, and nothing else is read.

A group of bytes is one number, whose digits to the base 64 are the characters; the digits make
the same number again, and its digits to the base 256 are the bytes. In a short last group the
number is filled up with zero bits, which the reader insists on. What is written has none of the
characters outside the alphabet in it, a dot for one.

The reader is strict, so the two directions are inverse: each character is the digit of its
value, and a text that is read at all is the one way of writing what is read.
-/
import CountingHouse.Text.Base64
import Mathlib.Data.Option.Basic
import Mathlib.Tactic.SplitIfs

set_option autoImplicit false

namespace CountingHouse.Text.Base64

/-! ## The alphabet -/

/-- A digit of the alphabet is read as its value. -/
theorem value?_digit {n : Nat} (h : n < 64) : value? (digit n) = some n := by
  have small : ∀ n < 64, value? (digit n) = some n := by decide
  exact small n h

/-- The alphabet is in the range of ASCII. -/
theorem toNat_lt_of_value? {c : Char} {n : Nat} (h : value? c = some n) : c.toNat < 128 := by
  have below : ∀ {high : Char}, c ≤ high → high.toNat < 128 → c.toNat < 128 :=
    fun hle hhigh => Nat.lt_of_le_of_lt hle hhigh
  unfold value? at h
  split_ifs at h with hupper hlower hnumeral hhyphen hline
  · exact below hupper.2 (by decide)
  · exact below hlower.2 (by decide)
  · exact below hnumeral.2 (by decide)
  · rw [hhyphen]
    decide
  · rw [hline]
    decide

/-- A character of the alphabet is the digit of its value. -/
theorem digit_of_value? {c : Char} {n : Nat} (h : value? c = some n) : n < 64 ∧ digit n = c := by
  have small : ∀ m < 128, ∀ n ∈ value? (Char.ofNat m), n < 64 ∧ digit n = Char.ofNat m := by
    decide
  have hc := small c.toNat (toNat_lt_of_value? h) n
  rw [Char.ofNat_toNat] at hc
  exact hc h

/-- Whether a character is one of the alphabet. -/
def IsDigit (c : Char) : Prop := ∃ n, value? c = some n

/-- What is written for a value is a digit of the alphabet. -/
theorem isDigit_digit {n : Nat} (h : n < 64) : IsDigit (digit n) := ⟨n, value?_digit h⟩

/-- A dot is no digit, so it can separate encoded texts. -/
theorem not_isDigit_dot : ¬ IsDigit '.' := by
  rintro ⟨n, hn⟩
  have hnone : value? '.' = none := by decide
  rw [hnone] at hn
  cases hn

/-! ## Groups -/

/-- Two bytes are three digits, the last one filled up with two bits. -/
theorem regroup_two (n : Nat) :
    n / 1024 * 4096 + n / 16 % 64 * 64 + n % 16 * 4 = n * 4 := by omega

/-- Three bytes are four digits. -/
theorem regroup_three (n : Nat) :
    n / 262144 * 262144 + n / 4096 % 64 * 4096 + n / 64 % 64 * 64 + n % 64 = n := by omega

section Groups

variable (a b c : UInt8)

/-- A last group of one byte. -/
theorem decode?_encode_one : decode? (encode [a]) = some [a] := by
  have ha := a.toNat_lt
  have hnumber : a.toNat / 4 * 64 + a.toNat % 4 * 16 = a.toNat * 16 := by omega
  simp only [encode, decode?, value?_digit (show a.toNat / 4 < 64 by omega),
    value?_digit (show a.toNat % 4 * 16 < 64 by omega), Option.bind_eq_bind, Option.bind_some,
    hnumber, Nat.mul_mod_left, Nat.mul_div_cancel _ (show 0 < 16 by decide), UInt8.ofNat_toNat]
  rfl

/-- A last group of two bytes. -/
theorem decode?_encode_two : decode? (encode [a, b]) = some [a, b] := by
  have ha := a.toNat_lt
  have hb := b.toNat_lt
  generalize hn : a.toNat * 256 + b.toNat = n
  have hfirst : n * 4 / 1024 = a.toNat := by omega
  have hsecond : n * 4 / 4 % 256 = b.toNat := by omega
  simp only [encode, decode?, hn, value?_digit (show n / 1024 < 64 by omega),
    value?_digit (show n / 16 % 64 < 64 by omega), value?_digit (show n % 16 * 4 < 64 by omega),
    Option.bind_eq_bind, Option.bind_some, regroup_two, Nat.mul_mod_left, hfirst, hsecond,
    UInt8.ofNat_toNat]
  rfl

/-- A group of three bytes, whatever follows. -/
theorem decode?_encode_three (rest : List UInt8) :
    decode? (encode (a :: b :: c :: rest))
      = (decode? (encode rest)).map fun more => a :: b :: c :: more := by
  have ha := a.toNat_lt
  have hb := b.toNat_lt
  have hc := c.toNat_lt
  generalize hn : a.toNat * 65536 + b.toNat * 256 + c.toNat = n
  have hfirst : n / 65536 = a.toNat := by omega
  have hsecond : n / 256 % 256 = b.toNat := by omega
  have hthird : n % 256 = c.toNat := by omega
  simp only [encode, decode?, hn, value?_digit (show n / 262144 < 64 by omega),
    value?_digit (show n / 4096 % 64 < 64 by omega), value?_digit (show n / 64 % 64 < 64 by omega),
    value?_digit (show n % 64 < 64 by omega), Option.bind_eq_bind, Option.bind_some, regroup_three,
    hfirst, hsecond, hthird, UInt8.ofNat_toNat]
  rcases decode? (encode rest) with _ | more <;> rfl

end Groups

/-! ## Strictness -/

/-- Three digits are two bytes and two bits. -/
theorem regroup_bytes_two (n : Nat) : n / 1024 * 256 + n / 4 % 256 = n / 4 := by omega

/-- Four digits are three bytes. -/
theorem regroup_bytes_three (n : Nat) :
    n / 65536 * 65536 + n / 256 % 256 * 256 + n % 256 = n := by omega

section Strictness

variable {p q r s : Char} {rest : List Char} {bytes : List UInt8}

/-- A number below 256 has room in a byte. -/
theorem toNat_byte {n : Nat} (h : n < 256) : (UInt8.ofNat n).toNat = n :=
  UInt8.toNat_ofNat_of_lt' h

/-- Two characters are read only if the last four bits are zero. -/
theorem encode_of_decode?_two (h : decode? [p, q] = some bytes) : encode bytes = [p, q] := by
  simp only [decode?, Option.bind_eq_bind, Option.bind_eq_some_iff, Option.guard_eq_some'] at h
  obtain ⟨x, hx, y, hy, -, hzero, hbytes⟩ := h
  obtain ⟨hxlt, hp⟩ := digit_of_value? hx
  obtain ⟨hylt, hq⟩ := digit_of_value? hy
  obtain rfl : [UInt8.ofNat ((x * 64 + y) / 16)] = bytes := Option.some.inj hbytes
  have hbyte : (UInt8.ofNat ((x * 64 + y) / 16)).toNat = (x * 64 + y) / 16 := toNat_byte (by omega)
  have hfirst : (x * 64 + y) / 16 / 4 = x := by omega
  have hsecond : (x * 64 + y) / 16 % 4 * 16 = y := by omega
  simp only [encode, hbyte, hfirst, hsecond, hp, hq]

/-- Three characters are read only if the last two bits are zero. -/
theorem encode_of_decode?_three (h : decode? [p, q, r] = some bytes) :
    encode bytes = [p, q, r] := by
  simp only [decode?, Option.bind_eq_bind, Option.bind_eq_some_iff, Option.guard_eq_some'] at h
  obtain ⟨x, hx, y, hy, z, hz, -, hzero, hbytes⟩ := h
  obtain ⟨hxlt, hp⟩ := digit_of_value? hx
  obtain ⟨hylt, hq⟩ := digit_of_value? hy
  obtain ⟨hzlt, hr⟩ := digit_of_value? hz
  generalize hn : x * 4096 + y * 64 + z = n at hzero hbytes
  obtain rfl : [UInt8.ofNat (n / 1024), UInt8.ofNat (n / 4 % 256)] = bytes :=
    Option.some.inj hbytes
  have hgroup := regroup_bytes_two n
  have hfirst : n / 4 / 1024 = x := by omega
  have hsecond : n / 4 / 16 % 64 = y := by omega
  have hthird : n / 4 % 16 * 4 = z := by omega
  have hbyte : (UInt8.ofNat (n / 1024)).toNat = n / 1024 := toNat_byte (by omega)
  have hlast : (UInt8.ofNat (n / 4 % 256)).toNat = n / 4 % 256 := toNat_byte (by omega)
  simp only [encode, hbyte, hlast, hgroup, hfirst, hsecond, hthird, hp, hq, hr]

/-- Four characters are three bytes, whatever follows. -/
theorem encode_of_decode?_four (h : decode? (p :: q :: r :: s :: rest) = some bytes) :
    ∃ more, decode? rest = some more ∧ encode bytes = p :: q :: r :: s :: encode more := by
  simp only [decode?, Option.bind_eq_bind, Option.bind_eq_some_iff] at h
  obtain ⟨x, hx, y, hy, z, hz, w, hw, more, hmore, hbytes⟩ := h
  obtain ⟨hxlt, hp⟩ := digit_of_value? hx
  obtain ⟨hylt, hq⟩ := digit_of_value? hy
  obtain ⟨hzlt, hr⟩ := digit_of_value? hz
  obtain ⟨hwlt, hs⟩ := digit_of_value? hw
  generalize hn : x * 262144 + y * 4096 + z * 64 + w = n at hbytes
  obtain rfl : UInt8.ofNat (n / 65536) :: UInt8.ofNat (n / 256 % 256) :: UInt8.ofNat (n % 256)
      :: more = bytes := Option.some.inj hbytes
  have hgroup := regroup_bytes_three n
  have hfirst : n / 262144 = x := by omega
  have hsecond : n / 4096 % 64 = y := by omega
  have hthird : n / 64 % 64 = z := by omega
  have hfourth : n % 64 = w := by omega
  have hbyte : (UInt8.ofNat (n / 65536)).toNat = n / 65536 := toNat_byte (by omega)
  have hmiddle : (UInt8.ofNat (n / 256 % 256)).toNat = n / 256 % 256 := toNat_byte (by omega)
  have hlast : (UInt8.ofNat (n % 256)).toNat = n % 256 := toNat_byte (by omega)
  refine ⟨more, hmore, ?_⟩
  simp only [encode, hbyte, hmiddle, hlast, hgroup, hfirst, hsecond, hthird, hfourth, hp, hq, hr,
    hs]

end Strictness

/-! ## Texts -/

/-- Reading what has been written yields the bytes. -/
theorem decode?_encode (bytes : List UInt8) : decode? (encode bytes) = some bytes := by
  induction bytes using encode.induct with
  | case1 => rfl
  | case2 a => exact decode?_encode_one a
  | case3 a b => exact decode?_encode_two a b
  | case4 a b c rest ih => rw [decode?_encode_three, ih, Option.map_some]

/-- What is read is written in that one way. -/
theorem encode_of_decode? {s : List Char} {bytes : List UInt8} (h : decode? s = some bytes) :
    encode bytes = s := by
  induction s using decode?.induct generalizing bytes with
  | case1 =>
    cases h
    rfl
  | case2 p => cases h
  | case3 p q => exact encode_of_decode?_two h
  | case4 p q r => exact encode_of_decode?_three h
  | case5 p q r s rest ih =>
    obtain ⟨more, hmore, hbytes⟩ := encode_of_decode?_four h
    rw [hbytes, ih hmore]

/-- A text is decoded to some bytes exactly if it is their encoding: no other spelling of them is
taken, neither padded nor with loose bits at the end. -/
theorem decode?_eq_some_iff {s : List Char} {bytes : List UInt8} :
    decode? s = some bytes ↔ s = encode bytes := by
  constructor
  · intro h
    exact (encode_of_decode? h).symm
  · intro h
    rw [h, decode?_encode]

/-- All that is ever written is of the alphabet. -/
theorem isDigit_of_mem_encode {bytes : List UInt8} {d : Char} (h : d ∈ encode bytes) :
    IsDigit d := by
  -- three bytes make four digits; one or two at the end make two or three
  induction bytes using encode.induct with
  | case1 => cases h
  | case2 a =>
    have ha := a.toNat_lt
    simp only [encode, List.mem_cons, List.not_mem_nil, or_false] at h
    rcases h with rfl | rfl <;> exact isDigit_digit (by omega)
  | case3 a b =>
    have ha := a.toNat_lt
    have hb := b.toNat_lt
    simp only [encode, List.mem_cons, List.not_mem_nil, or_false] at h
    rcases h with rfl | rfl | rfl <;> exact isDigit_digit (by omega)
  | case4 a b c rest ih =>
    have ha := a.toNat_lt
    have hb := b.toNat_lt
    have hc := c.toNat_lt
    simp only [encode, List.mem_cons] at h
    rcases h with rfl | rfl | rfl | rfl | h
    · exact isDigit_digit (by omega)
    · exact isDigit_digit (by omega)
    · exact isDigit_digit (by omega)
    · exact isDigit_digit (by omega)
    · exact ih h

/-- There is no dot in an encoded text. -/
theorem dot_notMem_encode (bytes : List UInt8) : '.' ∉ encode bytes :=
  fun h => not_isDigit_dot (isDigit_of_mem_encode h)

end CountingHouse.Text.Base64
