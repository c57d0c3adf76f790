/-
Multiples of a delay.

A delay has two parts, and a multiple of it is computed part by part: the nanoseconds are
multiplied, what they make in whole seconds is carried over, and where the seconds have no room
left the longest delay stands in. In nanoseconds this is one multiplication and one minimum
(`total_scale`), because the seconds alone decide whether a number of nanoseconds is that of a
delay: whatever is left below a second has its place.

A machine computes the same in words, and a word silently drops what has no room in it. The second
half of the file takes the words one by one. The nanoseconds of a delay times a factor of 32 bits
have room in 64 bits, so the carry and what is left below a second are those of the numbers
(`toNat_carry`, `toNat_rest`); the seconds may have no room, but the two flags that are asked tell
exactly when (`overflows_eq_false_iff`). So the words of a multiple are those of the number
(`words_scale`).
-/
import Mathlib.Algebra.Group.Nat.Defs
import Mathlib.Data.Prod.Lex
import CountingHouse.Schedule.Delay

set_option autoImplicit false

namespace CountingHouse

namespace Delay

variable {a b d : Delay} {factor n : Nat}

/-! ## Numbers of nanoseconds -/

/-- The longest delay has as many nanoseconds as there are in 2 ^ 64 seconds, but one. -/
theorem total_greatest : greatest.total = 2 ^ 64 * 1000000000 - 1 := rfl

/-- No delay is longer than the longest. -/
theorem total_le_greatest (d : Delay) : d.total ≤ greatest.total := by
  have hseconds := d.seconds_lt
  have hnanos := d.nanos_lt
  rw [Nat.shiftLeft_eq] at hseconds
  rw [total_greatest, total]
  omega

/-- Up to the longest delay there is one for every number of nanoseconds. -/
theorem exists_total_eq_iff : (∃ d : Delay, d.total = n) ↔ n ≤ greatest.total := by
  constructor
  · rintro ⟨d, rfl⟩
    exact total_le_greatest d
  · intro hn
    rw [total_greatest] at hn
    have hseconds : n / 1000000000 < 1 <<< 64 := by
      rw [Nat.shiftLeft_eq]
      omega
    exact ⟨⟨n / 1000000000, n % 1000000000, hseconds, Nat.mod_lt _ (by decide)⟩,
      Nat.div_add_mod' n 1000000000⟩

/-- The whole seconds of a multiple, with those that the nanoseconds make. -/
theorem seconds_of_mul (d : Delay) (factor : Nat) :
    d.seconds * factor + d.nanos * factor / 1000000000 = d.total * factor / 1000000000 := by
  rw [total, Nat.add_mul, Nat.mul_right_comm, Nat.add_comm, Nat.add_comm (_ * _ * _),
    Nat.add_mul_div_right _ _ (by decide)]

/-- What a multiple has below a second. -/
theorem nanos_of_mul (d : Delay) (factor : Nat) :
    d.nanos * factor % 1000000000 = d.total * factor % 1000000000 := by
  rw [total, Nat.add_mul, Nat.mul_right_comm, Nat.mul_add_mod_self_right]

/-- A multiple has as many nanoseconds as it should, or those of the longest delay. -/
theorem total_scale (factor : Nat) (d : Delay) :
    (d.scale factor).total = min (d.total * factor) greatest.total := by
  unfold scale
  simp only [seconds_of_mul, nanos_of_mul]
  split
  · next hseconds =>
    rw [Nat.shiftLeft_eq] at hseconds
    have hle : d.total * factor ≤ greatest.total := by
      rw [total_greatest]
      omega
    rw [Nat.min_eq_left hle]
    exact Nat.div_add_mod' _ _
  · next hseconds =>
    rw [Nat.shiftLeft_eq] at hseconds
    have hle : greatest.total ≤ d.total * factor := by
      rw [total_greatest]
      omega
    rw [Nat.min_eq_right hle]

/-! ## The order of delays -/

/-- Delays are compared by their seconds, and then by their nanoseconds. -/
instance : PartialOrder Delay :=
  PartialOrder.lift (fun d => toLex (d.seconds, d.nanos)) fun a b h => by
    have hparts : a.seconds = b.seconds ∧ a.nanos = b.nanos := Prod.mk.inj (toLex.injective h)
    exact eq_of_total_eq (by rw [total, total, hparts.1, hparts.2])

/-- One delay is at most another if it has fewer seconds, or as many and at most its nanoseconds. -/
theorem le_iff : a ≤ b ↔ a.seconds < b.seconds ∨ a.seconds = b.seconds ∧ a.nanos ≤ b.nanos :=
  Prod.Lex.toLex_le_toLex

/-- That is the order of the numbers of nanoseconds. -/
theorem le_iff_total_le : a ≤ b ↔ a.total ≤ b.total := by
  have ha := a.nanos_lt
  have hb := b.nanos_lt
  rw [le_iff, total, total]
  omega

/-- No delay is behind the longest. -/
theorem le_greatest (d : Delay) : d ≤ greatest := le_iff_total_le.mpr (total_le_greatest d)

/-- More often is not shorter. -/
theorem scale_mono (d : Delay) : Monotone fun factor => d.scale factor := by
  intro m n hmn
  rw [le_iff_total_le, total_scale, total_scale]
  have hmul : d.total * m ≤ d.total * n := Nat.mul_le_mul_left d.total hmn
  omega

/-! ## Words -/

/-- A delay as a machine keeps it, with 64 bits for the seconds and 32 for the nanoseconds. -/
@[ext]
structure Words where
  seconds : BitVec 64
  nanos : BitVec 32
  deriving DecidableEq

namespace Words

/-- A word of 32 bits in one that is twice as wide. -/
def widen (x : BitVec 32) : BitVec 64 := x.setWidth 64

variable (w : Words) (factor : BitVec 32)

/-- The nanoseconds times a factor. -/
def product : BitVec 64 := widen w.nanos * widen factor

/-- The whole seconds in this product. -/
def carry : BitVec 64 := w.product factor / 1000000000#64

/-- What it has below a second. -/
def rest : BitVec 32 := (w.product factor % 1000000000#64).setWidth 32

/-- Whether the seconds of the multiple have no room, which is asked of their product with the
factor and then of its sum with the carry. -/
def overflows : Bool :=
  w.seconds.umulOverflow (widen factor)
    || (w.seconds * widen factor).uaddOverflow (w.carry factor)

/-- Widening a word keeps its number. -/
@[simp]
theorem toNat_widen (x : BitVec 32) : (widen x).toNat = x.toNat :=
  BitVec.toNat_setWidth_of_le (by decide)

end Words

def words (d : Delay) : Words := ⟨BitVec.ofNat 64 d.seconds, BitVec.ofNat 32 d.nanos⟩

/-- The words of a multiple, with products and sums that keep only what has room in a word. -/
def Words.scale (factor : BitVec 32) (w : Words) : Words :=
  if w.overflows factor then greatest.words
  else ⟨w.seconds * widen factor + w.carry factor, w.rest factor⟩

variable (d : Delay) (factor : BitVec 32)

/-- The seconds of a delay have room in 64 bits. -/
@[simp]
theorem toNat_seconds_words : d.words.seconds.toNat = d.seconds :=
  Nat.mod_eq_of_lt d.seconds_lt

/-- The nanoseconds of a delay have room in 32 bits. -/
@[simp]
theorem toNat_nanos_words : d.words.nanos.toNat = d.nanos :=
  Nat.mod_eq_of_lt (d.nanos_lt.trans (by decide))

/-- The words keep a delay completely. -/
theorem words_injective : Function.Injective words := by
  intro a b h
  apply eq_of_total_eq
  rw [total, total, ← toNat_seconds_words a, ← toNat_nanos_words a, h, toNat_seconds_words,
    toNat_nanos_words]

/-- A second has fewer nanoseconds than 32 bits can count, so any factor of 32 bits leaves room
for their product in 64. -/
theorem nanos_mul_lt : d.nanos * factor.toNat < 2 ^ 64 :=
  calc d.nanos * factor.toNat
    _ ≤ 1000000000 * 2 ^ 32 := Nat.mul_le_mul (Nat.le_of_lt d.nanos_lt) (Nat.le_of_lt factor.isLt)
    _ < 2 ^ 64 := by decide

/-- The product of two words of 32 bits has room in 64, so the nanoseconds never overflow. -/
theorem umulOverflow_nanos :
    (Words.widen d.words.nanos).umulOverflow (Words.widen factor) = false := by
  have hlt := nanos_mul_lt d factor
  simpa [BitVec.umulOverflow] using hlt

/-- The product of the nanoseconds with the factor is exact. -/
theorem toNat_product : (d.words.product factor).toNat = d.nanos * factor.toNat := by
  rw [Words.product, BitVec.toNat_mul_of_not_umulOverflow (by simp [umulOverflow_nanos]),
    Words.toNat_widen, Words.toNat_widen, toNat_nanos_words]

/-- So are the whole seconds in it. -/
theorem toNat_carry : (d.words.carry factor).toNat = d.nanos * factor.toNat / 1000000000 := by
  rw [Words.carry, BitVec.toNat_udiv, toNat_product]
  rfl

/-- What is left below a second has room in the word for nanoseconds. -/
theorem toNat_rest : (d.words.rest factor).toNat = d.nanos * factor.toNat % 1000000000 := by
  have hlt : d.nanos * factor.toNat % 1000000000 < 2 ^ 32 :=
    (Nat.mod_lt _ (by decide)).trans (by decide)
  rw [Words.rest, BitVec.toNat_setWidth, BitVec.toNat_umod, toNat_product]
  exact Nat.mod_eq_of_lt hlt

/-- The flags stay down as long as the multiple has no more seconds than a delay can have, and no
longer. -/
theorem overflows_eq_false_iff : d.words.overflows factor = false
    ↔ d.seconds * factor.toNat + d.nanos * factor.toNat / 1000000000 < 1 <<< 64 := by
  rw [Words.overflows, Bool.or_eq_false_iff, Nat.shiftLeft_eq]
  by_cases hmul : d.seconds * factor.toNat < 2 ^ 64
  · have hflag : d.words.seconds.umulOverflow (Words.widen factor) = false := by
      simpa [BitVec.umulOverflow] using hmul
    have hproduct : (d.words.seconds * Words.widen factor).toNat = d.seconds * factor.toNat := by
      rw [BitVec.toNat_mul_of_not_umulOverflow (by simp [hflag]), toNat_seconds_words,
        Words.toNat_widen]
    simp [hflag, BitVec.uaddOverflow, hproduct, toNat_carry]
  · have hflag : d.words.seconds.umulOverflow (Words.widen factor) = true := by
      simpa [BitVec.umulOverflow] using hmul
    simp only [hflag, Bool.true_eq_false, false_and, false_iff]
    omega

/-- In words a multiple is what it is in numbers. -/
theorem words_scale : (d.scale factor.toNat).words = d.words.scale factor := by
  rw [scale, Words.scale]
  rcases hflags : d.words.overflows factor with _ | _
  · have hlt := (overflows_eq_false_iff d factor).mp hflags
    obtain ⟨hmul, hadd⟩ := Bool.or_eq_false_iff.mp hflags
    simp only [hlt, dif_pos, Bool.false_eq_true, if_false]
    apply Words.ext
    · apply BitVec.eq_of_toNat_eq
      rw [toNat_seconds_words, BitVec.toNat_add_of_not_uaddOverflow (by simp [hadd]),
        BitVec.toNat_mul_of_not_umulOverflow (by simp [hmul]), toNat_seconds_words,
        Words.toNat_widen, toNat_carry]
    · apply BitVec.eq_of_toNat_eq
      rw [toNat_nanos_words, toNat_rest]
  · have hge := mt (overflows_eq_false_iff d factor).mpr (by simp [hflags])
    simp only [hge, dif_neg, not_false_eq_true, if_true]

end Delay

end CountingHouse
