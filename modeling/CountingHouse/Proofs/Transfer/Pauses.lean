/-
How long orders pause.

The first pause is the one that the policy names. Every further one is twice the pause before, up
to the eleventh, and from there on they stay as they are; where no delay is that long, the longest
one stands in. In nanoseconds a pause is therefore one product and one minimum (`total_backoff`),
and because neither the doublings nor the products ever go down, no pause is shorter than one
before it (`backoff_mono`).

The power of two is a one that is shifted, in a word of 32 bits, and how far is a word again. It
goes no further than ten, so the one always stays in its word (`toNat_factor`), and multiplying in
words by it gives the words of the pause (`words_backoff`).
-/
import CountingHouse.Transfer.Policy
import CountingHouse.Proofs.Schedule.Multiples

set_option autoImplicit false

namespace CountingHouse

namespace TransferPolicy

/-- How often the first pause is doubled for the one before a retry. Retries count from one; a
retry number zero would pause like the first. -/
def doublings (retry : Nat) : Nat := min (max retry 1 - 1) 10

/-- The first retry doubles nothing, each further one doubles once more, and ten doublings are the
most. -/
theorem doublings_eq (retry : Nat) : doublings retry = min (retry - 1) 10 := by
  unfold doublings
  omega

/-- A later retry does not double less. -/
theorem doublings_mono : Monotone doublings := by
  intro a b hab
  unfold doublings
  omega

/-! ## The power of two in a word -/

/-- The retries before one, as a word: one less, but none before a retry number zero. -/
def earlier (retry : BitVec 32) : BitVec 32 := if retry = 0 then 0 else retry - 1

/-- How far a one is shifted: by the retries before, and no further than ten. -/
def shift (retry : BitVec 32) : BitVec 32 := if earlier retry < 10 then earlier retry else 10

/-- A one, shifted so far. -/
def factor (retry : BitVec 32) : BitVec 32 := 1#32 <<< shift retry

variable (retry : BitVec 32)

/-- The number of earlier retries does not fall below zero. -/
theorem toNat_earlier : (earlier retry).toNat = retry.toNat - 1 := by
  unfold earlier
  split
  · next hzero =>
    rw [hzero]
    rfl
  · next hpos =>
    have hpos : retry.toNat ≠ 0 := fun hzero => hpos (BitVec.eq_of_toNat_eq hzero)
    bv_omega

/-- The shift in the word is the number of doublings, so it stays below the width of the word. -/
theorem toNat_shift : (shift retry).toNat = doublings retry.toNat := by
  rw [doublings_eq, ← toNat_earlier]
  unfold shift
  split
  · next hlt =>
    have hlt : (earlier retry).toNat < 10 := hlt
    exact (Nat.min_eq_left (Nat.le_of_lt hlt)).symm
  · next hge =>
    have hge : ¬ (earlier retry).toNat < 10 := hge
    exact (Nat.min_eq_right (Nat.not_lt.mp hge)).symm

/-- A word has more places than the one is shifted by. -/
theorem shift_lt : (shift retry).toNat < 32 := by
  rw [toNat_shift, doublings]
  omega

/-- The power of two has room in the word. -/
theorem toNat_factor : (factor retry).toNat = 2 ^ doublings retry.toNat := by
  have hlt : 2 ^ (shift retry).toNat < 2 ^ 32 :=
    Nat.pow_lt_pow_right (by decide) (shift_lt retry)
  have hone : (1#32).toNat = 1 := rfl
  rw [factor, BitVec.shiftLeft_eq', BitVec.toNat_shiftLeft, hone, Nat.one_shiftLeft, ← toNat_shift]
  exact Nat.mod_eq_of_lt hlt

/-! ## Pauses -/

variable (p : TransferPolicy)

/-- A pause is the first one times a power of two. -/
theorem backoff_eq (retry : Nat) :
    p.backoff retry = p.retryBackoff.scale (2 ^ doublings retry) := by
  rw [doublings_eq]
  rfl

/-- A pause is the first one doubled so often, or the longest delay if that is shorter. -/
theorem total_backoff (retry : Nat) : (p.backoff retry).total
    = min (p.retryBackoff.total * 2 ^ doublings retry) Delay.greatest.total := by
  rw [backoff_eq, Delay.total_scale]

/-- The last delay that can still be doubled: its nanoseconds make the second that was missing. -/
example : ({ retryBackoff := ⟨(1 <<< 63) - 1, 999999999, by decide, by decide⟩ } :
      TransferPolicy).backoff 2
    = ⟨(1 <<< 64) - 1, 999999998, by decide, by decide⟩ := by decide

/-- A pause has the length that the doublings make if there is a delay of that length. -/
theorem total_backoff_eq_iff (retry : Nat) :
    (p.backoff retry).total = p.retryBackoff.total * 2 ^ doublings retry
      ↔ ∃ d : Delay, d.total = p.retryBackoff.total * 2 ^ doublings retry := by
  rw [total_backoff, Delay.exists_total_eq_iff]
  omega

/-- If there is none, it is the longest delay. -/
theorem backoff_eq_greatest {retry : Nat}
    (h : ¬ ∃ d : Delay, d.total = p.retryBackoff.total * 2 ^ doublings retry) :
    p.backoff retry = .greatest := by
  rw [Delay.exists_total_eq_iff, Nat.not_le] at h
  apply Delay.eq_of_total_eq
  rw [total_backoff]
  exact Nat.min_eq_right (Nat.le_of_lt h)

/-- The calculation in words gives the words of the pause. -/
theorem words_backoff :
    (p.backoff retry.toNat).words = p.retryBackoff.words.scale (factor retry) := by
  rw [backoff_eq, ← toNat_factor, Delay.words_scale]

/-- What comes out in words is the pause and no other delay. -/
theorem words_eq_scale_iff {retry : BitVec 32} {d : Delay} :
    d.words = p.retryBackoff.words.scale (factor retry) ↔ d = p.backoff retry.toNat := by
  rw [← words_backoff]
  exact Delay.words_injective.eq_iff

/-- No pause is shorter than one before it. -/
theorem backoff_mono : Monotone p.backoff := by
  intro a b hab
  rw [backoff_eq, backoff_eq]
  exact p.retryBackoff.scale_mono (Nat.pow_le_pow_right (by decide) (doublings_mono hab))

/-- What is promised of the pauses of a policy, in numbers and in words. -/
structure Paced : Prop where
  /-- A pause has the nanoseconds of the first one, doubled as often as the retry asks for, or those
  of the longest delay if they are fewer. -/
  total_eq : ∀ retry, (p.backoff retry).total
    = min (p.retryBackoff.total * 2 ^ doublings retry) Delay.greatest.total
  /-- It is exact where there is a delay of that length. -/
  exact_iff : ∀ retry, (p.backoff retry).total = p.retryBackoff.total * 2 ^ doublings retry
    ↔ ∃ d : Delay, d.total = p.retryBackoff.total * 2 ^ doublings retry
  /-- Where there is none, the longest delay stands in. -/
  saturated : ∀ retry, (¬ ∃ d : Delay, d.total = p.retryBackoff.total * 2 ^ doublings retry) →
    p.backoff retry = .greatest
  le_greatest : ∀ d : Delay, d ≤ .greatest
  /-- In words, the one is shifted by fewer places than its word has, and it is not lost. -/
  shift_fits : ∀ retry : BitVec 32,
    (shift retry).toNat < 32 ∧ (factor retry).toNat = 2 ^ doublings retry.toNat
  /-- The product of the nanoseconds has room in its word. -/
  product_fits : ∀ retry : BitVec 32, (Delay.Words.widen p.retryBackoff.words.nanos).umulOverflow
    (Delay.Words.widen (factor retry)) = false
  /-- So the seconds that are carried and the nanoseconds that are left are those of the number. -/
  carry_fits : ∀ retry : BitVec 32,
    (p.retryBackoff.words.carry (factor retry)).toNat
        = p.retryBackoff.nanos * 2 ^ doublings retry.toNat / 1000000000
      ∧ (p.retryBackoff.words.rest (factor retry)).toNat
        = p.retryBackoff.nanos * 2 ^ doublings retry.toNat % 1000000000
  /-- Computed in words, a pause is the same: they are the words of this delay and of no other. -/
  words_iff : ∀ (retry : BitVec 32) (d : Delay),
    d.words = p.retryBackoff.words.scale (factor retry) ↔ d = p.backoff retry.toNat
  /-- No pause is shorter than one before it. -/
  mono : Monotone p.backoff

/-- The pauses of every policy are like that, whatever the first one is. -/
theorem paced : p.Paced where
  total_eq := p.total_backoff
  exact_iff := p.total_backoff_eq_iff
  saturated _ := p.backoff_eq_greatest
  le_greatest := Delay.le_greatest
  shift_fits retry := ⟨shift_lt retry, toNat_factor retry⟩
  product_fits retry := p.retryBackoff.umulOverflow_nanos (factor retry)
  carry_fits retry := by
    rw [Delay.toNat_carry, Delay.toNat_rest, toNat_factor]
    exact ⟨rfl, rfl⟩
  words_iff _ _ := p.words_eq_scale_iff
  mono := p.backoff_mono

end TransferPolicy

end CountingHouse
