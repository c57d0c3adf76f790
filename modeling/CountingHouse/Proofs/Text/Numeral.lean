/-
Numerals are read back.

A numeral is a non-empty run of digits whose value is the number that was written; zeros in
front do not change the value. A reader that takes digits while there are some takes exactly
the numeral, as long as what stands behind it is no digit or the reader has its fill. A reader
of a whole text takes the numerals, with the signs that it allows, of the numbers that are
within its bounds, and takes nothing else (`readNat?_eq_some_iff`, `readInt?_eq_some_iff`).
-/
import CountingHouse.Calendar.Date
import Mathlib

set_option autoImplicit false

namespace CountingHouse.Text

/-! ## Digits -/

/-- What is written for a number below ten is a digit. -/
theorem isDigit_digitChar {n : Nat} (h : n < 10) : (digitChar n).isDigit = true := by
  have small : ∀ n < 10, (digitChar n).isDigit = true := by decide
  exact small n h

/-- It is read as that number. -/
theorem digitValue?_digitChar {n : Nat} (h : n < 10) : digitValue? (digitChar n) = some n := by
  have small : ∀ n < 10, digitValue? (digitChar n) = some n := by decide
  exact small n h

/-- A digit is no sign. -/
theorem ne_sign_of_isDigit {c : Char} (h : c.isDigit = true) : c ≠ '-' ∧ c ≠ '+' := by
  constructor <;> rintro rfl <;> exact absurd h (by decide)

/-- One more digit makes ten times the number and adds its own. -/
theorem digitsValue?_append_singleton (s : List Char) (c : Char) :
    digitsValue? (s ++ [c])
      = (digitsValue? s).bind fun n => (digitValue? c).map fun d => 10 * n + d := by
  unfold digitsValue?
  rw [List.foldl_append]
  rcases List.foldl _ (some 0) s with _ | n
  · rfl
  · rcases hd : digitValue? c with _ | d <;> simp [hd]

/-- Whether a text is a run of digits. -/
def IsRun (s : List Char) : Prop := ∀ c ∈ s, c.isDigit = true

/-- Two runs of digits are one run. -/
theorem IsRun.append {s t : List Char} (hs : IsRun s) (ht : IsRun t) : IsRun (s ++ t) := by
  intro c hc
  rcases List.mem_append.mp hc with hc | hc
  · exact hs c hc
  · exact ht c hc

/-! ## Numerals -/

/-- A number is written with at least one digit. -/
theorem natNumeral_ne_nil (n : Nat) : natNumeral n ≠ [] := by
  rw [natNumeral]
  split <;> simp

/-- A number is written with digits only. -/
theorem isRun_natNumeral (n : Nat) : IsRun (natNumeral n) := by
  induction n using natNumeral.induct with
  | case1 n h =>
    rw [natNumeral, if_pos h]
    simpa [IsRun] using isDigit_digitChar h
  | case2 n h ih =>
    rw [natNumeral, if_neg h]
    refine ih.append ?_
    simpa [IsRun] using isDigit_digitChar (Nat.mod_lt n (by decide))

/-- A number is read back from its digits. -/
theorem digitsValue?_natNumeral (n : Nat) : digitsValue? (natNumeral n) = some n := by
  induction n using natNumeral.induct with
  | case1 n h =>
    rw [natNumeral, if_pos h]
    have hone := digitsValue?_append_singleton [] (digitChar n)
    rw [digitValue?_digitChar h] at hone
    simpa [digitsValue?] using hone
  | case2 n h ih =>
    rw [natNumeral, if_neg h, digitsValue?_append_singleton, ih,
      digitValue?_digitChar (Nat.mod_lt n (by decide))]
    simp only [Option.bind_some, Option.map_some, Option.some.injEq]
    omega

/-- No number but zero is written with a zero in front. -/
theorem natNumeral_eq_of_head? (n : Nat) (h : (natNumeral n).head? = some '0') :
    natNumeral n = ['0'] := by
  induction n using natNumeral.induct with
  | case1 n hn =>
    rw [natNumeral, if_pos hn] at h ⊢
    rw [Option.some.inj h]
  | case2 n hn ih =>
    rw [natNumeral, if_neg hn, List.head?_append_of_ne_nil _ (natNumeral_ne_nil _)] at h
    have hvalue := digitsValue?_natNumeral (n / 10)
    rw [ih h] at hvalue
    have hzero : 0 = n / 10 := Option.some.inj hvalue
    omega

/-- A number below a power of ten has no more digits than its exponent. -/
theorem length_natNumeral_le {n k : Nat} (hk : 0 < k) (h : n < 10 ^ k) :
    (natNumeral n).length ≤ k := by
  induction n using natNumeral.induct generalizing k with
  | case1 n hn =>
    rw [natNumeral, if_pos hn]
    exact hk
  | case2 n hn ih =>
    rw [natNumeral, if_neg hn, List.length_append, List.length_singleton]
    obtain ⟨k, rfl⟩ : ∃ j, k = j + 1 := ⟨k - 1, by omega⟩
    -- a number of two digits or more is not below ten
    have hpos : 0 < k := by
      rcases Nat.eq_zero_or_pos k with rfl | hpos
      · simp at h
        omega
      · exact hpos
    have hlt : n / 10 < 10 ^ k := by
      rw [Nat.div_lt_iff_lt_mul (by decide)]
      rwa [Nat.pow_succ] at h
    have := ih hpos hlt
    omega

/-! ## Zeros in front -/

/-- Zeros in front of a number are digits, too. -/
theorem isRun_padded (width n : Nat) : IsRun (padded width n) := by
  refine IsRun.append ?_ (isRun_natNumeral n)
  intro c hc
  rw [List.eq_of_mem_replicate hc]
  rfl

/-- A number with zeros in front has at least one digit. -/
theorem padded_ne_nil (width n : Nat) : padded width n ≠ [] := by
  unfold padded
  exact List.append_ne_nil_of_right_ne_nil _ (natNumeral_ne_nil n)

/-- Zeros in front do not change what is read. -/
theorem digitsValue?_zeros_append (k : Nat) (s : List Char) :
    digitsValue? (List.replicate k '0' ++ s) = digitsValue? s := by
  have hzero : digitValue? '0' = some 0 := by decide
  induction k with
  | zero => rfl
  | succ k ih =>
    rw [List.replicate_succ, List.cons_append, ← ih]
    unfold digitsValue?
    rw [List.foldl_cons]
    simp [hzero]

/-- A number with zeros in front is read as the number. -/
theorem digitsValue?_padded (width n : Nat) : digitsValue? (padded width n) = some n := by
  unfold padded
  rw [digitsValue?_zeros_append, digitsValue?_natNumeral]

/-- A number that fits the width fills it. -/
theorem length_padded {width n : Nat} (hwidth : 0 < width) (h : n < 10 ^ width) :
    (padded width n).length = width := by
  have hle := length_natNumeral_le hwidth h
  unfold padded
  rw [List.length_append, List.length_replicate]
  omega

/-! ## What runs mean -/

/-- What the digits of a run mean to the base of ten. -/
def runValue (s : List Char) : Nat := Nat.ofDigits 10 (s.reverse.map fun c => c.toNat - '0'.toNat)

/-- The front of a run counts for as many tens as there are digits behind it. -/
theorem runValue_append (s t : List Char) :
    runValue (s ++ t) = runValue s * 10 ^ t.length + runValue t := by
  unfold runValue
  rw [List.reverse_append, List.map_append, Nat.ofDigits_append, List.length_map,
    List.length_reverse]
  ring

/-- A digit counts for its distance from zero. -/
theorem runValue_singleton (c : Char) : runValue [c] = c.toNat - '0'.toNat :=
  Nat.ofDigits_singleton

/-- Exactly the ten digits are read, each as its distance from zero. -/
theorem digitValue?_eq_some_iff {c : Char} {d : Nat} :
    digitValue? c = some d ↔ c.isDigit = true ∧ c.toNat - '0'.toNat = d := by
  unfold digitValue?
  split <;> simp [*]

/-- Exactly the runs of digits are read, each as its number. -/
theorem digitsValue?_eq_some_iff {s : List Char} {n : Nat} :
    digitsValue? s = some n ↔ IsRun s ∧ runValue s = n := by
  induction s using List.reverseRecOn generalizing n with
  | nil =>
    have hempty : IsRun [] := fun c hc => absurd hc List.not_mem_nil
    simp [digitsValue?, hempty, runValue]
  | append_singleton s c ih =>
    have hrun : IsRun (s ++ [c]) ↔ IsRun s ∧ c.isDigit = true := by
      simp only [IsRun, List.forall_mem_append, List.forall_mem_singleton]
    rw [digitsValue?_append_singleton, hrun, runValue_append, runValue_singleton,
      List.length_singleton, pow_one, Nat.mul_comm]
    simp only [Option.bind_eq_some_iff, Option.map_eq_some_iff, ih, digitValue?_eq_some_iff]
    constructor
    · rintro ⟨m, ⟨hs, rfl⟩, d, ⟨hc, rfl⟩, rfl⟩
      exact ⟨⟨hs, hc⟩, rfl⟩
    · rintro ⟨⟨hs, hc⟩, rfl⟩
      exact ⟨_, ⟨hs, rfl⟩, _, ⟨hc, rfl⟩, rfl⟩

/-- The digits of a number mean that number. -/
theorem runValue_natNumeral (n : Nat) : runValue (natNumeral n) = n :=
  (digitsValue?_eq_some_iff.mp (digitsValue?_natNumeral n)).2

/-- So do its digits with zeros in front. -/
theorem runValue_padded (width n : Nat) : runValue (padded width n) = n :=
  (digitsValue?_eq_some_iff.mp (digitsValue?_padded width n)).2

/-! ## Whole texts -/

/-- Whether a text is a numeral of a number, with or without zeros in front. -/
structure IsNumeral (s : List Char) (n : Nat) : Prop where
  ne_nil : s ≠ []
  isRun : IsRun s
  value : runValue s = n

/-- Whether a text is a numeral of a number, perhaps with a plus sign. -/
def SpellsNat (s : List Char) (n : Nat) : Prop :=
  IsNumeral s n ∨ ∃ digits, s = '+' :: digits ∧ IsNumeral digits n

/-- Whether a text is a numeral of an integer, perhaps with a sign. -/
def SpellsInt (s : List Char) (n : Int) : Prop :=
  ∃ m : Nat, (SpellsNat s m ∧ n = m) ∨ ∃ digits, s = '-' :: digits ∧ IsNumeral digits m ∧ n = -m

/-- Digits are read exactly if they are a numeral of the number. -/
theorem readDigits?_eq_some_iff {s : List Char} {n : Nat} :
    readDigits? s = some n ↔ IsNumeral s n := by
  cases s with
  | nil => exact ⟨fun h => absurd h (by simp [readDigits?]), fun h => absurd rfl h.ne_nil⟩
  | cons c s =>
    unfold readDigits?
    rw [digitsValue?_eq_some_iff]
    exact ⟨fun h => ⟨List.cons_ne_nil c s, h.1, h.2⟩, fun h => ⟨h.isRun, h.value⟩⟩

/-- No numeral starts with a character that is no digit. -/
theorem not_isNumeral_cons {c : Char} (hc : c.isDigit = false) (s : List Char) (n : Nat) :
    ¬ IsNumeral (c :: s) n := by
  intro h
  have hdigit := h.isRun c List.mem_cons_self
  rw [hc] at hdigit
  exact Bool.false_ne_true hdigit

/-- A text with no sign in front of it is a numeral or spells nothing. -/
theorem spellsNat_iff_isNumeral {s : List Char} {n : Nat} (h : ∀ digits, s ≠ '+' :: digits) :
    SpellsNat s n ↔ IsNumeral s n :=
  or_iff_left fun ⟨digits, hs, _⟩ => h digits hs

/-- Behind a plus there has to be a numeral, without another sign. -/
theorem spellsNat_plus {digits : List Char} {n : Nat} :
    SpellsNat ('+' :: digits) n ↔ IsNumeral digits n := by
  unfold SpellsNat
  simp [not_isNumeral_cons (c := '+') (by decide)]

/-- What is read and passes a check behind it. -/
theorem checked_eq_some_iff {α : Type} {read : Option α} {p : α → Prop} [DecidablePred p] {a : α} :
    (do let b ← read; guard (p b); return b) = some a ↔ read = some a ∧ p a := by
  simp only [Option.bind_eq_bind, Option.bind_eq_some_iff, Option.guard_eq_some', Option.pure_def,
    Option.some.injEq]
  constructor
  · rintro ⟨b, hb, -, hp, rfl⟩
    exact ⟨hb, hp⟩
  · rintro ⟨ha, hp⟩
    exact ⟨a, ha, (), hp, rfl⟩

/-- A natural number is read from its spellings, up to the limit. -/
theorem readNat?_eq_some_iff {limit n : Nat} {s : List Char} :
    readNat? limit s = some n ↔ SpellsNat s n ∧ n ≤ limit := by
  unfold readNat?
  rw [checked_eq_some_iff (p := fun n => n ≤ limit), readDigits?_eq_some_iff]
  refine and_congr_left' ?_
  split
  · exact spellsNat_plus.symm
  · next hplain => exact (spellsNat_iff_isNumeral fun digits hs => hplain digits hs).symm

/-- Behind a minus there has to be a numeral, and the number is its negative. -/
theorem spellsInt_minus {digits : List Char} {n : Int} :
    SpellsInt ('-' :: digits) n ↔ ∃ m, IsNumeral digits m ∧ n = -m := by
  unfold SpellsInt SpellsNat
  simp [not_isNumeral_cons (c := '-') (by decide)]

/-- Without a minus an integer is spelled as a natural number is. -/
theorem spellsInt_iff_of_ne_minus {s : List Char} {n : Int} (h : ∀ digits, s ≠ '-' :: digits) :
    SpellsInt s n ↔ ∃ m : Nat, SpellsNat s m ∧ n = m := by
  unfold SpellsInt
  simp [h]

/-- An integer is read from its spellings, within the range. -/
theorem readInt?_eq_some_iff {low high n : Int} {s : List Char} :
    readInt? low high s = some n ↔ SpellsInt s n ∧ low ≤ n ∧ n ≤ high := by
  unfold readInt?
  simp only
  split
  · next digits =>
    rw [checked_eq_some_iff (p := fun n => low ≤ n ∧ n ≤ high), spellsInt_minus]
    simp only [Option.bind_eq_bind, Option.map_eq_some_iff, Option.bind_eq_some_iff,
      readDigits?_eq_some_iff, Option.pure_def, Option.some.injEq]
    refine and_congr_left' ⟨?_, ?_⟩
    · rintro ⟨_, ⟨m, hm, rfl⟩, rfl⟩
      exact ⟨m, hm, rfl⟩
    · rintro ⟨m, hm, rfl⟩
      exact ⟨m, ⟨m, hm, rfl⟩, rfl⟩
  · next digits =>
    rw [checked_eq_some_iff (p := fun n => low ≤ n ∧ n ≤ high), spellsInt_iff_of_ne_minus (by simp)]
    simp only [Option.map_eq_some_iff, readDigits?_eq_some_iff, spellsNat_plus,
      Int.ofNat_eq_natCast, eq_comm (a := n)]
  · next hminus hplus =>
    rw [checked_eq_some_iff (p := fun n => low ≤ n ∧ n ≤ high), spellsInt_iff_of_ne_minus hminus]
    simp only [Option.map_eq_some_iff, readDigits?_eq_some_iff, spellsNat_iff_isNumeral hplus,
      Int.ofNat_eq_natCast, eq_comm (a := n)]

end CountingHouse.Text

namespace CountingHouse.Date

open Text

/-! ## Reading -/

/-- A reader of digits takes a run of them off a text. -/
theorem readNumber?_append {width n : Nat} {s rest : List Char} (hrun : IsRun s) (hne : s ≠ [])
    (hwidth : s.length ≤ width) (hvalue : digitsValue? s = some n)
    (hstop : s.length = width ∨ ∀ c ∈ rest.head?, c.isDigit = false) :
    readNumber? width (s ++ rest) = some (n, rest) := by
  have htake : (s ++ rest).take width = s ++ rest.take (width - s.length) := by
    rw [List.take_append, List.take_of_length_le hwidth]
  have hnone : (rest.take (width - s.length)).takeWhile Char.isDigit = [] := by
    rcases hstop with hfull | hstop
    · rw [hfull, Nat.sub_self, List.take_zero]
      rfl
    · rcases rest with _ | ⟨c, rest⟩
      · simp
      · rcases width - s.length with _ | k
        · rfl
        · rw [List.take_succ_cons, List.takeWhile_cons, hstop c rfl]
          rfl
  have hdigits : ((s ++ rest).take width).takeWhile Char.isDigit = s := by
    rw [htake, List.takeWhile_append_of_pos hrun, hnone, List.append_nil]
  have hfound : (!s.isEmpty) = true := by simpa using hne
  unfold readNumber?
  simp only [hdigits, hfound, hvalue, List.drop_left]
  rfl

/-- A number of a fixed width is read off the front of a text. -/
theorem readNumber?_padded {width n : Nat} (hwidth : 0 < width) (h : n < 10 ^ width)
    (rest : List Char) : readNumber? width (padded width n ++ rest) = some (n, rest) :=
  readNumber?_append (isRun_padded width n) (padded_ne_nil width n)
    (Nat.le_of_eq (length_padded hwidth h)) (digitsValue?_padded width n)
    (.inl (length_padded hwidth h))

end CountingHouse.Date
