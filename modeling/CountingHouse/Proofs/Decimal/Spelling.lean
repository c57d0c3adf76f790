/-
Decimals are read back.

The digits of a decimal in plain notation, the point aside, are the digits of its magnitude. A
reader that takes them one by one has a number in front of it that only grows, so it never runs
out of room before the last digit: neither in the magnitude, which fits, nor behind the point,
where there are as many digits as the scale says. So a decimal is read with the magnitude, the
scale and the sign that were written, except that a zero loses its sign.
-/
import CountingHouse.Decimal.Json
import CountingHouse.Proofs.Json.Records
import CountingHouse.Proofs.Text.Numeral

set_option autoImplicit false

namespace CountingHouse.Decimal

open Text

variable {s : List Char}

/-! ## Runs of digits -/

/-- A run of digits is taken as a whole if there is room for what it means. -/
theorem readOn?_append (hrun : IsRun s) (pointed begun : Bool) (magnitude scale : Nat)
    (hfits : magnitude * 10 ^ s.length + runValue s < coefficientBound)
    (hscale : if pointed then scale + s.length ≤ maxScale else scale = 0) (rest : List Char) :
    readOn? pointed begun magnitude scale (s ++ rest)
      = readOn? pointed (begun || !s.isEmpty) (magnitude * 10 ^ s.length + runValue s)
        (if pointed then scale + s.length else 0) rest := by
  induction s generalizing begun magnitude scale with
  | nil =>
    have hempty : runValue [] = 0 := rfl
    have hsame : (if pointed then scale + 0 else 0) = scale := by
      cases pointed
      · exact hscale.symm
      · rfl
    rw [List.nil_append, List.length_nil, hempty, pow_zero, Nat.mul_one, Nat.add_zero, hsame,
      List.isEmpty_nil, Bool.not_true, Bool.or_false]
  | cons c s ih =>
    have hdigit := digitValue?_eq_some_iff.mpr ⟨hrun c List.mem_cons_self, rfl⟩
    have hmore : IsRun s := fun d hd => hrun d (List.mem_cons_of_mem c hd)
    have hvalue : (magnitude * 10 + (c.toNat - '0'.toNat)) * 10 ^ s.length + runValue s
        = magnitude * 10 ^ (c :: s).length + runValue (c :: s) := by
      rw [← List.singleton_append, runValue_append, runValue_singleton, List.length_append,
        List.length_singleton, pow_add]
      ring
    -- the number so far is at most the number in the end
    have hroom : magnitude * 10 + (c.toNat - '0'.toNat) < coefficientBound := by
      have hpos : 0 < 10 ^ s.length := Nat.pos_of_ne_zero (by simp)
      have hle := Nat.le_mul_of_pos_right (magnitude * 10 + (c.toNat - '0'.toNat)) hpos
      omega
    have hlength : scale + (c :: s).length = scale + 1 + s.length := by
      rw [List.length_cons]
      omega
    -- behind the point there is room for this digit at least
    have hopen : (pointed && scale == maxScale) = false := by
      cases pointed
      · rfl
      · simp only [if_true, hlength] at hscale
        simp only [Bool.true_and, beq_eq_false_iff_ne]
        omega
    have hnext : if pointed then (if pointed then scale + 1 else 0) + s.length ≤ maxScale
        else (if pointed then scale + 1 else 0) = 0 := by
      cases pointed
      · rfl
      · simpa only [if_true, hlength] using hscale
    rw [List.cons_append, readOn?, hopen, hdigit]
    simp only [Bool.false_eq_true, if_false, if_pos hroom]
    rw [ih hmore true _ _ (by rwa [hvalue]) hnext, hvalue, hlength]
    cases pointed <;> simp

/-! ## Plain notation -/

/-- The decimal as it is read: a zero has no sign. -/
def shown (d : Decimal) : Decimal := { d with isNegative := d.isNegative && d.magnitude != 0 }

/-- Only a negative zero is shown as something else. -/
theorem shown_of_not_isNegative {d : Decimal} (h : d.isNegative = false) : d.shown = d := by
  unfold shown
  rw [h, Bool.false_and]
  cases d
  cases h
  rfl

/-- What is read is the same number with the same number of digits behind the point. -/
theorem coefficient_shown (d : Decimal) : d.shown.coefficient = d.coefficient := by
  unfold shown coefficient
  by_cases hzero : d.magnitude = 0
  · simp [hzero]
  · simp [hzero]

/-- A numeral in front of whatever follows it. -/
theorem readOn?_natNumeral {n : Nat} (h : n < coefficientBound) (rest : List Char) :
    readOn? false false 0 0 (natNumeral n ++ rest) = readOn? false true n 0 rest := by
  have hvalue : 0 * 10 ^ (natNumeral n).length + runValue (natNumeral n) = n := by
    rw [runValue_natNumeral, Nat.zero_mul, Nat.zero_add]
  have hsome : (natNumeral n).isEmpty = false := by simpa using natNumeral_ne_nil n
  rw [readOn?_append (isRun_natNumeral n) false false 0 0 (by rwa [hvalue]) rfl, hvalue, hsome]
  rfl

/-- Plain notation is read back from an empty start: the whole digits, the point if there are
places, and the places, a run of digits each. -/
theorem readOn?_writePlain {magnitude scale : Nat} (hmagnitude : magnitude < coefficientBound)
    (hscale : scale ≤ maxScale) :
    readOn? false false 0 0 (writePlain magnitude scale) = some (magnitude, scale) := by
  unfold writePlain
  split
  · next hwhole =>
    have hread := readOn?_natNumeral hmagnitude []
    rw [List.append_nil] at hread
    rw [hread, hwhole]
    rfl
  · next hfraction =>
    have hpos : 0 < Nat.pow 10 scale := Nat.pow_pos (by decide)
    have hlength : (padded scale (magnitude % Nat.pow 10 scale)).length = scale :=
      length_padded (Nat.pos_of_ne_zero hfraction) (Nat.mod_lt _ hpos)
    -- whole part and fraction are put together again by the digits of the fraction
    have hvalue : magnitude / Nat.pow 10 scale * 10 ^ scale
        + runValue (padded scale (magnitude % Nat.pow 10 scale)) = magnitude := by
      rw [runValue_padded, Nat.mul_comm]
      exact Nat.div_add_mod magnitude (10 ^ scale)
    have hwhole : magnitude / Nat.pow 10 scale < coefficientBound :=
      Nat.lt_of_le_of_lt (Nat.div_le_self magnitude _) hmagnitude
    have hread := readOn?_append (isRun_padded scale (magnitude % Nat.pow 10 scale)) true true
      (magnitude / Nat.pow 10 scale) 0 (by rwa [hlength, hvalue])
      (by rwa [if_pos rfl, hlength, Nat.zero_add]) []
    rw [List.append_nil, hlength, hvalue] at hread
    rw [readOn?_natNumeral hwhole, readOn?]
    have hpoint : digitValue? '.' = none := by decide
    simp only [hpoint, Bool.false_and, Bool.false_eq_true, if_false, Bool.not_false, Bool.and_true,
      decide_true, if_true, hread]
    simp [readOn?]

/-- What is written without a sign starts with a digit. -/
theorem exists_cons_writePlain (magnitude scale : Nat) :
    ∃ c rest, writePlain magnitude scale = c :: rest ∧ c.isDigit = true := by
  have hnumeral : ∀ n, ∃ c rest, natNumeral n = c :: rest ∧ c.isDigit = true := by
    intro n
    obtain ⟨c, rest, hcons⟩ := List.exists_cons_of_ne_nil (natNumeral_ne_nil n)
    exact ⟨c, rest, hcons, isRun_natNumeral n c (by rw [hcons]; exact List.mem_cons_self)⟩
  unfold writePlain
  split
  · exact hnumeral magnitude
  · obtain ⟨c, rest, hcons, hdigit⟩ := hnumeral (magnitude / Nat.pow 10 scale)
    exact ⟨c, _, by rw [hcons, List.cons_append], hdigit⟩

/-- With the sign in front, which is written unless the magnitude is zero. -/
theorem readPlain?_write (d : Decimal) : readPlain? d.write = some d.shown := by
  have hsigned : ofSigned? d.isNegative d.magnitude d.scale = some d.shown :=
    dif_pos ⟨d.magnitude_lt, d.scale_le⟩
  have hread := readOn?_writePlain d.magnitude_lt d.scale_le
  obtain ⟨c, rest, hcons, hdigit⟩ := exists_cons_writePlain d.magnitude d.scale
  obtain ⟨hminus, hplus⟩ := ne_sign_of_isDigit hdigit
  unfold readPlain? write
  rcases hsign : d.isNegative with _ | _
  · rw [hsign] at hsigned
    rw [if_neg Bool.false_ne_true, List.nil_append]
    rw [hcons] at hread ⊢
    -- a digit is no sign
    split
    · next hsplit =>
      split at hsplit
      · next h => exact absurd (List.cons.inj h).1 hminus
      · next h => exact absurd (List.cons.inj h).1 hplus
      · cases hsplit
        simp only [hread, Option.bind_eq_bind, Option.bind_some, hsigned]
  · rw [hsign] at hsigned
    rw [if_pos rfl, List.singleton_append]
    simp only [hread, Option.bind_eq_bind, Option.bind_some, hsigned]

/-- The text of a decimal is read as what it shows. It has no exponent, so the reader of plain
notation is the one that answers. -/
theorem read?_write (d : Decimal) : read? d.write = some d.shown := by
  unfold read?
  rw [readPlain?_write]
  rfl

/-! ## Documents -/

/-- The same through a document: a decimal is written as a text, not as a number. -/
theorem ofJson?_settled (d : Decimal) : ofJson? d.toJson.settled = some d.shown := by
  have hread := Json.characters?_settled d.write
  simp only [toJson, toText, Json.ofText, Json.settled, ofJson?, String.toList_ofList, hread,
    Option.bind_eq_bind, Option.bind_some, read?_write]

end CountingHouse.Decimal
