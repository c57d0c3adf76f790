/-
Identifiers are read back.

The 32 digits of an identifier are its number in the base 16, with zeros in front, and the
hyphens can be taken out where they were put in.
-/
import CountingHouse.Uuid
import CountingHouse.Proofs.Json.RoundTrip

set_option autoImplicit false

namespace CountingHouse.Uuid

/-! ## Digits -/

/-- One more hexadecimal digit makes sixteen times the number and adds its own. -/
theorem hexNumber?_append_singleton (s : List Char) (c : Char) :
    hexNumber? (s ++ [c])
      = (hexNumber? s).bind fun n => (Json.hexValue? c).map fun d => 16 * n + d := by
  unfold hexNumber?
  rw [List.foldl_append]
  rcases List.foldl _ (some 0) s with _ | n
  · rfl
  · rcases hd : Json.hexValue? c with _ | d <;> simp [hd]

/-- As many digits are written as were asked for. -/
@[simp]
theorem length_hexDigits (count n : Nat) : (hexDigits count n).length = count := by
  induction count generalizing n with
  | zero => rfl
  | succ count ih => rw [hexDigits, List.length_append, ih, List.length_singleton]

/-- Some digits of a number are what the number leaves in as many places. -/
theorem hexNumber?_hexDigits (count n : Nat) :
    hexNumber? (hexDigits count n) = some (n % 16 ^ count) := by
  induction count generalizing n with
  | zero =>
    rw [Nat.pow_zero, Nat.mod_one]
    rfl
  | succ count ih =>
    rw [hexDigits, hexNumber?_append_singleton, ih,
      Json.hexValue?_hexDigit (Nat.mod_lt n (by decide)), Nat.pow_succ', Nat.mod_mul]
    simp only [Option.bind_some, Option.map_some, Option.some.injEq]
    exact Nat.add_comm _ _

/-- An identifier is read back from its 32 digits. -/
theorem readDigits?_hexDigits (u : Uuid) : readDigits? (hexDigits 32 u.bits.toNat) = some u := by
  have hlt : u.bits.toNat < 16 ^ 32 := u.bits.isLt
  unfold readDigits?
  rw [if_pos (length_hexDigits 32 _), hexNumber?_hexDigits, Nat.mod_eq_of_lt hlt, Option.map_some,
    BitVec.ofNat_toNat, BitVec.setWidth_eq]

/-! ## Hyphens -/

section Hyphens

variable {digits : List Char} (h : digits.length = 32)

include h

/-- The hyphens make 36 characters of 32. -/
theorem length_hyphenated : (hyphenated digits).length = 36 := by
  simp only [hyphenated, List.length_append, List.length_cons, List.length_take, List.length_drop]
  omega

/-- The groups of digits between the hyphens. -/
theorem groups_hyphenated :
    (hyphenated digits).take 8 ++ ((hyphenated digits).drop 9).take 4
      ++ ((hyphenated digits).drop 14).take 4 ++ ((hyphenated digits).drop 19).take 4
      ++ (hyphenated digits).drop 24 = digits := by
  have hjoin : ∀ k, (digits.drop k).take 4 ++ digits.drop (k + 4) = digits.drop k := fun k => by
    rw [← List.drop_drop, List.take_append_drop]
  calc
    _ = digits.take 8 ++ ((digits.drop 8).take 4 ++ ((digits.drop 12).take 4
          ++ ((digits.drop 16).take 4 ++ digits.drop (16 + 4)))) := by
      simp [hyphenated, List.drop_append, List.drop_eq_nil_of_le, h]
    _ = digits := by rw [hjoin 16, hjoin 12, hjoin 8, List.take_append_drop]

end Hyphens

/-- An identifier is read back from its text. -/
theorem read?_write (u : Uuid) : read? u.write = some u := by
  have hlength : (hexDigits 32 u.bits.toNat).length = 32 := length_hexDigits 32 _
  have hwritten := length_hyphenated hlength
  unfold read? write
  rw [if_neg (by omega), if_pos hwritten]
  unfold readHyphenated?
  simp only [groups_hyphenated hlength, hwritten, and_self, if_true]
  exact readDigits?_hexDigits u

end CountingHouse.Uuid
