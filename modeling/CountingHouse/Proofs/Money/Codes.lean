/-
Which texts are currencies.

A currency is read from its code with blanks around it, in letters of either case, and where the
code has an `S` the long `ſ` may stand as well, because its upper case is that letter. Nothing
else is read as a currency, although upper-casing can shorten no text and lengthens many: no
character becomes two letters that stand together in a code. What is read is written as the code
and can be read again (`ReadsCodes`).
-/
import CountingHouse.Money.Amount
import CountingHouse.Proofs.Json.Records
import CountingHouse.Proofs.Text.Letters
import CountingHouse.Proofs.Text.Trim

set_option autoImplicit false

namespace CountingHouse.Currency

open Text

variable {c : Currency} {text : String} {letters : List Char}

/-! ## Letters of codes -/

/-- Whether a character may stand for a letter of a code. -/
def StandsFor (letter c : Char) : Prop := SameLetter letter c ∨ (letter = 'S' ∧ c = 'ſ')

instance (letter c : Char) : Decidable (StandsFor letter c) :=
  inferInstanceAs (Decidable (SameLetter letter c ∨ (letter = 'S' ∧ c = 'ſ')))

/-- Whether a text names a currency: its letters, with blanks around them. -/
def Names (text : String) (c : Currency) : Prop :=
  ∃ letters, Wraps text.toList letters ∧ List.Forall₂ StandsFor c.code.toList letters

/-- The codes are these four. -/
theorem exists_code_eq_iff {code : String} :
    (∃ c : Currency, c.code = code) ↔ code ∈ ["USD", "EUR", "KES", "GBP"] := by
  constructor
  · rintro ⟨c, rfl⟩
    cases c <;> decide
  · intro h
    simp only [List.mem_cons, List.not_mem_nil, or_false] at h
    rcases h with rfl | rfl | rfl | rfl
    · exact ⟨usd, rfl⟩
    · exact ⟨eur, rfl⟩
    · exact ⟨kes, rfl⟩
    · exact ⟨gbp, rfl⟩

/-- The codes are of capital letters, and there is no I among them, for which a dotless one could
stand. -/
theorem letters_of_code (c : Currency) :
    ∀ letter ∈ c.code.toList, letter.isUpper = true ∧ letter ≠ 'I' := by
  cases c <;> simp [code]

/-- No character becomes two or more letters of a code. -/
theorem not_piece_of_code (c : Currency) :
    ∀ e ∈ caseExpansions, ¬ e.2.map Char.ofNat <:+: c.code.toList := by
  cases c <;> decide +kernel

/-- A text is raised to a code exactly if each of its letters stands for the letter of the code in
the same place. -/
theorem upper_eq_code_iff :
    upper letters = c.code.toList ↔ List.Forall₂ StandsFor c.code.toList letters := by
  rw [upper_eq_iff (not_piece_of_code c)]
  have hstands : ∀ letter d, letter.isUpper = true ∧ letter ≠ 'I' →
      (upperChar d = [letter] ↔ StandsFor letter d) := by
    rintro letter d ⟨hupper, hne⟩
    simp only [upperChar_eq_singleton_iff hupper, StandsFor, hne, false_and, or_false]
  constructor
  · intro h
    refine ((List.forall₂_and_left _ _).mpr ⟨letters_of_code c, h⟩).imp fun letter d => ?_
    rintro ⟨hletter, hd⟩
    exact (hstands letter d hletter).mp hd
  · intro h
    refine ((List.forall₂_and_left _ _).mpr ⟨letters_of_code c, h⟩).imp fun letter d => ?_
    rintro ⟨hletter, hd⟩
    exact (hstands letter d hletter).mpr hd

/-- Letters that stand for a code contain no blank, so trimming leaves them alone. -/
theorem isWord_of_stands (h : List.Forall₂ StandsFor c.code.toList letters) : IsWord letters := by
  refine isWord_of_forall₂ (by cases c <;> decide) (fun letter hletter d hstands => ?_) h
  rcases hstands with hsame | ⟨-, rfl⟩
  · have hupper := (letters_of_code c letter hletter).1
    exact isBlank_of_sameLetter (by rw [Char.isAlpha, hupper, Bool.true_or]) hsame
  · decide

/-! ## Texts of currencies -/

/-- A code is that of one currency and of no other. -/
theorem ofCode?_eq_some_iff {code : String} : ofCode? code = some c ↔ code = c.code := by
  constructor
  · intro h
    exact (code_of_ofCode? h).symm
  · rintro rfl
    exact ofCode?_code c

/-- Trimming and raising a text gives a code exactly if the text names the currency. -/
theorem normalize_eq_code_iff : normalize text = c.code ↔ Names text c := by
  have hupper : normalize text = c.code ↔ upper (trim text.toList) = c.code.toList := by
    unfold normalize
    constructor
    · intro h
      rw [← h, String.toList_ofList]
    · intro h
      rw [h, String.ofList_toList]
  rw [hupper, upper_eq_code_iff]
  exact trim_iff_exists_wraps fun _ => isWord_of_stands

/-- A text is read as a currency exactly if it names it. -/
theorem parse_eq_ok_iff : parse text = .ok c ↔ Names text c := by
  rw [← normalize_eq_code_iff, ← ofCode?_eq_some_iff]
  unfold parse
  rcases ofCode? (normalize text) with _ | d
  · simp [Violation.refuse]
  · simp

/-- A text that names no currency is refused, and the refusal quotes it trimmed and raised. -/
theorem parse_of_not_names (h : ∀ c, ¬ Names text c) :
    parse text = .error (.validation (.unsupportedCurrency (normalize text))) := by
  unfold parse
  rcases hcode : ofCode? (normalize text) with _ | c
  · rfl
  · exact absurd (normalize_eq_code_iff.mp (ofCode?_eq_some_iff.mp hcode)) (h c)

/-- A code names its currency. -/
theorem names_code (c : Currency) : Names c.code c :=
  normalize_eq_code_iff.mp (by cases c <;> decide +kernel)

/-! ## Documents -/

/-- A currency is read from the document that it is written as. -/
theorem ofJson?_settled (c : Currency) : ofJson? c.toJson.settled = some c := by
  have hread : parse c.code = .ok c := parse_eq_ok_iff.mpr (names_code c)
  unfold ofJson? toJson
  simp only [Json.text?_settled_ofText, Option.bind_eq_bind, Option.bind_some, hread]
  rfl

/-- How currencies are read and written. -/
structure ReadsCodes : Prop where
  /-- The codes are these four. -/
  codes : ∀ code : String, (∃ c : Currency, c.code = code) ↔ code ∈ ["USD", "EUR", "KES", "GBP"]
  /-- A text is read as a currency if it names it. -/
  accepted_iff : ∀ text c, parse text = .ok c ↔ Names text c
  /-- A text that names no currency is refused for what it says about the currency. -/
  refused : ∀ text, (∀ c, ¬ Names text c) →
    ∃ v : Violation, parse text = .error (.validation v) ∧ v.field = some "currency"
  /-- A currency is shown as its code. -/
  shown : ∀ c : Currency, toString c = c.code
  /-- Its document is the code in quotes. -/
  document : ∀ c : Currency, c.toJson.render = "\"" ++ c.code ++ "\""
  /-- The code is read as the currency. -/
  code_read : ∀ c : Currency, parse c.code = .ok c
  /-- So is the document. -/
  document_read : ∀ c : Currency, (Json.parse? c.toJson.render).bind ofJson? = some c

/-- The texts of a currency are its code in letters of either case, or with a long `ſ`, and with
any blanks around it, and no others. -/
theorem readsCodes : ReadsCodes where
  codes _ := exists_code_eq_iff
  accepted_iff _ _ := parse_eq_ok_iff
  refused _ h := ⟨_, parse_of_not_names h, rfl⟩
  shown _ := rfl
  document c := by cases c <;> decide +kernel
  code_read c := parse_eq_ok_iff.mpr (names_code c)
  document_read c := by
    have hspelled : c.toJson.IsSpelled := Json.isSpelled_ofText c.code
    rw [Json.parse?_render hspelled, Option.bind_some]
    exact ofJson?_settled c

example : Currency.parse "\u3000kEſ\n" = .ok kes := by decide +kernel

end CountingHouse.Currency
