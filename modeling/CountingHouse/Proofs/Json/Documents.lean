/-
Documents that carry values.

A document carries a value to a reader if it can be written and what has been written is read as
the value. Texts and integers are carried, so is what may be missing, and a record is carried if
its fields are: its reader finds each of them under its name, whatever stands around it.
-/
import CountingHouse.Identifier
import CountingHouse.Json.Reader
import CountingHouse.Proofs.Json.Records
import CountingHouse.Proofs.Text.Numeral

set_option autoImplicit false

namespace CountingHouse.Json

open Text

variable {α β : Type} {read : Json → Option α} {j : Json} {a : α}

/-- What a reader of documents makes of a text. -/
def fromText? (read : Json → Option α) (text : String) : Option α := (parse? text).bind read

/-- Whether a document is written and read as a value. -/
structure Carries (read : Json → Option α) (j : Json) (a : α) : Prop where
  isSpelled : j.IsSpelled
  read_settled : read j.settled = some a

/-- What a document carries is read from its text. -/
theorem Carries.fromText?_render (h : Carries read j a) : fromText? read j.render = some a := by
  rw [fromText?, parse?_render h.isSpelled, Option.bind_some, h.read_settled]

/-! ## Texts and integers -/

/-- A text is carried by the string of its characters. -/
theorem carries_ofText (s : String) : Carries text? (ofText s) s :=
  ⟨isSpelled_ofText s, text?_settled_ofText s⟩

/-- An integer of either sign is written as a numeral: without a fraction, without an exponent and
without a zero in front. -/
theorem isSpelled_numeral (negative : Bool) (n : Nat) :
    Numeral.IsSpelled { negative, whole := natNumeral n } where
  whole_run := isRun_natNumeral n
  whole_ne_nil := natNumeral_ne_nil n
  whole_zero := natNumeral_eq_of_head? n
  fraction _ h := absurd h nofun
  exponent _ _ h := absurd h nofun

/-- An integer has a written form. -/
theorem isSpelled_ofInt (n : Int) : (ofInt n).IsSpelled := by
  cases n with
  | ofNat n => exact isSpelled_numeral false n
  | negSucc n => exact isSpelled_numeral true (n + 1)

/-- An integer is read from its numeral by every reader whose range it is in. -/
theorem int?_settled_ofInt {low high n : Int} (hlow : low ≤ n) (hhigh : n ≤ high) :
    int? low high (ofInt n).settled = some n := by
  have hread : ∀ numeral : Numeral, Numeral.int? numeral = some n →
      int? low high (.number numeral) = some n := by
    intro numeral hvalue
    rw [int?, hvalue]
    simp [hlow, hhigh]
  cases n with
  | ofNat n =>
    refine hread _ ?_
    simp [Numeral.int?, digitsValue?_natNumeral]
  | negSucc n =>
    refine hread _ ?_
    simp [Numeral.int?, digitsValue?_natNumeral]
    omega

/-- An integer of the size of a stored one is carried by its numeral. -/
theorem carries_ofInt {n : Int} (h : IsStored n) : Carries stored? (ofInt n) n :=
  ⟨isSpelled_ofInt n, int?_settled_ofInt h.1 h.2⟩

/-! ## What may be missing -/

/-- What may be missing is carried if it is written as a text: a text is never taken for null, and
null is read as nothing. -/
theorem carries_ofOption {encode : α → Json} {write : α → String} {read : Json → Option β}
    {shown : α → β} (htext : ∀ a, encode a = ofText (write a))
    (h : ∀ a, Carries read (encode a) (shown a)) (o : Option α) :
    Carries (fun j => optional? read (some j)) (ofOption encode o) (o.map shown) := by
  cases o with
  | none => exact ⟨trivial, rfl⟩
  | some a =>
    have ha := h a
    rw [htext] at ha
    refine ⟨?_, ?_⟩
    · rw [ofOption, htext]
      exact ha.isSpelled
    · rw [ofOption, htext]
      exact optional?_ofText ha.read_settled

/-! ## Records -/

variable {fields : List (String × Json)}

/-- A record is carried if its reader makes the value of its fields as they are written. -/
theorem carries_ofFields (names : List String) (hnames : fields.map Prod.fst = names)
    (hnodup : names.Nodup) (hspelled : ∀ f ∈ fields, f.2.IsSpelled)
    (hread : ∀ j, record? names 0 j = some (fields.map fun f => some f.2.settled) →
      read j = some a) : Carries read (ofFields fields) a := by
  refine ⟨isSpelled_ofFields hspelled, hread _ ?_⟩
  rw [← hnames]
  exact record?_settled_ofFields fields (hnames ▸ hnodup) 0

end CountingHouse.Json
