/-
Documents are read back.

What is written of a document is read as that document, up to one choice of spelling: a control
character without a short escape is read as the code unit that stands for it (`settled`), which
spells the same text. The reader never reaches its bound, because every level of it uses up at
least half a symbol.

A document has a written form if its numerals are numerals and its strings hold no stray bytes
(`IsSpelled`); that is so of everything that is put together from texts and integers.
-/
import CountingHouse.Json.Printer
import CountingHouse.Json.Reader
import CountingHouse.Proofs.Text.Numeral
import CountingHouse.Proofs.Text.Utf8

set_option autoImplicit false

namespace CountingHouse

open Text

/-! ## Strings -/

namespace Piece

/-- The characters that have an escape of one letter, the quote and the backslash aside. -/
def shortControls : List Char := ['\x08', '\t', '\n', '\x0c', '\r']

/-- Whether a piece is a control character without a short escape. -/
def isLongControl (c : Char) : Bool := c.toNat < 0x20 && !shortControls.contains c

/-- The piece as which a piece is read when it has been written. -/
def settled : Piece → Piece
  | .char c => if isLongControl c then .unit c.toNat else .char c
  | .unit code => .unit code
  | .stray byte => .stray byte

/-- Whether a piece has a written form. -/
def IsSpelled : Piece → Prop
  | .char _ => True
  | .unit code => code < 0x10000
  | .stray _ => False

end Piece

namespace Json

/-- The symbols of a written text. -/
def lift (s : List Char) : List Symbol := s.map .char

@[simp]
theorem lift_nil : lift [] = [] := rfl

@[simp]
theorem lift_cons (c : Char) (s : List Char) : lift (c :: s) = .char c :: lift s := rfl

@[simp]
theorem lift_append (s t : List Char) : lift (s ++ t) = lift s ++ lift t := List.map_append

/-- A hexadecimal digit is read as the number that it was written for. -/
theorem hexValue?_hexDigit {n : Nat} (h : n < 16) : hexValue? (hexDigit n) = some n := by
  have small : ∀ n < 16, hexValue? (hexDigit n) = some n := by decide
  exact small n h

/-- The escape of a code unit is read as that unit. -/
theorem readPieces?_unitEscape {code : Nat} (h : code < 0x10000) (rest : List Symbol) :
    readPieces? (lift (unitEscape code) ++ rest)
      = (readPieces? rest).map fun (more, s) => (.unit code :: more, s) := by
  have hcode : code / 4096 % 16 * 4096 + code / 256 % 16 * 256 + code / 16 % 16 * 16 + code % 16
      = code := by omega
  simp only [unitEscape, lift_cons, lift_nil, List.cons_append, List.nil_append, readPieces?,
    hexValue?_hexDigit (Nat.mod_lt _ (show 0 < 16 by decide)), Option.bind_eq_bind,
    Option.bind_some, hcode]
  rcases readPieces? rest with _ | ⟨more, s⟩ <;> rfl

/-- An escape of one letter is read as what it stands for. -/
theorem readPieces?_letter {e c : Char} (hu : e ≠ 'u') (h : escaped? e = some c)
    (rest : List Symbol) : readPieces? (.char '\\' :: .char e :: rest)
      = (readPieces? rest).map fun (more, s) => (.char c :: more, s) := by
  rw [readPieces?]
  · rw [h]
    rcases readPieces? rest with _ | ⟨more, s⟩ <;> rfl
  · intro a b c d rest' _ h
    exact hu h

/-- A character that need not be escaped is read as itself. -/
theorem readPieces?_plain {c : Char} (hquote : c ≠ '"') (hslash : c ≠ '\\')
    (hcontrol : ¬ c.toNat < 0x20) (rest : List Symbol) : readPieces? (.char c :: rest)
      = (readPieces? rest).map fun (more, s) => (.char c :: more, s) := by
  rw [readPieces?]
  · rw [if_neg hcontrol]
  · exact hquote
  · intro a b c d rest' _ h
    exact hslash h
  · intro e rest' _ h
    exact hslash h
  · exact hslash

/-- A character is read back as its settled piece, whichever of the three ways it is written in:
with a short escape, as a code unit or as itself. -/
theorem readPieces?_writeChar (c : Char) (rest : List Symbol) :
    readPieces? (lift (writeChar c) ++ rest)
      = (readPieces? rest).map fun (more, s) => (Piece.settled (.char c) :: more, s) := by
  unfold writeChar
  -- seven characters have an escape of their own, then come the other control characters
  iterate 7
    split
    · next h =>
      subst h
      exact readPieces?_letter (by decide) rfl rest
  split
  · next h =>
    have hlong : Piece.isLongControl c = true := by
      simp [Piece.isLongControl, Piece.shortControls, *]
    rw [readPieces?_unitEscape (by omega), Piece.settled, if_pos hlong]
  · next hquote hslash _ _ _ _ _ h =>
    have hlong : ¬ Piece.isLongControl c = true := by
      simp [Piece.isLongControl, h]
    rw [Piece.settled, if_neg hlong]
    exact readPieces?_plain hquote hslash h rest

/-- A piece that has a written form is read back as its settled piece. -/
theorem readPieces?_writePiece {p : Piece} (hp : p.IsSpelled) (rest : List Symbol) :
    readPieces? (lift (writePiece p) ++ rest)
      = (readPieces? rest).map fun (more, s) => (p.settled :: more, s) := by
  cases p with
  | char c => exact readPieces?_writeChar c rest
  | unit code => exact readPieces?_unitEscape hp rest
  | stray byte => exact hp.elim

/-- The pieces of a string are read up to the quote behind them. -/
theorem readPieces?_write {p : List Piece} (hp : ∀ x ∈ p, x.IsSpelled) (rest : List Symbol) :
    readPieces? (lift (p.flatMap writePiece) ++ .char '"' :: rest)
      = some (p.map Piece.settled, rest) := by
  induction p with
  | nil => rfl
  | cons x p ih =>
    have hx := hp x List.mem_cons_self
    have hrest := ih fun y hy => hp y (List.mem_cons_of_mem x hy)
    rw [List.flatMap_cons, lift_append, List.append_assoc, readPieces?_writePiece hx, hrest]
    rfl

/-! ## Numerals -/

end Json

/-- Whether a numeral is written in digits, with no zeros in front. -/
structure Numeral.IsSpelled (n : Numeral) : Prop where
  whole_run : IsRun n.whole
  whole_ne_nil : n.whole ≠ []
  whole_zero : n.whole.head? = some '0' → n.whole = ['0']
  fraction : ∀ d, n.fraction = some d → IsRun d ∧ d ≠ []
  exponent : ∀ negative d, n.exponent = some (negative, d) → IsRun d ∧ d ≠ []

namespace Json

/-- What is written of the digits behind a point. -/
def fractionText (n : Numeral) : List Char :=
  match n.fraction with
  | none => []
  | some digits => '.' :: digits

/-- What is written of an exponent. -/
def exponentText (n : Numeral) : List Char :=
  match n.exponent with
  | none => []
  | some (negative, digits) => 'e' :: (if negative then ['-'] else []) ++ digits

/-- A numeral is written in four parts, some of which may be empty. -/
theorem writeNumeral_eq (n : Numeral) : writeNumeral n
    = (if n.negative then ['-'] else []) ++ n.whole ++ fractionText n ++ exponentText n := rfl

/-- Whether nothing in front of a text could belong to a numeral before it. -/
def EndsNumeral (rest : List Symbol) : Prop :=
  ∀ c, rest.head? = some (.char c) → c.isDigit = false ∧ c ≠ '.' ∧ c ≠ 'e' ∧ c ≠ 'E'

/-- A run of digits is read up to the first symbol that is no digit. -/
theorem spanDigits_append {s : List Char} {rest : List Symbol} (hrun : IsRun s)
    (hstop : ∀ c, rest.head? = some (.char c) → c.isDigit = false) :
    spanDigits (lift s ++ rest) = (s, rest) := by
  induction s with
  | nil =>
    match rest with
    | [] => rfl
    | .stray b :: rest => rfl
    | .char c :: rest =>
      rw [lift_nil, List.nil_append, spanDigits, hstop c rfl]
      rfl
  | cons c s ih =>
    have hc := hrun c List.mem_cons_self
    have hs := ih fun d hd => hrun d (List.mem_cons_of_mem c hd)
    rw [lift_cons, List.cons_append, spanDigits, if_pos hc, hs]

/-- The whole part, in front of anything but a digit. -/
theorem readWhole?_write {n : Numeral} (hn : n.IsSpelled) {rest : List Symbol}
    (hstop : ∀ c, rest.head? = some (.char c) → c.isDigit = false) :
    readWhole? (lift n.whole ++ rest) = some (n.whole, rest) := by
  unfold readWhole?
  rw [spanDigits_append hn.whole_run hstop]
  split
  · next h => exact absurd (congrArg Prod.fst h) hn.whole_ne_nil
  · next h => rw [← h]
  · next t s hne h =>
    -- a zero in front stands alone
    have hwhole : n.whole = '0' :: t := congrArg Prod.fst h
    have hzero := hn.whole_zero (by rw [hwhole]; rfl)
    rw [hwhole] at hzero
    exact (hne (List.cons.inj hzero).2).elim
  · rfl

/-- The fraction of a numeral is read back, or its absence, if what follows is no digit and no
point. -/
theorem readFraction?_write {n : Numeral} (hn : n.IsSpelled) {rest : List Symbol}
    (hstop : ∀ c, rest.head? = some (.char c) → c.isDigit = false ∧ c ≠ '.') :
    readFraction? (lift (fractionText n) ++ rest) = some (n.fraction, rest) := by
  unfold fractionText
  rcases hfraction : n.fraction with _ | d
  · simp only [lift_nil, List.nil_append]
    unfold readFraction?
    split
    · next s => exact absurd rfl (hstop '.' rfl).2
    · rfl
  · obtain ⟨hrun, hne⟩ := hn.fraction d hfraction
    simp only [lift_cons, List.cons_append, readFraction?]
    rw [spanDigits_append hrun fun c hc => (hstop c hc).1]
    split
    · next h => exact absurd (congrArg Prod.fst h) hne
    · next h =>
      cases h
      rfl

/-- The digits of an exponent are read back under their sign. -/
theorem readPower?_write {s : List Char} (hrun : IsRun s) (hne : s ≠ []) (negative : Bool)
    {rest : List Symbol} (hstop : ∀ c, rest.head? = some (.char c) → c.isDigit = false) :
    readPower? negative (lift s ++ rest) = some (some (negative, s), rest) := by
  unfold readPower?
  rw [spanDigits_append hrun hstop]
  split
  · next h => exact absurd (congrArg Prod.fst h) hne
  · next h =>
    cases h
    rfl

/-- The exponent of a numeral is read back, or its absence, if what follows ends the numeral. -/
theorem readExponent?_write {n : Numeral} (hn : n.IsSpelled) {rest : List Symbol}
    (hstop : EndsNumeral rest) :
    readExponent? (lift (exponentText n) ++ rest) = some (n.exponent, rest) := by
  unfold exponentText
  have hdigit : ∀ c, rest.head? = some (.char c) → c.isDigit = false := fun c hc => (hstop c hc).1
  rcases hexponent : n.exponent with _ | ⟨negative, d⟩
  · simp only [lift_nil, List.nil_append]
    match rest, hstop with
    | [], _ => rfl
    | .stray b :: rest, _ => rfl
    | .char c :: rest, hstop =>
      obtain ⟨-, -, hsmall, hcapital⟩ := hstop c rfl
      simp [readExponent?, hsmall, hcapital]
  · obtain ⟨hrun, hne⟩ := hn.exponent negative d hexponent
    have hread := readPower?_write hrun hne negative hdigit
    rcases negative with _ | _
    · obtain ⟨c, d, rfl⟩ := List.exists_cons_of_ne_nil hne
      have hc := hrun c List.mem_cons_self
      simp only [lift_cons, List.cons_append] at hread
      simp only [lift_cons, List.cons_append, readExponent?, decide_true, Bool.true_or, if_true,
        Bool.false_eq_true, if_false, List.nil_append]
      -- a digit is no sign
      split
      · next h =>
        obtain ⟨rfl, -⟩ : c = '+' ∧ _ = _ := by simpa using h
        exact absurd hc (by decide)
      · next h =>
        obtain ⟨rfl, -⟩ : c = '-' ∧ _ = _ := by simpa using h
        exact absurd hc (by decide)
      · exact hread
    · simp only [lift_cons, List.cons_append, readExponent?]
      exact hread

/-- In front of an exponent there may be whatever is no digit and no point. -/
theorem head_exponentText {n : Numeral} {rest : List Symbol} (hstop : EndsNumeral rest) (c : Char)
    (hc : (lift (exponentText n) ++ rest).head? = some (.char c)) :
    c.isDigit = false ∧ c ≠ '.' := by
  unfold exponentText at hc
  rcases hexponent : n.exponent with _ | ⟨negative, d⟩
  · rw [hexponent] at hc
    obtain ⟨hdigit, hpoint, -⟩ := hstop c hc
    exact ⟨hdigit, hpoint⟩
  · rw [hexponent] at hc
    obtain rfl : 'e' = c := by simpa using hc
    decide

/-- In front of a fraction there may be whatever is no digit. -/
theorem head_fractionText {n : Numeral} {rest : List Symbol}
    (hstop : ∀ c, rest.head? = some (.char c) → c.isDigit = false ∧ c ≠ '.') (c : Char)
    (hc : (lift (fractionText n) ++ rest).head? = some (.char c)) : c.isDigit = false := by
  unfold fractionText at hc
  rcases hfraction : n.fraction with _ | d
  · rw [hfraction] at hc
    exact (hstop c hc).1
  · rw [hfraction] at hc
    obtain rfl : '.' = c := by simpa using hc
    decide

/-- A numeral is read up to whatever cannot belong to it. -/
theorem readNumeral?_write {n : Numeral} (hn : n.IsSpelled) {rest : List Symbol}
    (hstop : EndsNumeral rest) :
    readNumeral? (lift (writeNumeral n) ++ rest) = some (n, rest) := by
  have hexponent := readExponent?_write hn hstop
  have hfraction := readFraction?_write hn (head_exponentText (n := n) hstop)
  have hwhole := readWhole?_write hn (head_fractionText (n := n) (head_exponentText (n := n) hstop))
  rw [writeNumeral_eq]
  simp only [lift_append, List.append_assoc]
  unfold readNumeral?
  rcases hnegative : n.negative with _ | _
  · -- a digit is no sign
    obtain ⟨c, whole, hcons⟩ := List.exists_cons_of_ne_nil hn.whole_ne_nil
    have hdigit : c.isDigit = true := hn.whole_run c (hcons ▸ List.mem_cons_self)
    simp only [Bool.false_eq_true, if_false, lift_nil, List.nil_append, Option.bind_eq_bind]
    split
    · next h =>
      rw [hcons, lift_cons, List.cons_append] at h
      obtain ⟨rfl, -⟩ : c = '-' ∧ _ = _ := by simpa using h
      exact absurd hdigit (by decide)
    · simp only [hwhole, hfraction, hexponent, Option.bind_some, ← hnegative]
      rfl
  · simp only [if_true, lift_cons, lift_nil, List.cons_append, List.nil_append, Option.bind_eq_bind]
    simp only [hwhole, hfraction, hexponent, Option.bind_some, ← hnegative]
    rfl

/-! ## Documents -/

mutual

/-- Whether a document has a written form. -/
def IsSpelled : Json → Prop
  | .null | .bool _ => True
  | .number n => n.IsSpelled
  | .string p => ∀ x ∈ p, x.IsSpelled
  | .array items => AreSpelled items
  | .object members => MembersSpelled members

def AreSpelled : List Json → Prop
  | [] => True
  | item :: more => item.IsSpelled ∧ AreSpelled more

def MembersSpelled : List (List Piece × Json) → Prop
  | [] => True
  | (key, value) :: more => (∀ x ∈ key, x.IsSpelled) ∧ value.IsSpelled ∧ MembersSpelled more

end

mutual

/-- The document as which a document is read when it has been written. -/
def settled : Json → Json
  | .null => .null
  | .bool b => .bool b
  | .number n => .number n
  | .string p => .string (p.map Piece.settled)
  | .array items => .array (settledItems items)
  | .object members => .object (settledMembers members)

def settledItems : List Json → List Json
  | [] => []
  | item :: more => item.settled :: settledItems more

def settledMembers : List (List Piece × Json) → List (List Piece × Json)
  | [] => []
  | (key, value) :: more => (key.map Piece.settled, value.settled) :: settledMembers more

end

/-- A numeral starts with a digit or its sign. -/
theorem exists_cons_writeNumeral {n : Numeral} (hn : n.IsSpelled) :
    ∃ c s, writeNumeral n = c :: s ∧ (c = '-' ∨ c.isDigit = true) := by
  rw [writeNumeral_eq]
  rcases n.negative with _ | _
  · obtain ⟨c, whole, hcons⟩ := List.exists_cons_of_ne_nil hn.whole_ne_nil
    exact ⟨c, _, by rw [hcons]; rfl, .inr (hn.whole_run c (hcons ▸ List.mem_cons_self))⟩
  · exact ⟨'-', _, rfl, .inl rfl⟩

/-- A digit is no gap. -/
theorem not_isGap_of_isDigit {c : Char} (h : c.isDigit = true) : isGap (.char c) = false := by
  simp only [isGap, Bool.or_eq_false_iff, decide_eq_false_iff_not]
  refine ⟨⟨⟨?_, ?_⟩, ?_⟩, ?_⟩ <;> rintro rfl <;> exact absurd h (by decide)

/-- The first character of a written document is no gap and closes nothing. -/
theorem exists_cons_write {j : Json} (hj : j.IsSpelled) :
    ∃ c s, write j = c :: s ∧ isGap (.char c) = false ∧ c ≠ ']' := by
  match j, hj with
  | .null, _ => exact ⟨'n', _, rfl, by decide, by decide⟩
  | .bool true, _ => exact ⟨'t', _, rfl, by decide, by decide⟩
  | .bool false, _ => exact ⟨'f', _, rfl, by decide, by decide⟩
  | .number n, hj =>
    obtain ⟨c, s, hwrite, hc⟩ := exists_cons_writeNumeral hj
    refine ⟨c, s, hwrite, ?_, ?_⟩
    · rcases hc with rfl | hc
      · decide
      · exact not_isGap_of_isDigit hc
    · rintro rfl
      exact absurd hc (by decide)
  | .string p, _ => exact ⟨'"', _, rfl, by decide, by decide⟩
  | .array items, _ => exact ⟨'[', _, rfl, by decide, by decide⟩
  | .object members, _ => exact ⟨'\x7b', _, rfl, by decide, by decide⟩

/-- The first character of written items is no gap and does not close the array. -/
theorem exists_cons_writeItems {item : Json} (h : item.IsSpelled) (more : List Json) :
    ∃ c s, writeItems (item :: more) = c :: s ∧ isGap (.char c) = false ∧ c ≠ ']' := by
  obtain ⟨c, s, hwrite, hc⟩ := exists_cons_write h
  rcases more with _ | ⟨next, more⟩
  · exact ⟨c, s, hwrite, hc⟩
  · refine ⟨c, s ++ ',' :: writeItems (next :: more), ?_, hc⟩
    rw [writeItems, hwrite, List.cons_append]
    exact List.cons_ne_nil next more

/-- Written members start with the quote of their first key. -/
theorem exists_cons_writeMembers (key : List Piece) (value : Json)
    (more : List (List Piece × Json)) :
    ∃ s, writeMembers ((key, value) :: more) = '"' :: s := by
  rcases more with _ | ⟨next, more⟩
  · exact ⟨_, rfl⟩
  · exact ⟨_, rfl⟩

/-- Nothing is skipped in front of a character that is no gap. -/
theorem skipGap_char {c : Char} (h : isGap (.char c) = false) (rest : List Symbol) :
    skipGap (.char c :: rest) = .char c :: rest := by
  unfold skipGap
  rw [List.dropWhile_cons, h]
  rfl

/-- Nothing is skipped in front of a written document. -/
theorem skipGap_write {j : Json} (hj : j.IsSpelled) (rest : List Symbol) :
    skipGap (lift (write j) ++ rest) = lift (write j) ++ rest := by
  obtain ⟨c, s, hwrite, hgap, -⟩ := exists_cons_write hj
  rw [hwrite, lift_cons, List.cons_append, skipGap_char hgap]

/-- A character ends a numeral if it is no digit, no point and no letter of an exponent. -/
theorem endsNumeral_char {c : Char} (h : c.isDigit = false ∧ c ≠ '.' ∧ c ≠ 'e' ∧ c ≠ 'E')
    (rest : List Symbol) : EndsNumeral (.char c :: rest) := by
  rintro d ⟨⟩
  exact h

/-- What starts like a numeral is read as one. -/
theorem readValue?_of_numeral {c : Char} (hc : c = '-' ∨ c.isDigit = true) (bound : Nat)
    (rest : List Symbol) : readValue? (bound + 1) (.char c :: rest)
      = (readNumeral? (.char c :: rest)).map fun (n, s) => (.number n, s) := by
  have hgap : isGap (.char c) = false := by
    rcases hc with rfl | hc
    · decide
    · exact not_isGap_of_isDigit hc
  rw [readValue?, skipGap_char hgap]
  split
  case h_7 => rfl
  all_goals
    next h =>
      cases h
      exact absurd hc (by decide)

/-- Behind a bracket that is not closed at once there are items. -/
theorem readValue?_bracket {c : Char} (hgap : isGap (.char c) = false) (hc : c ≠ ']')
    (bound : Nat) (rest : List Symbol) :
    readValue? (bound + 1) (.char '[' :: .char c :: rest)
      = (readItems? bound (.char c :: rest)).map fun (items, s) => (.array items, s) := by
  rw [readValue?, skipGap_char (by decide)]
  simp only [skipGap_char hgap]
  split
  · next h =>
    cases h
    exact absurd rfl hc
  · rfl

/-- Behind a brace that is not closed at once there are members. -/
theorem readValue?_brace (bound : Nat) (rest : List Symbol) :
    readValue? (bound + 1) (.char '\x7b' :: .char '"' :: rest)
      = (readMembers? bound (.char '"' :: rest)).map fun (members, s) => (.object members, s) := by
  have hgap : isGap (.char '"') = false := by decide
  rw [readValue?, skipGap_char (by decide)]
  simp only [skipGap_char hgap]
  rfl

/-- Behind a key and its colon a member is read like a document. -/
theorem readMembers?_key {key : List Piece} (hkey : ∀ x ∈ key, x.IsSpelled) {bound : Nat}
    {s rest : List Symbol} {value : Json} (hvalue : readValue? bound s = some (value, rest)) :
    readMembers? (bound + 1) (lift (writeString key) ++ .char ':' :: s)
      = match skipGap rest with
        | .char '\x7d' :: rest => some ([(key.map Piece.settled, value)], rest)
        | .char ',' :: rest =>
          (readMembers? bound rest).bind fun (more, s) =>
            some ((key.map Piece.settled, value) :: more, s)
        | _ => none := by
  have hread := readPieces?_write hkey (.char ':' :: s)
  rw [readMembers?]
  simp only [writeString, lift_cons, lift_append, lift_nil, List.cons_append, List.nil_append,
    List.append_assoc, skipGap_char (show isGap (.char '"') = false by decide), hread,
    Option.bind_eq_bind, Option.bind_some, skipGap_char (show isGap (.char ':') = false by decide),
    hvalue]
  rfl

mutual

/-- A document is read up to whatever cannot belong to it. -/
theorem readValue?_write (j : Json) (hj : j.IsSpelled) (bound : Nat) (rest : List Symbol)
    (hbound : 2 * (write j).length ≤ bound) (hstop : EndsNumeral rest) :
    readValue? bound (lift (write j) ++ rest) = some (j.settled, rest) := by
  obtain ⟨c, s, hwrite, -, -⟩ := exists_cons_write hj
  obtain ⟨bound, rfl⟩ : ∃ n, bound = n + 1 := ⟨bound - 1, by
    rw [hwrite, List.length_cons] at hbound
    omega⟩
  -- a value with its own closing character reads itself; a number ends where the rest says so
  match j, hj with
  | .null, _ => rfl
  | .bool true, _ => rfl
  | .bool false, _ => rfl
  | .number n, hj =>
    have hread := readNumeral?_write hj hstop
    obtain ⟨c, s, hcons, hc⟩ := exists_cons_writeNumeral hj
    rw [hcons, lift_cons, List.cons_append] at hread
    rw [write, hcons, lift_cons, List.cons_append, readValue?_of_numeral hc, hread]
    rfl
  | .string p, hj =>
    have hread := readPieces?_write hj rest
    rw [readValue?, skipGap_write hj]
    simp only [write, writeString, lift_cons, lift_append, lift_nil, List.cons_append,
      List.nil_append, List.append_assoc, hread]
    rfl
  | .array [], _ => rfl
  | .array (item :: more), hj =>
    -- the brackets pay for this call, and what is left of the bound is enough for the items
    obtain ⟨c, s, hcons, hgap, hc⟩ := exists_cons_writeItems hj.1 more
    have hread := readItems?_write (item :: more) hj (List.cons_ne_nil item more) bound rest (by
      simp only [write, List.length_cons, List.length_append] at hbound
      omega)
    rw [hcons, lift_cons, List.cons_append] at hread
    simp only [write, hcons, lift_cons, lift_append, lift_nil, List.cons_append, List.nil_append,
      List.append_assoc]
    rw [readValue?_bracket hgap hc, hread]
    rfl
  | .object [], _ => rfl
  | .object ((key, value) :: more), hj =>
    obtain ⟨s, hcons⟩ := exists_cons_writeMembers key value more
    have hread := readMembers?_write ((key, value) :: more) hj (List.cons_ne_nil _ more) bound
      rest (by
        simp only [write, List.length_cons, List.length_append] at hbound
        omega)
    rw [hcons, lift_cons, List.cons_append] at hread
    simp only [write, hcons, lift_cons, lift_append, lift_nil, List.cons_append, List.nil_append,
      List.append_assoc]
    rw [readValue?_brace, hread]
    rfl

/-- Items are read back up to the bracket that closes them, within a bound of twice their length. -/
theorem readItems?_write (items : List Json) (hitems : AreSpelled items) (hne : items ≠ [])
    (bound : Nat) (rest : List Symbol) (hbound : 2 * (writeItems items).length + 1 ≤ bound) :
    readItems? bound (lift (writeItems items) ++ .char ']' :: rest)
      = some (settledItems items, rest) := by
  obtain ⟨bound, rfl⟩ : ∃ n, bound = n + 1 := ⟨bound - 1, by omega⟩
  -- the list is written with a comma between neighbours, so the last item stands alone
  match items, hitems, hne with
  | [item], hitems, _ =>
    have hitem := readValue?_write item hitems.1 bound (.char ']' :: rest)
      (by simp only [writeItems] at hbound; omega) (endsNumeral_char (by decide) rest)
    rw [writeItems, readItems?, hitem]
    simp only [Option.bind_eq_bind, Option.bind_some,
      skipGap_char (show isGap (.char ']') = false by decide)]
    rfl
  | item :: next :: more, hitems, _ =>
    have hwrite : writeItems (item :: next :: more)
        = write item ++ ',' :: writeItems (next :: more) := by
      rw [writeItems]
      exact List.cons_ne_nil next more
    rw [hwrite, List.length_append, List.length_cons] at hbound
    have hitem := readValue?_write item hitems.1 bound
      (.char ',' :: (lift (writeItems (next :: more)) ++ .char ']' :: rest)) (by omega)
      (endsNumeral_char (by decide) _)
    have hmore := readItems?_write (next :: more) hitems.2 (List.cons_ne_nil next more) bound rest
      (by omega)
    rw [hwrite, lift_append, lift_cons, List.append_assoc, List.cons_append, readItems?, hitem]
    simp only [Option.bind_eq_bind, Option.bind_some,
      skipGap_char (show isGap (.char ',') = false by decide), hmore]
    rfl

/-- Members are read back up to the brace that closes them, within a bound of twice their length. -/
theorem readMembers?_write (members : List (List Piece × Json)) (hmembers : MembersSpelled members)
    (hne : members ≠ []) (bound : Nat) (rest : List Symbol)
    (hbound : 2 * (writeMembers members).length + 1 ≤ bound) :
    readMembers? bound (lift (writeMembers members) ++ .char '\x7d' :: rest)
      = some (settledMembers members, rest) := by
  obtain ⟨bound, rfl⟩ : ∃ n, bound = n + 1 := ⟨bound - 1, by omega⟩
  -- as with the items of an array, the last member has no comma behind it
  match members, hmembers, hne with
  | [(key, value)], hmembers, _ =>
    obtain ⟨hkey, hvalue, -⟩ := hmembers
    rw [writeMembers, List.length_append, List.length_cons] at hbound
    have hread := readValue?_write value hvalue bound (.char '\x7d' :: rest) (by omega)
      (endsNumeral_char (by decide) rest)
    rw [writeMembers, lift_append, lift_cons, List.append_assoc, List.cons_append,
      readMembers?_key hkey hread, skipGap_char (by decide)]
    rfl
  | (key, value) :: next :: more, hmembers, _ =>
    obtain ⟨hkey, hvalue, hmembers⟩ := hmembers
    have hwrite : writeMembers ((key, value) :: next :: more)
        = writeString key ++ ':' :: write value ++ ',' :: writeMembers (next :: more) := by
      rw [writeMembers]
      exact List.cons_ne_nil next more
    rw [hwrite, List.length_append, List.length_append, List.length_cons, List.length_cons]
      at hbound
    have hread := readValue?_write value hvalue bound
      (.char ',' :: (lift (writeMembers (next :: more)) ++ .char '\x7d' :: rest)) (by omega)
      (endsNumeral_char (by decide) _)
    have hmore := readMembers?_write (next :: more) hmembers (List.cons_ne_nil next more) bound rest
      (by omega)
    rw [hwrite]
    simp only [lift_append, lift_cons, List.append_assoc, List.cons_append]
    rw [readMembers?_key hkey hread, skipGap_char (by decide)]
    simp only [hmore]
    rfl

end

/-- What has been written of a document is read as the same document, as it settles. -/
theorem ofSymbols?_write {j : Json} (hj : j.IsSpelled) :
    ofSymbols? (lift (write j)) = some j.settled := by
  have hlength : (lift (write j)).length = (write j).length := List.length_map ..
  have hread := readValue?_write j hj (2 * (lift (write j)).length + 2) [] (by omega)
    (fun c hc => by cases hc)
  rw [List.append_nil] at hread
  unfold ofSymbols?
  rw [hread]
  rfl

/-- A document that has a written form is read back from its text as what it settles to. -/
theorem parse?_render {j : Json} (hj : j.IsSpelled) : parse? j.render = some j.settled := by
  unfold parse? render symbolsOf
  rw [String.toList_ofList]
  exact ofSymbols?_write hj

/-- It is also read back from the bytes of its text, of which none is stray. -/
theorem ofBytes?_render {j : Json} (hj : j.IsSpelled) :
    ofBytes? (utf8 j.render) = some j.settled := by
  unfold ofBytes? utf8 render
  rw [String.toList_ofList, Utf8.symbols_encode]
  exact ofSymbols?_write hj

end Json

end CountingHouse
