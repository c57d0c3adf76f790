/-
JSON documents.

A document is kept as it was written where the writing matters to a later
reader. A number keeps its parts, because an integer field accepts `10` and
refuses `10.0` and `1e1`. A string keeps its pieces, because a field that nobody
reads may hold an unpaired surrogate or bytes that are not UTF-8 while a field
that somebody reads may not; `text?` is that reading. Members of an object stay
in order and repeated keys stay repeated, so that a record can refuse them.
-/
import CountingHouse.Text.Utf8
import CountingHouse.Text.Numeral

set_option autoImplicit false

namespace CountingHouse

open Text

/-- One element of a string: a character, a code unit written as an escape, or a byte that
is no part of a character. -/
inductive Piece where
  | char (c : Char)
  | unit (code : Nat)
  | stray (byte : UInt8)
  deriving DecidableEq, Repr

/-- A number as it is written: sign, digits before the point, digits after it, and the sign
and the digits of the exponent. -/
structure Numeral where
  negative : Bool
  whole : List Char
  fraction : Option (List Char) := none
  exponent : Option (Bool × List Char) := none
  deriving DecidableEq, Repr

/-- A JSON document. -/
inductive Json where
  | null
  | bool (b : Bool)
  | number (n : Numeral)
  | string (pieces : List Piece)
  | array (items : List Json)
  | object (members : List (List Piece × Json))
  deriving Repr

namespace Json

/-! ## Building documents -/

/-- The pieces of a text: its characters. -/
def pieces (s : List Char) : List Piece := s.map .char

def ofText (s : String) : Json := .string (pieces s.toList)

def ofInt : Int → Json
  | .ofNat n => .number { negative := false, whole := natNumeral n }
  | .negSucc n => .number { negative := true, whole := natNumeral (n + 1) }

/-- A record as a document: its fields in the order given. -/
def ofFields (fields : List (String × Json)) : Json :=
  .object (fields.map fun (name, value) => (pieces name.toList, value))

def ofOption {α : Type} (encode : α → Json) : Option α → Json
  | none => .null
  | some a => encode a

/-! ## Reading texts -/

/-- Whether a code unit is the first half of a surrogate pair. -/
def isHighSurrogate (code : Nat) : Bool := 0xD800 ≤ code && code < 0xDC00

/-- Whether a code unit is the second half of a surrogate pair. -/
def isLowSurrogate (code : Nat) : Bool := 0xDC00 ≤ code && code < 0xE000

/-- The characters that the pieces of a string spell; `none` if a surrogate stands alone or
a byte is stray. -/
def characters? : List Piece → Option (List Char)
  | [] => some []
  | .char c :: rest => (characters? rest).map (c :: ·)
  | .stray _ :: _ => none
  | .unit high :: .unit low :: rest =>
    if isHighSurrogate high then
      if isLowSurrogate low then
        (characters? rest).map
          (Char.ofNat (0x10000 + (high - 0xD800) * 0x400 + (low - 0xDC00)) :: ·)
      else none
    else if isLowSurrogate high then none
    else (characters? (.unit low :: rest)).map (Char.ofNat high :: ·)
  | .unit code :: rest =>
    if isHighSurrogate code || isLowSurrogate code then none
    else (characters? rest).map (Char.ofNat code :: ·)

/-- Reading back the pieces of a text gives the text. -/
@[simp]
theorem characters?_pieces (s : List Char) : characters? (pieces s) = some s := by
  induction s with
  | nil => rfl
  | cons c rest ih =>
    have h : pieces (c :: rest) = .char c :: pieces rest := rfl
    rw [h, characters?, ih, Option.map_some]

def text? : Json → Option String
  | .string p => (characters? p).map String.ofList
  | _ => none

@[simp]
theorem text?_ofText (s : String) : text? (ofText s) = some s := by
  simp [text?, ofText]

/-! ## Reading integers -/

/-- The value of a number written without fraction and exponent. A minus sign in front of
zero makes the number no integer. -/
def Numeral.int? (n : Numeral) : Option Int :=
  match n.fraction, n.exponent, digitsValue? n.whole with
  | none, none, some value =>
    if n.negative then (if value = 0 then none else some (-(value : Int))) else some value
  | _, _, _ => none

/-- The integer of a document, if it lies between the bounds. -/
def int? (low high : Int) : Json → Option Int
  | .number n => do
    let value ← Numeral.int? n
    guard (low ≤ value ∧ value ≤ high)
    return value
  | _ => none

def bool? : Json → Option Bool
  | .bool b => some b
  | _ => none

/-! ## Reading records -/

/-- The fields called `names`, in that order, `none` standing for an absent one. A record is
an object, in which members of other names are passed over and none of these names may be
repeated, or an array of the field values in order, in which only the last `spare` fields
may be absent. -/
def record? (names : List String) (spare : Nat) : Json → Option (List (Option Json))
  | .object members => do
    let keyed ← members.mapM fun (key, value) => do
      return (String.ofList (← characters? key), value)
    guard (names.all fun name => (keyed.countP (·.1 == name)) ≤ 1)
    return names.map fun name => keyed.lookup name
  | .array items => do
    guard (items.length ≤ names.length ∧ names.length ≤ items.length + spare)
    return items.map some ++ List.replicate (names.length - items.length) none
  | _ => none

def required? {α : Type} (decode : Json → Option α) (field : Option Json) : Option α :=
  field.bind decode

/-- The value of a field that may be absent or null. -/
def optional? {α : Type} (decode : Json → Option α) : Option Json → Option (Option α)
  | none => some none
  | some .null => some none
  | some j => (decode j).map some

/-- The name of an enumeration's case: a string, or an object whose only member has the
case as its key and null as its value. -/
def case? : Json → Option String
  | .string p => (characters? p).map String.ofList
  | .object [(key, .null)] => (characters? key).map String.ofList
  | _ => none

end Json

end CountingHouse
