/-
Whole numbers in decimal digits: writing them, and the strict reading that
settings and date fields use.

Writing produces the one numeral without leading zeros, with a minus sign for a
negative number. Reading is a little wider than the image of writing: leading
zeros and a plus sign are allowed, while blanks, separators and an empty digit
part are not. A number that has to fit a machine width is read in full first and
then compared with the bounds, so out of range is a refusal and never a wrap.
-/

set_option autoImplicit false

namespace CountingHouse.Text

/-! ## Digits -/

def digitValue? (c : Char) : Option Nat :=
  if c.isDigit then some (c.toNat - '0'.toNat) else none

def digitChar (n : Nat) : Char := Char.ofNat ('0'.toNat + n)

/-- The number that a run of digits spells, most significant digit first; `none` if some
character is not a digit. The empty run spells zero. -/
def digitsValue? (s : List Char) : Option Nat :=
  s.foldl (fun acc c => do return 10 * (← acc) + (← digitValue? c)) (some 0)

def natNumeral (n : Nat) : List Char :=
  if n < 10 then [digitChar n] else natNumeral (n / 10) ++ [digitChar (n % 10)]

def intNumeral : Int → List Char
  | .ofNat n => natNumeral n
  | .negSucc n => '-' :: natNumeral (n + 1)

/-- A numeral filled up with leading zeros to at least `width` digits. -/
def padded (width n : Nat) : List Char :=
  let digits := natNumeral n
  List.replicate (width - digits.length) '0' ++ digits

/-! ## Reading -/

/-- A non-empty run of digits. -/
def readDigits? : List Char → Option Nat
  | [] => none
  | s => digitsValue? s

/-- A natural number up to `limit`, with an optional plus sign. -/
def readNat? (limit : Nat) (s : List Char) : Option Nat := do
  let n ← readDigits? (match s with | '+' :: rest => rest | _ => s)
  guard (n ≤ limit)
  return n

/-- An integer between the two bounds, with an optional sign. -/
def readInt? (low high : Int) (s : List Char) : Option Int := do
  let n ← match s with
    | '-' :: rest => (readDigits? rest).map fun n => -(n : Int)
    | '+' :: rest => (readDigits? rest).map Int.ofNat
    | _ => (readDigits? s).map Int.ofNat
  guard (low ≤ n ∧ n ≤ high)
  return n

end CountingHouse.Text
