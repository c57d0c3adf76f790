/-
Reading JSON documents from symbols.

The grammar is the standard one with nothing added: no comments, no trailing
commas, no leading zeros, no control characters inside strings, and only the
four JSON blanks between tokens. Strings are taken apart into pieces without
judging them; what a piece may be is the concern of whoever reads the string.

A document is read by descending into its brackets. Every descent and every
further element uses up at least one symbol, so a bound of twice the number of
symbols is never reached.
-/
import CountingHouse.Json.Value

set_option autoImplicit false

namespace CountingHouse.Json

open Text

/-! ## Tokens -/

def isGap : Symbol → Bool
  | .char c => c = ' ' || c = '\t' || c = '\n' || c = '\r'
  | .stray _ => false

def skipGap (s : List Symbol) : List Symbol := s.dropWhile isGap

def afterWord? : List Char → List Symbol → Option (List Symbol)
  | [], s => some s
  | c :: word, .char d :: s => if c = d then afterWord? word s else none
  | _ :: _, _ => none

/-- The digits in front, and the symbols behind them. -/
def spanDigits : List Symbol → List Char × List Symbol
  | .char c :: rest =>
    if c.isDigit then ((spanDigits rest).1.cons c, (spanDigits rest).2) else ([], .char c :: rest)
  | s => ([], s)

/-- The value of a hexadecimal digit in either case. -/
def hexValue? (c : Char) : Option Nat :=
  if '0' ≤ c ∧ c ≤ '9' then some (c.toNat - '0'.toNat)
  else if 'a' ≤ c ∧ c ≤ 'f' then some (c.toNat - 'a'.toNat + 10)
  else if 'A' ≤ c ∧ c ≤ 'F' then some (c.toNat - 'A'.toNat + 10)
  else none

/-- The character that a one-letter escape stands for. -/
def escaped? : Char → Option Char
  | '"' => some '"'
  | '\\' => some '\\'
  | '/' => some '/'
  | 'b' => some '\x08'
  | 'f' => some '\x0c'
  | 'n' => some '\n'
  | 'r' => some '\r'
  | 't' => some '\t'
  | _ => none

/-- The pieces up to the closing quote, and the symbols behind it. -/
def readPieces? : List Symbol → Option (List Piece × List Symbol)
  | [] => none
  | .stray b :: rest => (readPieces? rest).map fun (more, s) => (.stray b :: more, s)
  | .char '"' :: rest => some ([], rest)
  | .char '\\' :: .char 'u' :: .char a :: .char b :: .char c :: .char d :: rest => do
    let code := (← hexValue? a) * 4096 + (← hexValue? b) * 256 + (← hexValue? c) * 16
      + (← hexValue? d)
    let (more, s) ← readPieces? rest
    return (.unit code :: more, s)
  | .char '\\' :: .char e :: rest => do
    let c ← escaped? e
    let (more, s) ← readPieces? rest
    return (.char c :: more, s)
  | .char '\\' :: _ => none
  | .char c :: rest =>
    if c.toNat < 0x20 then none
    else (readPieces? rest).map fun (more, s) => (.char c :: more, s)

/-! ## Numbers -/

/-- The digits before the point: one zero, or digits that start with another one. -/
def readWhole? (s : List Symbol) : Option (List Char × List Symbol) :=
  match spanDigits s with
  | ([], _) => none
  | (['0'], rest) => some (['0'], rest)
  | ('0' :: _, _) => none
  | found => some found

/-- The digits behind a point, if there is one. -/
def readFraction? : List Symbol → Option (Option (List Char) × List Symbol)
  | .char '.' :: s =>
    match spanDigits s with
    | ([], _) => none
    | (digits, rest) => some (some digits, rest)
  | s => some (none, s)

/-- The digits of an exponent behind its letter and sign. -/
def readPower? (negative : Bool) (s : List Symbol) :
    Option (Option (Bool × List Char) × List Symbol) :=
  match spanDigits s with
  | ([], _) => none
  | (digits, rest) => some (some (negative, digits), rest)

/-- The exponent, if there is one. -/
def readExponent? : List Symbol → Option (Option (Bool × List Char) × List Symbol)
  | .char c :: s =>
    if c = 'e' || c = 'E' then
      match s with
      | .char '+' :: rest => readPower? false rest
      | .char '-' :: rest => readPower? true rest
      | _ => readPower? false s
    else some (none, .char c :: s)
  | s => some (none, s)

/-- The number in front, and the symbols behind it. -/
def readNumeral? (s : List Symbol) : Option (Numeral × List Symbol) := do
  let (negative, s) := match s with
    | .char '-' :: rest => (true, rest)
    | _ => (false, s)
  let (whole, s) ← readWhole? s
  let (fraction, s) ← readFraction? s
  let (exponent, s) ← readExponent? s
  return ({ negative, whole, fraction, exponent }, s)

/-! ## Documents -/

mutual

/-- The document in front, and the symbols behind it. -/
def readValue? : Nat → List Symbol → Option (Json × List Symbol)
  | 0, _ => none
  | bound + 1, s =>
    match skipGap s with
    | .char '"' :: rest => (readPieces? rest).map fun (p, s) => (.string p, s)
    | .char '[' :: rest =>
      match skipGap rest with
      | .char ']' :: s => some (.array [], s)
      | s => (readItems? bound s).map fun (items, s) => (.array items, s)
    | .char '{' :: rest =>
      match skipGap rest with
      | .char '}' :: s => some (.object [], s)
      | s => (readMembers? bound s).map fun (members, s) => (.object members, s)
    | .char 'n' :: rest => (afterWord? ['u', 'l', 'l'] rest).map fun s => (.null, s)
    | .char 't' :: rest => (afterWord? ['r', 'u', 'e'] rest).map fun s => (.bool true, s)
    | .char 'f' :: rest => (afterWord? ['a', 'l', 's', 'e'] rest).map fun s => (.bool false, s)
    | s => (readNumeral? s).map fun (n, s) => (.number n, s)

/-- The elements up to the closing bracket, at least one. -/
def readItems? : Nat → List Symbol → Option (List Json × List Symbol)
  | 0, _ => none
  | bound + 1, s => do
    let (item, s) ← readValue? bound s
    match skipGap s with
    | .char ']' :: s => return ([item], s)
    | .char ',' :: s =>
      let (more, s) ← readItems? bound s
      return (item :: more, s)
    | _ => none

/-- The members up to the closing brace, at least one. -/
def readMembers? : Nat → List Symbol → Option (List (List Piece × Json) × List Symbol)
  | 0, _ => none
  | bound + 1, s =>
    match skipGap s with
    | .char '"' :: s => do
      let (key, s) ← readPieces? s
      match skipGap s with
      | .char ':' :: s =>
        let (value, s) ← readValue? bound s
        match skipGap s with
        | .char '}' :: s => return ([(key, value)], s)
        | .char ',' :: s =>
          let (more, s) ← readMembers? bound s
          return ((key, value) :: more, s)
        | _ => none
      | _ => none
    | _ => none

end

/-- The document that the symbols spell, with nothing but gaps around it. -/
def ofSymbols? (s : List Symbol) : Option Json := do
  -- two levels of the reader for each symbol are more than any document needs
  let (value, rest) ← readValue? (2 * s.length + 2) s
  guard (skipGap rest).isEmpty
  return value

def parse? (s : String) : Option Json := ofSymbols? (symbolsOf s)

def ofBytes? (bytes : List UInt8) : Option Json := ofSymbols? (Utf8.symbols bytes)

end CountingHouse.Json
