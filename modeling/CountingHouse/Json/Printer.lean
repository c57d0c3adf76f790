/-
Writing JSON documents.

The written form is compact: no blanks, members in their order. Inside a string
only what must be escaped is escaped: the quote, the backslash and the control
characters below U+0020, of which five have a one-letter form and the others
are written as `\u00` with two small hexadecimal digits. Everything else, the
delete character and all of Unicode included, stands for itself.
-/
import CountingHouse.Json.Value

set_option autoImplicit false

namespace CountingHouse.Json

open Text

def hexDigit (n : Nat) : Char :=
  if n < 10 then Char.ofNat ('0'.toNat + n) else Char.ofNat ('a'.toNat + (n - 10))

/-- A code unit as an escape. -/
def unitEscape (code : Nat) : List Char :=
  ['\\', 'u', hexDigit (code / 4096 % 16), hexDigit (code / 256 % 16), hexDigit (code / 16 % 16),
    hexDigit (code % 16)]

def writeChar (c : Char) : List Char :=
  if c = '"' then ['\\', '"']
  else if c = '\\' then ['\\', '\\']
  else if c = '\x08' then ['\\', 'b']
  else if c = '\t' then ['\\', 't']
  else if c = '\n' then ['\\', 'n']
  else if c = '\x0c' then ['\\', 'f']
  else if c = '\r' then ['\\', 'r']
  else if c.toNat < 0x20 then unitEscape c.toNat
  else [c]

/-- The written form of one piece of a string. A stray byte has none. -/
def writePiece : Piece → List Char
  | .char c => writeChar c
  | .unit code => unitEscape code
  | .stray _ => []

def writeString (pieces : List Piece) : List Char :=
  '"' :: pieces.flatMap writePiece ++ ['"']

def writeNumeral (n : Numeral) : List Char :=
  (if n.negative then ['-'] else []) ++ n.whole
    ++ (match n.fraction with | none => [] | some digits => '.' :: digits)
    ++ (match n.exponent with
      | none => []
      | some (negative, digits) => 'e' :: (if negative then ['-'] else []) ++ digits)

mutual

def write : Json → List Char
  | .null => ['n', 'u', 'l', 'l']
  | .bool true => ['t', 'r', 'u', 'e']
  | .bool false => ['f', 'a', 'l', 's', 'e']
  | .number n => writeNumeral n
  | .string p => writeString p
  | .array items => '[' :: writeItems items ++ [']']
  | .object members => '{' :: writeMembers members ++ ['}']

/-- The elements of an array with commas between them. -/
def writeItems : List Json → List Char
  | [] => []
  | [item] => write item
  | item :: more => write item ++ ',' :: writeItems more

/-- The members of an object with commas between them. -/
def writeMembers : List (List Piece × Json) → List Char
  | [] => []
  | [(key, value)] => writeString key ++ ':' :: write value
  | (key, value) :: more => writeString key ++ ':' :: write value ++ ',' :: writeMembers more

end

def render (j : Json) : String := String.ofList (write j)

end CountingHouse.Json
