/-
Issuers of tokens.

There are two formats of tokens, signed and sealed, and an issuer makes and verifies
tokens of one of them under one key. Neither accepts the other's. A key has at least
32 bytes.
-/
import CountingHouse.Token.Signed
import CountingHouse.Token.Sealed
import CountingHouse.Text.Blank
import CountingHouse.Text.Upper

set_option autoImplicit false

namespace CountingHouse

open Text

/-! ## Formats -/

/-- A format of tokens. -/
inductive TokenFormat where
  | signed
  | sealed
  deriving DecidableEq, Repr

namespace TokenFormat

def name : TokenFormat → String
  | signed => "jwt"
  | sealed => "sealed"

/-- The format that a text names, blanks around it and the case of its ASCII letters aside;
otherwise the name that is unknown. -/
def parse (text : String) : Except String TokenFormat :=
  let name := String.ofList (lowerAscii (trim text.toList))
  if name = "jwt" then .ok signed
  else if name = "sealed" ∨ name = "paseto" then .ok sealed
  else .error name

def unknownMessage (name : String) : String := "unknown token maker: " ++ name

/-- The document of a format: its name. -/
def toJson (f : TokenFormat) : Json := .ofText f.name

def ofJson? (j : Json) : Option TokenFormat := do
  match ← j.case? with
  | "jwt" => some signed
  | "sealed" => some sealed
  | _ => none

end TokenFormat

/-! ## Issuers -/

def leastKeyLength : Nat := 32

/-- Makes and verifies tokens of one format under one key. -/
structure TokenIssuer where
  format : TokenFormat
  key : List UInt8
  key_long : leastKeyLength ≤ key.length

namespace TokenIssuer

/-- The issuer of a format under the bytes of a text. -/
def new (format : TokenFormat) (key : String) : Except TokenError TokenIssuer :=
  if h : leastKeyLength ≤ (utf8 key).length then .ok ⟨format, utf8 key, h⟩
  else .error (.invalidKey (.tooShort leastKeyLength))

def write (i : TokenIssuer) (nonce : Vector UInt8 12) (claims : Claims) : String :=
  match i.format with
  | .signed => SignedToken.create i.key claims
  | .sealed => SealedToken.create i.key nonce claims

/-- A new token for a user, with its claims. -/
def create (i : TokenIssuer) (draw : Draw) (now : Instant) (username : String) (duration : Span) :
    Except TokenError (String × Claims) := do
  let claims ← Claims.new draw now username duration
  return (i.write draw.nonce claims, claims)

/-- The claims of a token of this issuer that has not expired. -/
def verify (i : TokenIssuer) (now : Instant) (token : String) : Except TokenError Claims :=
  match i.format with
  | .signed => SignedToken.verify i.key now token
  | .sealed => SealedToken.verify i.key now token

end TokenIssuer

end CountingHouse
