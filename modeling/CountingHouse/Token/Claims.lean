/-
Claims: what a token says.

A token names a user and is good until an instant. It carries a random identifier,
which for a refresh token is that of its session. What makes two tokens of the same
user at the same instant differ is drawn by whoever issues them and handed in as a
value.
-/
import CountingHouse.Failure.BankError
import CountingHouse.Calendar.Rfc3339

set_option autoImplicit false

namespace CountingHouse

/-! ## Errors -/

/-- What is wrong with claims. -/
inductive ClaimsFlaw where
  | emptyUsername
  | durationOutOfRange
  | unreadable
  | other (text : String)
  deriving DecidableEq, Repr

def ClaimsFlaw.message : ClaimsFlaw → String
  | emptyUsername => "username is empty"
  | durationOutOfRange => "duration out of range"
  | unreadable => "not a document of claims"
  | other text => text

/-- What is wrong with a key. -/
inductive KeyFlaw where
  | tooShort (least : Nat)
  | other (text : String)
  deriving DecidableEq, Repr

def KeyFlaw.message : KeyFlaw → String
  | tooShort least =>
    "invalid key size: must be at least " ++ intText least ++ " characters"
  | other text => text

/-- Why a token cannot be made or is refused. A signature is invalid if the token is not one
of ours in any way. -/
inductive TokenError where
  | invalidKey (flaw : KeyFlaw)
  | invalidSignature
  | invalidClaims (flaw : ClaimsFlaw)
  | expired
  | encoding (text : String)
  deriving DecidableEq, Repr

namespace TokenError

def message : TokenError → String
  | invalidKey flaw => "Invalid key: " ++ flaw.message
  | invalidSignature => "Invalid token signature"
  | invalidClaims flaw => "Invalid token claims: " ++ flaw.message
  | expired => "token has expired"
  | encoding text => "Token encoding failed: " ++ text

/-- The error of an operation that meets this one: what is wrong with a token is a failed
check of a credential, what is wrong with a key is a fault. -/
def toBankError : TokenError → BankError
  | invalidKey flaw => .internal (.other flaw.message)
  | invalidSignature => .unauthorized .invalidSignature
  | invalidClaims _ => .unauthorized .invalidClaims
  | expired => .unauthorized .tokenExpired
  | encoding text => .internal (.other text)

end TokenError

/-! ## Claims -/

/-- What is drawn at random for a token: the bits of its identifier, and a nonce. -/
structure Draw where
  identifier : BitVec 128
  nonce : Vector UInt8 12

/-- The claims of a token. -/
structure Claims where
  id : Uuid
  username : String
  issuedAt : Instant
  expiresAt : Instant
  deriving DecidableEq, Repr

namespace Claims

def new (draw : Draw) (now : Instant) (username : String) (duration : Span) :
    Except TokenError Claims :=
  if username = "" then .error (.invalidClaims .emptyUsername)
  else match now.add? duration with
    | some expiry => .ok ⟨.ofRandom draw.identifier, username, now, expiry⟩
    | none => .error (.invalidClaims .durationOutOfRange)

/-- The claims, if they name a user and have not expired. -/
def validate (c : Claims) (now : Instant) : Except TokenError Claims :=
  if c.username = "" then .error (.invalidClaims .emptyUsername)
  else if c.expiresAt < now then .error .expired
  else .ok c

/-! ## Documents -/

def fieldNames : List String := ["id", "username", "issued_at", "expires_at"]

def toJson (c : Claims) : Json :=
  .ofFields [("id", c.id.toJson), ("username", .ofText c.username),
    ("issued_at", c.issuedAt.toJson), ("expires_at", c.expiresAt.toJson)]

def ofJson? (j : Json) : Option Claims := do
  match ← j.record? fieldNames 0 with
  | [id, username, issuedAt, expiresAt] =>
    return {
      id := ← Json.required? Uuid.ofJson? id
      username := ← Json.required? Json.text? username
      issuedAt := ← Json.required? Instant.ofJson? issuedAt
      expiresAt := ← Json.required? Instant.ofJson? expiresAt }
  | _ => none

/-- The claims in a byte string, checked against the clock. -/
def read (bytes : List UInt8) (now : Instant) : Except TokenError Claims :=
  match (Json.ofBytes? bytes).bind ofJson? with
  | some c => c.validate now
  | none => .error (.invalidClaims .unreadable)

def write (c : Claims) : List UInt8 := Text.utf8 c.toJson.render

end Claims

end CountingHouse
