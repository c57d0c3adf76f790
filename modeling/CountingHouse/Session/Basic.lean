/-
Refresh sessions.

A session stands behind every refresh token and shares its identifier. It is active
until it is blocked or until it expires; both are final, and a session that is
blocked stays so after its expiry. The refresh token itself is never written out.
-/
import CountingHouse.Failure.BankError
import CountingHouse.Calendar.Rfc3339

set_option autoImplicit false

namespace CountingHouse

/-! ## Clients -/

/-- What a client says about itself. -/
structure Client where
  userAgent : String := ""
  clientIp : String := ""
  deriving DecidableEq, Repr

namespace Client

def toJson (c : Client) : Json :=
  .ofFields [("user_agent", .ofText c.userAgent), ("client_ip", .ofText c.clientIp)]

def ofJson? (j : Json) : Option Client := do
  match ← j.record? ["user_agent", "client_ip"] 0 with
  | [userAgent, clientIp] =>
    return ⟨← Json.required? Json.text? userAgent, ← Json.required? Json.text? clientIp⟩
  | _ => none

end Client

/-! ## States -/

/-- Whether a session can be used. -/
inductive SessionState where
  | active
  | expired
  | blocked
  deriving DecidableEq, Repr

namespace SessionState

def name : SessionState → String
  | active => "active"
  | expired => "expired"
  | blocked => "blocked"

/-- The document of a state: its name. -/
def toJson (s : SessionState) : Json := .ofText s.name

def ofJson? (j : Json) : Option SessionState := do
  let text ← j.case?
  [active, expired, blocked].find? fun s => s.name == text

end SessionState

/-! ## Sessions -/

/-- A session. -/
structure Session where
  id : SessionId
  username : String
  refreshToken : String
  client : Client
  isBlocked : Bool
  expiresAt : Instant
  createdAt : Instant
  deriving DecidableEq, Repr

namespace Session

def state (s : Session) (now : Instant) : SessionState :=
  if s.isBlocked then .blocked else if s.expiresAt < now then .expired else .active

/-- The document of a session, without its token. -/
def toJson (s : Session) : Json :=
  .ofFields [("id", s.id.uuid.toJson), ("username", .ofText s.username),
    ("user_agent", .ofText s.client.userAgent), ("client_ip", .ofText s.client.clientIp),
    ("is_blocked", .bool s.isBlocked), ("expires_at", s.expiresAt.toJson),
    ("created_at", s.createdAt.toJson)]

theorem state_of_isBlocked {s : Session} (h : s.isBlocked = true) (now : Instant) :
    s.state now = .blocked := by
  simp [state, h]

end Session

end CountingHouse
