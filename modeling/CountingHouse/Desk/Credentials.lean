/-
Credentials at the counter.

Access tokens are issued, which nothing stands behind but their own expiry, and refresh
tokens, behind each of which stands a session. A refresh token buys new access tokens
for as long as its session lives; neither of them is changed by that. Every failed
check of a credential is the same kind of error, which says outside no more than that.

A credential arrives in a header of two fields, the word *bearer* in any case and the
token.
-/
import CountingHouse.Stores
import CountingHouse.Token.Issuer

set_option autoImplicit false

namespace CountingHouse

/-- Issues and checks credentials; the tokens that it renews live for `accessDuration`. -/
structure CredentialDesk where
  issuer : TokenIssuer
  accessDuration : Span

/-- A refresh token and the session behind it. -/
structure RefreshGrant where
  refreshToken : String
  session : SessionId
  expiresAt : Instant

namespace CredentialDesk

open Text

/-! ## Issuing -/

/-- The value or the bank's error of a step that deals with tokens. -/
def lift {α : Type} (r : Except TokenError α) : Operation α := .of (r.mapError TokenError.toBankError)

def refuse {α : Type} (failure : AuthFailure) : Operation α := throw (.unauthorized failure)

def issueAccess (d : CredentialDesk) (draw : Draw) (username : String) (duration : Span) :
    Operation (String × Claims) := do
  lift (d.issuer.create draw (← Operation.now) username duration)

/-- A new refresh token for a user, with a session of its own. -/
def issueRefresh (b : Backend) (d : CredentialDesk) (draw : Draw) (username : String)
    (duration : Span) (client : Client) : Operation RefreshGrant := do
  let (token, claims) ← lift (d.issuer.create draw (← Operation.now) username duration)
  let session ← b.createSession ⟨claims.id⟩ claims.username token client claims.expiresAt
  return ⟨token, session.id, session.expiresAt⟩

/-! ## Checking -/

def verify (d : CredentialDesk) (token : String) : Operation Claims := do
  lift (d.issuer.verify (← Operation.now) token)

/-- The token in a header: the second of two fields, of which the first is the scheme. -/
def credential? (header : Option String) : Option String := do
  match fields (← header).toList with
  | [scheme, token] =>
    guard (lowerAscii scheme = "bearer".toList)
    return String.ofList token
  | _ => none

def authorize (d : CredentialDesk) (header : Option String) : Operation Claims :=
  match credential? header with
  | some token => d.verify token
  | none => refuse .missingCredential

/-! ## Sessions -/

def refusal? (now : Instant) (token : String) (claims : Claims) (s : Session) :
    Option AuthFailure :=
  -- the order of the checks decides which of several failures is reported
  if s.isBlocked then some .sessionBlocked
  else if s.username ≠ claims.username then some .sessionUserMismatch
  else if s.refreshToken ≠ token then some .tokenMismatch
  else if s.expiresAt < now then some .sessionExpired
  else none

/-- A new access token in return for a refresh token. -/
def renew (b : Backend) (d : CredentialDesk) (draw : Draw) (token : String) :
    Operation (String × Claims) := do
  let claims ← d.verify token
  match ← b.session? ⟨claims.id⟩ with
  | none => refuse .sessionNotFound
  | some session =>
    match refusal? (← Operation.now) token claims session with
    | some failure => refuse failure
    | none => d.issueAccess draw session.username d.accessDuration

/-- Blocks a user's session, unless it has ended already. -/
def revoke (b : Backend) (username : String) (id : SessionId) : Operation Session := do
  match ← b.session? id with
  | none => refuse .sessionNotFound
  | some session =>
    if session.username ≠ username then refuse .sessionUserMismatch
    else match session.state (← Operation.now) with
      | .blocked | .expired => return session
      | .active =>
        match ← b.blockSession id with
        | some blocked => return blocked
        | none => refuse .sessionNotFound

end CredentialDesk

end CountingHouse
