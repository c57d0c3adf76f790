/-
What comes of a credential at the counter.

Issuing a refresh token files one session under the identifier of the token, or fails and
files nothing. Revoking looks at the session of an identifier: it is the caller's and active,
and gets blocked; it is the caller's and has ended, and is handed back as it is; or nothing
happens. Everything else that is done with credentials only reads.
-/
import CountingHouse.Proofs.Desk.Operations
import CountingHouse.Proofs.Session.Table
import CountingHouse.Proofs.Token.RoundTrip

set_option autoImplicit false

namespace CountingHouse

namespace CredentialDesk

open Operation

variable {d : CredentialDesk} {s : Stores} {draw : Draw} {username token : String}
variable {duration : Span} {client : Client} {claims : Claims} {id : SessionId} {r : Session}

/-! ## Single calls -/

/-- Taking over the answer of a token library leaves the stores alone and tells its errors as the
bank does. -/
theorem lift_run {α : Type} (answer : Except TokenError α) (s : Stores) :
    lift answer s = (answer.mapError TokenError.toBankError, s) := rfl

/-- Asking for a session is a look-up in the table. -/
theorem session?_run (s : Stores) (id : SessionId) :
    Backend.memory.session? id s = (.ok (s.sessions.find? id), s) := rfl

/-- Filing a session stamps it with the clock of the stores and touches the table only. -/
theorem createSession_run (s : Stores) (id : SessionId) (username token : String)
    (client : Client) (expiresAt : Instant) :
    Backend.memory.createSession id username token client expiresAt s
      = ((s.sessions.create id username token client expiresAt s.clock).1,
        { s with sessions :=
          (s.sessions.create id username token client expiresAt s.clock).2 }) := rfl

/-- Blocking a session hands it back as it stands afterwards, if there is one. -/
theorem blockSession_run (s : Stores) (id : SessionId) :
    Backend.memory.blockSession id s
      = (.ok ((s.sessions.block id).2.find? id),
        { s with sessions := (s.sessions.block id).2 }) := rfl

/-- An access token is what the issuer makes of the clock; no store is written for it. -/
theorem issueAccess_run (d : CredentialDesk) (draw : Draw) (username : String) (duration : Span)
    (s : Stores) : d.issueAccess draw username duration s
      = ((d.issuer.create draw s.clock username duration).mapError TokenError.toBankError, s) := by
  unfold issueAccess
  rw [bind_of_ok (x := now) rfl, lift_run]

/-- If the claims can be made, the access token is their text, and the stores stay. -/
theorem issueAccess_of_ok (d : CredentialDesk)
    (h : Claims.new draw s.clock username duration = .ok claims) :
    d.issueAccess draw username duration s
      = (.ok (d.issuer.write draw.nonce claims, claims), s) := by
  rw [issueAccess_run, TokenIssuer.create_eq_ok_iff.mpr ⟨h, rfl⟩]
  rfl

/-- If the claims cannot be made, there is no token, and the stores stay. -/
theorem issueAccess_of_error {e : TokenError} (d : CredentialDesk)
    (h : Claims.new draw s.clock username duration = .error e) :
    d.issueAccess draw username duration s = (.error e.toBankError, s) := by
  rw [issueAccess_run, TokenIssuer.create_of_error h]
  rfl

/-- A token is verified against the clock of the stores, which stay as they are. -/
theorem verify_run (d : CredentialDesk) (token : String) (s : Stores) : d.verify token s
    = ((d.issuer.verify s.clock token).mapError TokenError.toBankError, s) := by
  unfold verify
  rw [bind_of_ok (x := now) rfl, lift_run]

/-! ## Refresh tokens -/

/-- The session that is filed behind a refresh token. -/
def filed (d : CredentialDesk) (draw : Draw) (claims : Claims) (client : Client) : Session :=
  ⟨⟨claims.id⟩, claims.username, d.issuer.write draw.nonce claims, client, false,
    claims.expiresAt, claims.issuedAt⟩

/-- Claims that can be made are written as a token, here as a link of a longer chain. -/
theorem lift_create_of_ok (d : CredentialDesk)
    (hclaims : Claims.new draw s.clock username duration = .ok claims) :
    lift (d.issuer.create draw s.clock username duration) s
      = (.ok (d.issuer.write draw.nonce claims, claims), s) := by
  rw [lift_run, TokenIssuer.create_eq_ok_iff.mpr ⟨hclaims, rfl⟩]
  rfl

/-- A refresh token is issued if its claims can be made and its identifier is free. -/
theorem issueRefresh_of_ok (d : CredentialDesk) (client : Client)
    (hclaims : Claims.new draw s.clock username duration = .ok claims)
    (hfree : s.sessions.find? ⟨claims.id⟩ = none) :
    d.issueRefresh .memory draw username duration client s
      = (.ok ⟨d.issuer.write draw.nonce claims, ⟨claims.id⟩, claims.expiresAt⟩,
        { s with sessions := s.sessions.enter (d.filed draw claims client) }) := by
  have hissued : claims.issuedAt = s.clock := by
    rw [(Claims.new_eq_ok_iff.mp hclaims).2.2]
  have hsession : Backend.memory.createSession ⟨claims.id⟩ claims.username
        (d.issuer.write draw.nonce claims) client claims.expiresAt s
      = (.ok (d.filed draw claims client),
        { s with sessions := s.sessions.enter (d.filed draw claims client) }) := by
    rw [createSession_run, SessionTable.create_of_none hfree, ← hissued]
    rfl
  unfold issueRefresh
  rw [bind_of_ok (x := now) rfl, bind_of_ok (lift_create_of_ok d hclaims)]
  exact bind_of_ok hsession

/-- If the claims cannot be made, there is no refresh token and no session is filed. -/
theorem issueRefresh_of_error {e : TokenError} (d : CredentialDesk) (client : Client)
    (h : Claims.new draw s.clock username duration = .error e) :
    d.issueRefresh .memory draw username duration client s = (.error e.toBankError, s) := by
  have hlift : lift (d.issuer.create draw s.clock username duration) s
      = (.error e.toBankError, s) := by
    rw [lift_run, TokenIssuer.create_of_error h]
    rfl
  unfold issueRefresh
  rw [bind_of_ok (x := now) rfl, bind_of_error hlift]

/-- Otherwise nothing is issued and nothing filed. -/
theorem issueRefresh_cases (d : CredentialDesk) (draw : Draw) (username : String)
    (duration : Span) (client : Client) (s : Stores) :
    (∃ e, d.issueRefresh .memory draw username duration client s = (.error e, s)) ∨
    (∃ claims, Claims.new draw s.clock username duration = .ok claims ∧
      s.sessions.find? ⟨claims.id⟩ = none) := by
  rcases hclaims : Claims.new draw s.clock username duration with e | claims
  · exact .inl ⟨e.toBankError, issueRefresh_of_error d client hclaims⟩
  · rcases hfind : s.sessions.find? ⟨claims.id⟩ with _ | r
    · exact .inr ⟨claims, rfl, hfind⟩
    · have hsession : Backend.memory.createSession ⟨claims.id⟩ claims.username
            (d.issuer.write draw.nonce claims) client claims.expiresAt s
          = (.error (.duplicate (.session ⟨claims.id⟩)), s) := by
        rw [createSession_run, SessionTable.create_of_some hfind]
      refine .inl ⟨.duplicate (.session ⟨claims.id⟩), ?_⟩
      unfold issueRefresh
      rw [bind_of_ok (x := now) rfl, bind_of_ok (lift_create_of_ok d hclaims)]
      exact bind_of_error hsession

/-! ## Revoking -/

/-- An identifier without a session is refused, and the stores stay. -/
theorem revoke_of_none (h : s.sessions.find? id = none) :
    revoke .memory username id s = (.error (.unauthorized .sessionNotFound), s) := by
  have hfound := session?_run s id
  unfold revoke
  rw [bind_of_ok hfound, h]
  rfl

/-- The session of somebody else is refused, and the stores stay. -/
theorem revoke_of_username_ne (h : s.sessions.find? id = some r) (hne : r.username ≠ username) :
    revoke .memory username id s = (.error (.unauthorized .sessionUserMismatch), s) := by
  have hfound := session?_run s id
  unfold revoke
  rw [bind_of_ok hfound, h]
  simp only
  rw [if_pos hne]
  rfl

/-- A session that has ended is handed back as it is. -/
theorem revoke_of_ended (h : s.sessions.find? id = some r) (hended : r.state s.clock ≠ .active) :
    revoke .memory r.username id s = (.ok r, s) := by
  have hfound := session?_run s id
  unfold revoke
  rw [bind_of_ok hfound, h]
  simp only [ne_eq, not_true_eq_false, if_false]
  rw [bind_of_ok (x := now) rfl]
  rcases hstate : r.state s.clock with _ | _ | _
  · exact absurd hstate hended
  · rfl
  · rfl

/-- Nothing is done unless there is an active session of the caller's. -/
theorem revoke_keeps (h : ∀ r, s.sessions.find? id = some r → r.username = username →
    r.state s.clock ≠ .active) : (revoke .memory username id s).2 = s := by
  rcases hfound : s.sessions.find? id with _ | r
  · rw [revoke_of_none hfound]
  · by_cases hname : r.username = username
    · subst hname
      rw [revoke_of_ended hfound (h r hfound rfl)]
    · rw [revoke_of_username_ne hfound hname]

/-- An active session is blocked. -/
theorem revoke_of_active (h : s.sessions.find? id = some r) (hactive : r.state s.clock = .active) :
    revoke .memory r.username id s
      = (.ok { r with isBlocked := true }, { s with sessions := (s.sessions.block id).2 }) := by
  have hfound := session?_run s id
  have hblock : Backend.memory.blockSession id s
      = (.ok (some { r with isBlocked := true }),
        { s with sessions := (s.sessions.block id).2 }) := by
    rw [blockSession_run, SessionTable.find?_block_self h]
  unfold revoke
  rw [bind_of_ok hfound, h]
  simp only [ne_eq, not_true_eq_false, if_false]
  rw [bind_of_ok (x := now) rfl, hactive]
  simp only
  rw [bind_of_ok hblock]
  rfl

/-- A session that is handed back has ended, and is in the table as it is handed back. -/
theorem ended_of_revoke (h : (revoke .memory username id s).1 = .ok r) :
    r.username = username ∧ r.state s.clock ≠ .active ∧
      (revoke .memory username id s).2.sessions.find? id = some r := by
  rcases hfound : s.sessions.find? id with _ | r₀
  · rw [revoke_of_none hfound] at h
    cases h
  · by_cases hname : r₀.username = username
    · subst hname
      by_cases hactive : r₀.state s.clock = .active
      · rw [revoke_of_active hfound hactive] at h ⊢
        cases h
        refine ⟨rfl, ?_, SessionTable.find?_block_self hfound⟩
        rw [Session.state_of_isBlocked rfl]
        intro hstate
        cases hstate
      · rw [revoke_of_ended hfound hactive] at h ⊢
        cases h
        exact ⟨rfl, hactive, hfound⟩
    · rw [revoke_of_username_ne hfound hname] at h
      cases h

/-! ## Renewing -/

/-- What the issuer accepts is accepted at the desk. -/
theorem verify_of_ok (h : d.issuer.verify s.clock token = .ok claims) :
    d.verify token s = (.ok claims, s) := by
  rw [verify_run, h]
  rfl

/-- A token is renewed if it is good and agrees with an active session of its own. -/
theorem renew_of_ok (hverify : d.issuer.verify s.clock token = .ok claims)
    (hfound : s.sessions.find? ⟨claims.id⟩ = some r)
    (hagrees : refusal? s.clock token claims r = none) :
    d.renew .memory draw token s = d.issueAccess draw r.username d.accessDuration s := by
  have hsession := session?_run s ⟨claims.id⟩
  unfold renew
  rw [bind_of_ok (verify_of_ok hverify), bind_of_ok hsession, hfound]
  simp only
  rw [bind_of_ok (x := now) rfl, hagrees]

/-- Otherwise it is refused. -/
theorem renew_cases (d : CredentialDesk) (draw : Draw) (token : String) (s : Stores) :
    (∃ e, (d.renew .memory draw token s).1 = .error e) ∨
    (∃ claims r, d.issuer.verify s.clock token = .ok claims ∧
      s.sessions.find? ⟨claims.id⟩ = some r ∧ refusal? s.clock token claims r = none) := by
  -- three things are asked in turn: the string verifies, its session is there, and the two agree
  rcases hverify : d.issuer.verify s.clock token with e | claims
  · have hverified : d.verify token s = (.error e.toBankError, s) := by
      rw [verify_run, hverify]
      rfl
    refine .inl ⟨e.toBankError, ?_⟩
    unfold renew
    rw [bind_of_error hverified]
  · have hverified := verify_of_ok hverify
    have hsession := session?_run s ⟨claims.id⟩
    rcases hfound : s.sessions.find? ⟨claims.id⟩ with _ | r
    · refine .inl ⟨.unauthorized .sessionNotFound, ?_⟩
      unfold renew
      rw [bind_of_ok hverified, bind_of_ok hsession, hfound]
      rfl
    · rcases hagrees : refusal? s.clock token claims r with _ | failure
      · exact .inr ⟨claims, r, rfl, hfound, hagrees⟩
      · refine .inl ⟨.unauthorized failure, ?_⟩
        unfold renew
        rw [bind_of_ok hverified, bind_of_ok hsession, hfound]
        simp only
        rw [bind_of_ok (x := now) rfl, hagrees]
        rfl

/-- A session stands behind a token exactly if it is not blocked, is of the same user, was filed
with this very token and has not expired. -/
theorem refusal?_eq_none_iff {now : Instant} : refusal? now token claims r = none
    ↔ r.isBlocked = false ∧ r.username = claims.username ∧ r.refreshToken = token
      ∧ now ≤ r.expiresAt := by
  unfold refusal?
  by_cases hblocked : r.isBlocked = true
  · simp [hblocked]
  · by_cases hname : r.username = claims.username
    · by_cases htoken : r.refreshToken = token
      · by_cases hlate : r.expiresAt < now
        · simp [hblocked, hname, htoken, hlate, ← Instant.not_lt]
        · simp [hblocked, hname, htoken, hlate, ← Instant.not_lt]
      · simp [hblocked, hname, htoken]
    · simp [hblocked, hname]

/-- A refresh token whose session is as it was filed buys an access token until it expires. -/
theorem renew_of_filed {drawn : Draw} {expiry : Instant} (hname : claims.username ≠ "")
    (hlive : s.clock ≤ claims.expiresAt)
    (hfound : s.sessions.find? ⟨claims.id⟩ = some (d.filed drawn claims client))
    (hexpiry : s.clock.add? d.accessDuration = some expiry) (draw : Draw) :
    d.renew .memory draw (d.issuer.write drawn.nonce claims) s
      = (.ok (d.issuer.write draw.nonce
            ⟨.ofRandom draw.identifier, claims.username, s.clock, expiry⟩,
          ⟨.ofRandom draw.identifier, claims.username, s.clock, expiry⟩), s) := by
  have hverify := d.issuer.verify_of_live drawn.nonce hname hlive
  have hagrees : refusal? s.clock (d.issuer.write drawn.nonce claims) claims.shown
      (d.filed drawn claims client) = none :=
    refusal?_eq_none_iff.mpr ⟨rfl, rfl, rfl, hlive⟩
  have hnew : Claims.new draw s.clock claims.username d.accessDuration
      = .ok ⟨.ofRandom draw.identifier, claims.username, s.clock, expiry⟩ :=
    Claims.new_eq_ok_iff.mpr ⟨hname, hexpiry, rfl⟩
  rw [renew_of_ok hverify hfound hagrees]
  exact issueAccess_of_ok d hnew

end CredentialDesk

end CountingHouse
