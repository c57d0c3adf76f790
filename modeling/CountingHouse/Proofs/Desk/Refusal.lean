/-
All refusals of a credential look alike.

There are many ways for a check of a credential to fail: at the header, at the text of the
token, at its code or its seal, at the claims, at the clock and at the session. Every one of
them ends in the same kind of error. That is proved along the calls (`Refuses`), from what can
be wrong with a token upwards. What is said outside about an error of this kind does not depend
on what was wrong, so two refusals cannot be told apart, wherever they come from.
-/
import CountingHouse.Proofs.Desk.Operations

set_option autoImplicit false

namespace CountingHouse

open Text

/-! ## Tokens -/

/-- Whether what is wrong with a token is told as a failed check of a credential. -/
def TokenError.IsRefusal (e : TokenError) : Prop :=
  ∃ failure, e.toBankError = .unauthorized failure

namespace Claims

variable {c : Claims} {draw : Draw} {now : Instant} {username : String} {duration : Span}
variable {bytes : List UInt8} {e : TokenError}

/-- Claims that cannot be made are told as invalid claims. -/
theorem isRefusal_of_new (h : new draw now username duration = .error e) : e.IsRefusal := by
  unfold new at h
  split at h
  · cases h
    exact ⟨.invalidClaims, rfl⟩
  · split at h
    · cases h
    · cases h
      exact ⟨.invalidClaims, rfl⟩

/-- Claims that do not hold up are told as invalid or as expired, both of which are failed
checks. -/
theorem isRefusal_of_validate (h : c.validate now = .error e) : e.IsRefusal := by
  unfold validate at h
  split at h
  · cases h
    exact ⟨.invalidClaims, rfl⟩
  · split at h
    · cases h
      exact ⟨.tokenExpired, rfl⟩
    · cases h

/-- Bytes that are no valid claims are told as a failed check, whether they cannot be read or do not
hold up. -/
theorem isRefusal_of_read (h : read bytes now = .error e) : e.IsRefusal := by
  unfold read at h
  split at h
  · exact isRefusal_of_validate h
  · cases h
    exact ⟨.invalidClaims, rfl⟩

end Claims

section Tokens

variable {key : List UInt8} {now : Instant} {token : String} {e : TokenError}

/-- A signed token fails at its pieces, at its code or at its claims, each time as a failed
check. -/
theorem SignedToken.isRefusal_of_verify (h : verify key now token = .error e) :
    e.IsRefusal := by
  unfold verify at h
  split at h
  · split at h
    · split at h
      · exact Claims.isRefusal_of_read h
      · cases h
        exact ⟨.invalidClaims, rfl⟩
    · cases h
      exact ⟨.invalidSignature, rfl⟩
  · cases h
    exact ⟨.invalidSignature, rfl⟩

/-- A sealed token fails at its header, at its text, at its seal or at its claims, each time as a
failed check. -/
theorem SealedToken.isRefusal_of_verify (h : verify key now token = .error e) :
    e.IsRefusal := by
  unfold verify at h
  split at h
  · exact Claims.isRefusal_of_read h
  · cases h
    exact ⟨.invalidSignature, rfl⟩

namespace TokenIssuer

variable {i : TokenIssuer} {draw : Draw} {username : String} {duration : Span}

/-- The key of an issuer is never what is wrong. -/
theorem isRefusal_of_verify (h : i.verify now token = .error e) : e.IsRefusal := by
  unfold verify at h
  split at h
  · exact SignedToken.isRefusal_of_verify h
  · exact SealedToken.isRefusal_of_verify h

/-- A token of either format fails to be made only for its claims. -/
theorem isRefusal_of_create (h : i.create draw now username duration = .error e) :
    e.IsRefusal := by
  unfold create at h
  rcases hclaims : Claims.new draw now username duration with e' | claims
  · rw [hclaims] at h
    cases h
    exact Claims.isRefusal_of_new hclaims
  · rw [hclaims] at h
    cases h

end TokenIssuer

end Tokens

/-! ## Chains of calls -/

namespace Operation

variable {α β : Type}

/-- Whether an operation fails only by refusing a credential. -/
def Refuses (x : Operation α) : Prop :=
  ∀ s e, (x s).1 = .error e → ∃ failure, e = .unauthorized failure

/-- A chain of links that fail only by refusing a credential fails only so: its error is that of the
link at which it ends. -/
theorem Refuses.bind {x : Operation α} {f : α → Operation β} (hx : x.Refuses)
    (hf : ∀ a, (f a).Refuses) : (x >>= f).Refuses := by
  intro s e h
  rcases hrun : x s with ⟨e' | a, t⟩
  · rw [bind_of_error hrun] at h
    cases h
    exact hx s e (by rw [hrun])
  · rw [bind_of_ok hrun] at h
    exact hf a t e h

/-- An operation that does not fail. -/
theorem refuses_of_ok {x : Operation α} {f : Stores → α} (h : ∀ s, (x s).1 = .ok (f s)) :
    x.Refuses := by
  intro s e he
  rw [h s] at he
  cases he

/-- An answer does not fail. -/
theorem refuses_pure (a : α) : (pure a : Operation α).Refuses :=
  refuses_of_ok (f := fun _ => a) fun _ => rfl

/-- Reading the clock does not fail. -/
theorem refuses_now : now.Refuses := refuses_of_ok fun _ => rfl

/-- Looking up a session does not fail, whether or not there is one. -/
theorem refuses_session? (id : SessionId) : (Backend.memory.session? id).Refuses :=
  refuses_of_ok fun _ => rfl

/-- Blocking a session does not fail, whether or not there is one. -/
theorem refuses_blockSession (id : SessionId) : (Backend.memory.blockSession id).Refuses :=
  refuses_of_ok fun _ => rfl

end Operation

namespace CredentialDesk

open Operation

/-- Refusing a credential is told as a failed check, whichever check it was. -/
theorem refuses_refuse {α : Type} (failure : AuthFailure) :
    (refuse failure : Operation α).Refuses := by
  intro s e h
  cases h
  exact ⟨failure, rfl⟩

/-- Errors of a token library that are failed checks stay failed checks when they are taken over. -/
theorem refuses_lift {α : Type} {answer : Except TokenError α}
    (h : ∀ e, answer = .error e → e.IsRefusal) : (lift answer).Refuses := by
  intro s e he
  rcases answer with e' | a
  · obtain ⟨failure, hfailure⟩ := h e' rfl
    cases he
    exact ⟨failure, hfailure⟩
  · cases he

/-! ## The desk -/

variable (d : CredentialDesk)

/-- Issuing an access token fails only by refusing. -/
theorem refuses_issueAccess (draw : Draw) (username : String) (duration : Span) :
    (d.issueAccess draw username duration).Refuses :=
  refuses_now.bind fun _ => refuses_lift fun _ h => TokenIssuer.isRefusal_of_create h

/-- Verifying a token fails only by refusing, in both formats. -/
theorem refuses_verify (token : String) : (d.verify token).Refuses :=
  refuses_now.bind fun _ => refuses_lift fun _ h => TokenIssuer.isRefusal_of_verify h

/-- Authorising a header fails only by refusing: at the header or at the token in it. -/
theorem refuses_authorize (header : Option String) : (d.authorize header).Refuses := by
  unfold authorize
  split
  · exact d.refuses_verify _
  · exact refuses_refuse _

/-- A renewal fails only by refusing: at the token, at the session or at the claims of the new
token. -/
theorem refuses_renew (draw : Draw) (token : String) :
    (d.renew .memory draw token).Refuses := by
  refine (d.refuses_verify token).bind fun claims => (refuses_session? _).bind fun found => ?_
  split
  · exact refuses_refuse _
  · refine refuses_now.bind fun now => ?_
    split
    · exact refuses_refuse _
    · exact d.refuses_issueAccess draw _ _

/-- Revoking fails only by refusing: there is no session, or it is not of the caller. -/
theorem refuses_revoke (username : String) (id : SessionId) :
    (revoke .memory username id).Refuses := by
  refine (refuses_session? id).bind fun found => ?_
  split
  · exact refuses_refuse _
  · split
    · exact refuses_refuse _
    · refine refuses_now.bind fun now => ?_
      split
      · exact refuses_pure _
      · exact refuses_pure _
      · refine (refuses_blockSession id).bind fun blocked => ?_
        split
        · exact refuses_pure _
        · exact refuses_refuse _

end CredentialDesk

/-! ## What is said outside -/

/-- The document that is sent to the caller in place of an answer. -/
def BankError.response (e : BankError) : List UInt8 := utf8 e.toJson.render

/-- The document is the same for all failed checks. -/
theorem BankError.response_unauthorized (failure : AuthFailure) :
    (unauthorized failure).response = utf8 "\x7b\"error\":\"unauthorized\"\x7d" := by
  have htext : (unauthorized failure).publicText = "unauthorized" := rfl
  unfold response toJson
  rw [htext]
  decide +kernel

/-- A check of a credential, or of the right to revoke a session. -/
inductive CredentialCheck where
  | authorize (header : Option String)
  | verify (token : String)
  | renew (draw : Draw) (token : String)
  | revoke (username : String) (id : SessionId)

namespace CredentialCheck

/-- Whether a check fails at a desk, with this error. -/
def Fails (c : CredentialCheck) (d : CredentialDesk) (s : Stores) (e : BankError) : Prop :=
  match c with
  | authorize header => (d.authorize header s).1 = .error e
  | verify token => (d.verify token s).1 = .error e
  | renew draw token => (d.renew .memory draw token s).1 = .error e
  | revoke username id => (CredentialDesk.revoke .memory username id s).1 = .error e

variable {c : CredentialCheck} {d : CredentialDesk} {s : Stores} {e : BankError}

/-- Whatever check fails, the error is one of a failed check: each of the calls has been shown to
above. -/
theorem exists_failure_of_fails (h : c.Fails d s e) : ∃ failure, e = .unauthorized failure := by
  cases c with
  | authorize header => exact d.refuses_authorize header s e h
  | verify token => exact d.refuses_verify token s e h
  | renew draw token => exact d.refuses_renew draw token s e h
  | revoke username id => exact CredentialDesk.refuses_revoke username id s e h

/-- A check that fails is refused for lack of authority and may not be tried again, and what is
sent in reply is the same as for any other check that fails, at any desk and whatever the
stores hold. -/
theorem refused_alike (h : c.Fails d s e) :
    e.kind = .unauthorized ∧ e.mayRetry = false ∧
      e.response = utf8 "\x7b\"error\":\"unauthorized\"\x7d" ∧
      ∀ c' d' s' e', Fails c' d' s' e' → e'.response = e.response := by
  obtain ⟨failure, rfl⟩ := exists_failure_of_fails h
  refine ⟨rfl, rfl, BankError.response_unauthorized failure, fun c' d' s' e' h' => ?_⟩
  obtain ⟨failure', rfl⟩ := exists_failure_of_fails h'
  rw [BankError.response_unauthorized, BankError.response_unauthorized]

/-- Whoever revokes the session of somebody else is told what is told without a credential. -/
theorem refused_alike_to_strangers :
    let d : CredentialDesk := ⟨⟨.sealed, List.replicate 32 0, by decide⟩, .ofSeconds 60⟩
    let id : SessionId := ⟨.ofRandom 7⟩
    let r : Session := ⟨id, "ann", "token", {}, false, default, default⟩
    let s : Stores := { clock := default, sessions := ⟨[r]⟩ }
    let mismatch : BankError := .unauthorized .sessionUserMismatch
    let missing : BankError := .unauthorized .missingCredential
    Fails (.revoke "bob" id) d s mismatch ∧ Fails (.authorize none) d s missing ∧
      mismatch.kind = .unauthorized ∧ missing ≠ mismatch ∧
      missing.response = mismatch.response := by
  intro d id r s mismatch missing
  have hmismatch : Fails (.revoke "bob" id) d s mismatch := by
    unfold Fails
    rfl
  have hmissing : Fails (.authorize none) d s missing := rfl
  have hne : missing ≠ mismatch := by decide
  obtain ⟨hkind, -, -, halike⟩ := refused_alike hmismatch
  exact ⟨hmismatch, hmissing, hkind, hne, halike _ _ _ _ hmissing⟩

end CredentialCheck

end CountingHouse
