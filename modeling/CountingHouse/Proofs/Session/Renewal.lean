/-
Renewal is exactly a live refresh session.

The desk decides about a renewal by what it finds in the token, in the table and on the clock.
`Renewal` says what this comes to over a whole history that began without sessions. A text is
renewed if and only if it is a refresh token that was granted, that has not expired, and that
its user has not revoked since. Either way nothing is changed by the renewal.

From the history to the answer: a token that was granted is read as its claims, and its session
is still on file as it was filed. From the answer to the history: the session that was found
comes from a grant, of this very text, and is not blocked, so no visit has ended it.
-/
import CountingHouse.Proofs.Desk.Refusal
import CountingHouse.Proofs.Session.Visits

set_option autoImplicit false

namespace CountingHouse.CredentialDesk

open Operation

/-! ## Tokens that stand -/

/-- Whether a token was granted to a user, has not expired and was not revoked by the user
afterwards. -/
def Stands (d : CredentialDesk) (s : Stores) (visits : List Visit) (now : Instant)
    (token username : String) : Prop :=
  ∃ earlier v later g, visits = earlier ++ v :: later ∧ d.Grants (d.run s earlier) v username g ∧
    g.refreshToken = token ∧ now ≤ g.expiresAt ∧
    ∀ w ∈ later, w.call ≠ .revoke username g.session

/-- Whether no visit revoked a session before it was granted. Identifiers are drawn at random,
so this is left to chance. -/
def Unforeseen (d : CredentialDesk) (s : Stores) (visits : List Visit) : Prop :=
  ∀ earlier v later, visits = earlier ++ v :: later →
    ∀ username g, d.Grants (d.run s earlier) v username g →
    ∀ w ∈ earlier, w.call ≠ .revoke username g.session

variable {d : CredentialDesk} {s : Stores} {visits : List Visit} {now expiry : Instant}
variable {token username : String} {draw : Draw} {r : Session} {id : SessionId}

/-- The session of a token that stands is on file as it was filed. -/
theorem filed_of_stands (h : d.Stands s visits now token username) :
    ∃ draw claims client, claims.username = username ∧ username ≠ "" ∧
      token = d.issuer.write draw.nonce claims ∧ now ≤ claims.expiresAt ∧
      (d.run s visits).sessions.find? ⟨claims.id⟩ = some (d.filed draw claims client) := by
  obtain ⟨earlier, v, later, g, rfl, hgrants, rfl, hlive, hkept⟩ := h
  obtain ⟨draw, claims, client, hname, hne, rfl, hfree, hfiled⟩ := filed_of_grants hgrants
  refine ⟨draw, claims, client, hname, hne, rfl, hlive, ?_⟩
  have hfound : (d.receive (d.run s earlier) v).sessions.find? ⟨claims.id⟩
      = some (d.filed draw claims client) := by
    rw [hfiled]
    exact SessionTable.find?_enter_self (r := d.filed draw claims client) hfree
  -- a visit that ended the session would be a revocation by its user
  have hsame : (d.filed draw claims client).after later = d.filed draw claims client := by
    have hnone : (later.any fun w => w.ends (d.filed draw claims client)) = false := by
      refine List.any_eq_false.mpr fun w hw hends => hkept w hw ?_
      rw [← hname]
      exact (Visit.ends_iff.mp hends).1
    unfold Session.after
    rw [hnone]
    rfl
  rw [run_append, ← hsame]
  exact find?_run hfound later

/-- A token that stands is renewed for its user. -/
theorem renew_of_stands (h : d.Stands s visits now token username)
    (hexpiry : now.add? d.accessDuration = some expiry) (draw : Draw) :
    ∃ new, (d.renew .memory draw token ((d.run s visits).atTime now)).1
      = .ok (new, ⟨.ofRandom draw.identifier, username, now, expiry⟩) := by
  obtain ⟨drawn, claims, client, rfl, hne, rfl, hlive, hfound⟩ := filed_of_stands h
  have hrenew := renew_of_filed (s := (d.run s visits).atTime now) hne hlive hfound hexpiry draw
  exact ⟨_, congrArg Prod.fst hrenew⟩

/-- A session that is on file and active comes from a token that stands. -/
theorem stands_of_found (hclock : ∀ v ∈ visits, v.now ≤ now)
    (hnone : s.sessions.find? id = none)
    (hfound : (d.run s visits).sessions.find? id = some r)
    (hclear : r.isBlocked = false) (hlive : now ≤ r.expiresAt) :
    d.Stands s visits now r.refreshToken r.username := by
  obtain ⟨earlier, v, later, rfl, hgrants, hblocked⟩ := exists_grant hnone hfound
  refine ⟨earlier, v, later, _, rfl, hgrants, rfl, hlive, fun w hw hcall => ?_⟩
  -- a revocation in between would have been in time, because the clock has not gone back
  rw [hclear] at hblocked
  have hw' : w ∈ earlier ++ v :: later :=
    List.mem_append_right _ (List.mem_cons_of_mem v hw)
  have hends : w.ends r = true := by
    rw [Visit.ends_iff, SessionTable.id_of_find? hfound]
    exact ⟨hcall, Instant.le_trans (hclock w hw') hlive⟩
  exact List.any_eq_false.mp hblocked.symm w hw hends

/-- What is renewed stands. -/
theorem stands_of_renew {renewed : String × Claims} (hempty : s.sessions = .empty)
    (hclock : ∀ v ∈ visits, v.now ≤ now)
    (h : (d.renew .memory draw token ((d.run s visits).atTime now)).1 = .ok renewed) :
    ∃ username, d.Stands s visits now token username := by
  rcases d.renew_cases draw token ((d.run s visits).atTime now) with
    ⟨e, hrefused⟩ | ⟨claims, r, -, hfound, hagrees⟩
  · rw [hrefused] at h
    cases h
  · obtain ⟨hclear, -, rfl, hlive⟩ := refusal?_eq_none_iff.mp hagrees
    have hnone : s.sessions.find? ⟨claims.id⟩ = none := by
      rw [hempty]
      rfl
    exact ⟨r.username, stands_of_found hclock hnone hfound hclear hlive⟩

/-- Where identifiers cannot be foreseen, a token stands if it was not revoked at any time. -/
theorem stands_iff_of_unforeseen (hunforeseen : d.Unforeseen s visits) :
    d.Stands s visits now token username ↔
      ∃ earlier v later g, visits = earlier ++ v :: later ∧
        d.Grants (d.run s earlier) v username g ∧ g.refreshToken = token ∧ now ≤ g.expiresAt ∧
        ∀ w ∈ visits, w.call ≠ .revoke username g.session := by
  constructor
  · rintro ⟨earlier, v, later, g, hvisits, hgrants, htoken, hlive, hkept⟩
    refine ⟨earlier, v, later, g, hvisits, hgrants, htoken, hlive, fun w hw => ?_⟩
    obtain ⟨draw, duration, client, hcall, -⟩ := id hgrants
    rw [hvisits] at hw
    rcases List.mem_append.mp hw with hearlier | hrest
    · exact hunforeseen earlier v later hvisits username g hgrants w hearlier
    · rcases List.mem_cons.mp hrest with rfl | hlater
      · intro hrevoke
        rw [hcall] at hrevoke
        cases hrevoke
      · exact hkept w hlater
  · rintro ⟨earlier, v, later, g, rfl, hgrants, htoken, hlive, hkept⟩
    refine ⟨earlier, v, later, g, rfl, hgrants, htoken, hlive, fun w hw => ?_⟩
    exact hkept w (List.mem_append_right _ (List.mem_cons_of_mem v hw))

/-! ## Renewals -/

/-- What a renewal comes to after a history. -/
structure Renewal (d : CredentialDesk) (s : Stores) (visits : List Visit) (now : Instant)
    (draw : Draw) (token : String) : Prop where
  /-- A text is renewed exactly if it is a token that stands. -/
  exactly :
    (∃ renewed, (d.renew .memory draw token ((d.run s visits).atTime now)).1 = .ok renewed) ↔
      ∃ username, d.Stands s visits now token username
  /-- The new token is for the user of the old one. It is issued now and expires the access
  duration later, and the difference of the two is that duration, unless now is inside a leap
  second, which differences do not count. -/
  bought : ∀ username, d.Stands s visits now token username → ∃ new claims,
    (d.renew .memory draw token ((d.run s visits).atTime now)).1 = .ok (new, claims) ∧
      claims.username = username ∧ claims.issuedAt = now ∧
      now.add? d.accessDuration = some claims.expiresAt ∧
      (now.isLeap = false → claims.expiresAt.since claims.issuedAt = d.accessDuration)
  /-- Any other text is refused. -/
  refused : (¬ ∃ username, d.Stands s visits now token username) → ∃ e,
    (d.renew .memory draw token ((d.run s visits).atTime now)).1 = .error e ∧
      e.kind = .unauthorized
  /-- No renewal changes the stores. -/
  unchanged : (d.renew .memory draw token ((d.run s visits).atTime now)).2
    = (d.run s visits).atTime now
  /-- Unless an identifier was foreseen, a token that stands is one that was granted, has not
  expired and was never revoked. -/
  unrevoked : d.Unforeseen s visits → ∀ username, d.Stands s visits now token username ↔
    ∃ earlier v later g, visits = earlier ++ v :: later ∧
      d.Grants (d.run s earlier) v username g ∧ g.refreshToken = token ∧ now ≤ g.expiresAt ∧
      ∀ w ∈ visits, w.call ≠ .revoke username g.session

/-- Renewal is exactly a live refresh session, whoever has called for what before. The clock
has not gone back behind a visit, and shows a time at which an access token can be made. -/
theorem renewal_run (d : CredentialDesk) (s : Stores) {visits : List Visit} {now expiry : Instant}
    (hclock : ∀ v ∈ visits, v.now ≤ now) (hexpiry : now.add? d.accessDuration = some expiry)
    (draw : Draw) (token : String) :
    d.Renewal { s with sessions := .empty } visits now draw token where
  exactly := by
    constructor
    · rintro ⟨renewed, hrenewed⟩
      exact stands_of_renew rfl hclock hrenewed
    · rintro ⟨username, hstands⟩
      obtain ⟨new, hrenewed⟩ := renew_of_stands hstands hexpiry draw
      exact ⟨_, hrenewed⟩
  bought := by
    intro username hstands
    obtain ⟨new, hrenewed⟩ := renew_of_stands hstands hexpiry draw
    exact ⟨new, _, hrenewed, rfl, rfl, hexpiry, fun hleap => Instant.since_of_add? hleap hexpiry⟩
  refused := by
    intro hnone
    -- if it were answered, the string would stand
    rcases hanswer : (d.renew .memory draw token
      ((d.run { s with sessions := .empty } visits).atTime now)).1 with e | renewed
    · obtain ⟨failure, rfl⟩ := d.refuses_renew draw token _ e hanswer
      exact ⟨_, rfl, rfl⟩
    · exact absurd (stands_of_renew rfl hclock hanswer) hnone
  unchanged := d.reads_renew draw token _
  unrevoked := fun hunforeseen _ => stands_iff_of_unforeseen hunforeseen

/-- A refresh token of a minute, granted at 10 and revoked by a stranger at 20, buys an access
token of another minute at 30. -/
theorem renewal_despite_stranger :
    let d : CredentialDesk := ⟨⟨.sealed, List.replicate 32 0, by decide⟩, .ofSeconds 60⟩
    let s : Stores := { clock := default, sessions := .empty }
    let ten : Instant := ⟨Date.epoch, 10, 0, by decide, by decide⟩
    let twenty : Instant := ⟨Date.epoch, 20, 0, by decide, by decide⟩
    let thirty : Instant := ⟨Date.epoch, 30, 0, by decide, by decide⟩
    let seventy : Instant := ⟨Date.epoch, 70, 0, by decide, by decide⟩
    let ninety : Instant := ⟨Date.epoch, 90, 0, by decide, by decide⟩
    let first : Draw := ⟨7, Vector.replicate 12 0⟩
    let second : Draw := ⟨8, Vector.replicate 12 1⟩
    let claims : Claims := ⟨.ofRandom 7, "ann", ten, seventy⟩
    let visits : List Visit := [⟨ten, .issueRefresh first "ann" (.ofSeconds 60) {}⟩,
      ⟨twenty, .revoke "bob" ⟨claims.id⟩⟩]
    (∀ v ∈ visits, v.now ≤ thirty) ∧ thirty.add? (.ofSeconds 60) = some ninety ∧
      ∃ new renewed, (d.renew .memory second (d.issuer.write first.nonce claims)
          ((d.run s visits).atTime thirty)).1 = .ok (new, renewed) ∧
        renewed.username = "ann" ∧ renewed.expiresAt.since renewed.issuedAt = .ofSeconds 60 := by
  intro d s ten twenty thirty seventy ninety first second claims visits
  have hclock : ∀ v ∈ visits, v.now ≤ thirty := by decide
  have hexpiry : thirty.add? (.ofSeconds 60) = some ninety := by decide
  have hclaims : Claims.new first (s.atTime ten).clock "ann" (.ofSeconds 60) = .ok claims :=
    Claims.new_eq_ok_iff.mpr ⟨by decide, by decide, rfl⟩
  have hissue := issueRefresh_of_ok (s := s.atTime ten) d {} hclaims rfl
  -- the only visit after the issue is a revocation, and by someone else
  have hstands : d.Stands s visits thirty (d.issuer.write first.nonce claims) "ann" := by
    have hlive : thirty ≤ seventy := by decide
    refine ⟨[], _, visits.tail, ⟨d.issuer.write first.nonce claims, ⟨claims.id⟩, seventy⟩, rfl,
      ⟨first, .ofSeconds 60, {}, rfl, congrArg Prod.fst hissue⟩, rfl, hlive, ?_⟩
    intro w hw hcall
    rw [List.mem_singleton.mp hw] at hcall
    exact absurd (DeskCall.revoke.inj hcall).1 (by decide)
  obtain ⟨new, renewed, hanswer, hname, -, -, hspan⟩ :=
    (renewal_run d s hclock hexpiry second _).bought "ann" hstands
  exact ⟨hclock, hexpiry, new, renewed, hanswer, hname, hspan rfl⟩

end CountingHouse.CredentialDesk
