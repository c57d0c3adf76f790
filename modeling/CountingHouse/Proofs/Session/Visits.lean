/-
Visits to the desk for credentials.

A visit is one call at one reading of the clock, and a history is a list of visits that are
received one after the other. What a history does to a session is said by one law
(`find?_run`): the session is still there, unchanged, and is blocked if it was or if one of the
visits ended it. A visit ends a session by revoking it under its user's name before it expires;
nothing else is ever changed about a session. And a session comes from nowhere but a refresh
token that was granted (`exists_grant`).
-/
import CountingHouse.Proofs.Desk.Credentials

set_option autoImplicit false

namespace CountingHouse

/-! ## Calls and visits -/

/-- A call of the desk, with what it draws. -/
inductive DeskCall where
  | issueAccess (draw : Draw) (username : String) (duration : Span)
  | issueRefresh (draw : Draw) (username : String) (duration : Span) (client : Client)
  | verify (token : String)
  | authorize (header : Option String)
  | renew (draw : Draw) (token : String)
  | revoke (username : String) (id : SessionId)

/-- A call and the time at which it is made. -/
structure Visit where
  now : Instant
  call : DeskCall

/-- The stores when their clock shows a time. -/
def Stores.atTime (s : Stores) (now : Instant) : Stores := { s with clock := now }

namespace CredentialDesk

/-- The stores after a call, whatever the answer is. -/
def attend (d : CredentialDesk) (s : Stores) : DeskCall → Stores
  | .issueAccess draw username duration => (d.issueAccess draw username duration s).2
  | .issueRefresh draw username duration client =>
    (d.issueRefresh .memory draw username duration client s).2
  | .verify token => (d.verify token s).2
  | .authorize header => (d.authorize header s).2
  | .renew draw token => (d.renew .memory draw token s).2
  | .revoke username id => (revoke .memory username id s).2

def receive (d : CredentialDesk) (s : Stores) (v : Visit) : Stores :=
  d.attend (s.atTime v.now) v.call

def run (d : CredentialDesk) (s : Stores) (visits : List Visit) : Stores :=
  visits.foldl d.receive s

/-- Histories are gone through one after the other. -/
theorem run_append (d : CredentialDesk) (s : Stores) (visits more : List Visit) :
    d.run s (visits ++ more) = d.run (d.run s visits) more := List.foldl_append

end CredentialDesk

/-! ## The end of a session -/

/-- Whether a visit ends a session: it revokes it under the name of its user before it
expires. -/
def Visit.ends (v : Visit) (r : Session) : Bool :=
  match v.call with
  | .revoke username id => r.username == username && r.id == id && v.now ≤ r.expiresAt
  | _ => false

/-- A visit ends a session if the owner revokes it before its time is over. -/
theorem Visit.ends_iff {v : Visit} {r : Session} :
    v.ends r = true ↔ v.call = .revoke r.username r.id ∧ v.now ≤ r.expiresAt := by
  obtain ⟨now, call⟩ := v
  cases call with
  | revoke username id =>
    simp only [ends, Bool.and_eq_true, beq_iff_eq, decide_eq_true_eq, DeskCall.revoke.injEq]
    constructor
    · rintro ⟨⟨rfl, rfl⟩, hlive⟩
      exact ⟨⟨rfl, rfl⟩, hlive⟩
    · rintro ⟨⟨rfl, rfl⟩, hlive⟩
      exact ⟨⟨rfl, rfl⟩, hlive⟩
  | _ => simp [ends]

namespace Session

variable {r : Session} {now : Instant}

/-- A session after some visits. -/
def after (r : Session) (visits : List Visit) : Session :=
  { r with isBlocked := r.isBlocked || visits.any fun v => v.ends r }

/-- Nothing happens to a session without visits. -/
theorem after_nil (r : Session) : r.after [] = r := by
  simp only [after, List.any_nil, Bool.or_false]

/-- Visits are looked at one after the other. -/
theorem after_cons (r : Session) (v : Visit) (visits : List Visit) :
    r.after (v :: visits) = (r.after [v]).after visits := by
  simp only [after, List.any_cons, List.any_nil, Bool.or_false, Bool.or_assoc]
  rfl

/-- What becomes of a session over two histories is what the second one makes of what the first one
made. -/
theorem after_append (r : Session) (visits more : List Visit) :
    r.after (visits ++ more) = (r.after visits).after more := by
  simp only [after, List.any_append, Bool.or_assoc]
  rfl

/-- A visit changes only a session that it ends and that had not been ended before. -/
theorem after_eq_self {v : Visit} (h : v.ends r = true → r.isBlocked = true) :
    r.after [v] = r := by
  have hflag : (r.isBlocked || v.ends r) = r.isBlocked := by
    by_cases hends : v.ends r = true
    · rw [h hends, Bool.true_or]
    · rw [Bool.eq_false_iff.mpr hends, Bool.or_false]
  simp only [after, List.any_cons, List.any_nil, Bool.or_false, hflag]

/-- A visit that ends a session leaves it blocked, and otherwise as it was. -/
theorem after_of_ends {v : Visit} (h : v.ends r = true) :
    r.after [v] = { r with isBlocked := true } := by
  simp only [after, List.any_cons, h, Bool.true_or, Bool.or_true]

/-- A session is active if it is not blocked and its time is not over. -/
theorem state_eq_active_iff :
    r.state now = .active ↔ r.isBlocked = false ∧ now ≤ r.expiresAt := by
  unfold state
  by_cases hblocked : r.isBlocked = true
  · simp [hblocked]
  · by_cases hlate : r.expiresAt < now
    · simp [hblocked, hlate, ← Instant.not_lt]
    · simp [hblocked, hlate, ← Instant.not_lt]

end Session

namespace CredentialDesk

open Operation

variable {d : CredentialDesk} {s : Stores} {v : Visit} {id : SessionId} {r : Session}
variable {visits : List Visit}

/-! ## One visit -/

/-- A table in which no session changes that a visit ends. -/
theorem map_after_eq_self (t : SessionTable)
    (h : ∀ r, t.find? id = some r → v.ends r = true → r.isBlocked = true) :
    (t.find? id).map (·.after [v]) = t.find? id := by
  rcases hfound : t.find? id with _ | r
  · rfl
  · rw [Option.map_some, Session.after_eq_self (h r hfound)]

/-- A revocation ends the session that it names if it may, and no other. -/
theorem find?_revoke (s : Stores) (username : String) (k id : SessionId) :
    (revoke .memory username k s).2.sessions.find? id
      = (s.sessions.find? id).map (·.after [⟨s.clock, .revoke username k⟩]) := by
  by_cases hmay : ∃ r, s.sessions.find? k = some r ∧ r.username = username
      ∧ r.state s.clock = .active
  · obtain ⟨r, hfound, rfl, hactive⟩ := hmay
    have hk : r.id = k := SessionTable.id_of_find? hfound
    rw [revoke_of_active hfound hactive]
    by_cases hid : id = k
    · subst hid
      have hends : Visit.ends ⟨s.clock, .revoke r.username id⟩ r = true := by
        rw [Visit.ends_iff, hk]
        exact ⟨rfl, (Session.state_eq_active_iff.mp hactive).2⟩
      rw [SessionTable.find?_block_self hfound, hfound, Option.map_some,
        Session.after_of_ends hends]
    · rw [SessionTable.find?_block_of_ne hid, map_after_eq_self]
      intro r' hfound' hends
      have hsame := (DeskCall.revoke.inj (Visit.ends_iff.mp hends).1).2
      exact absurd ((SessionTable.id_of_find? hfound').symm.trans hsame.symm) hid
  · have hkeeps : ∀ r, s.sessions.find? k = some r → r.username = username →
        r.state s.clock ≠ .active :=
      fun r hfound hname hactive => hmay ⟨r, hfound, hname, hactive⟩
    rw [revoke_keeps hkeeps, map_after_eq_self]
    -- nothing was done, so a session that this visit ends had been blocked already
    intro r hfound hends
    obtain ⟨hcall, hlive⟩ := Visit.ends_iff.mp hends
    obtain ⟨hname, hk⟩ := DeskCall.revoke.inj hcall
    rw [SessionTable.id_of_find? hfound] at hk
    subst hk
    by_contra hblocked
    exact hkeeps r hfound hname.symm (Session.state_eq_active_iff.mpr
      ⟨Bool.eq_false_iff.mpr hblocked, hlive⟩)

/-- Whether a visit is answered with a refresh token for a user. -/
def Grants (d : CredentialDesk) (s : Stores) (v : Visit) (username : String)
    (g : RefreshGrant) : Prop :=
  ∃ draw duration client, v.call = .issueRefresh draw username duration client ∧
    (d.issueRefresh .memory draw username duration client (s.atTime v.now)).1 = .ok g

/-- Behind a refresh token that is granted stands a session of its own. -/
theorem filed_of_grants {username : String} {g : RefreshGrant} (h : d.Grants s v username g) :
    ∃ draw claims client, claims.username = username ∧ username ≠ "" ∧
      g = ⟨d.issuer.write draw.nonce claims, ⟨claims.id⟩, claims.expiresAt⟩ ∧
      s.sessions.find? ⟨claims.id⟩ = none ∧
      (d.receive s v).sessions = s.sessions.enter (d.filed draw claims client) := by
  obtain ⟨now, call⟩ := v
  obtain ⟨draw, duration, client, hcall, hanswer⟩ := h
  cases hcall
  rcases d.issueRefresh_cases draw username duration client (s.atTime now) with
    ⟨e, hrefused⟩ | ⟨claims, hclaims, hfree⟩
  · rw [hrefused] at hanswer
    cases hanswer
  · have hissue := issueRefresh_of_ok d client hclaims hfree
    rw [hissue] at hanswer
    obtain ⟨hname, -, hnew⟩ := Claims.new_eq_ok_iff.mp hclaims
    refine ⟨draw, claims, client, ?_, hname, (Except.ok.inj hanswer).symm, hfree, ?_⟩
    · rw [hnew]
    · exact congrArg (fun answer => answer.2.sessions) hissue

/-- A visit that grants no refresh token does no more than end sessions. -/
theorem receive_cases (d : CredentialDesk) (s : Stores) (v : Visit) :
    (∃ username g, d.Grants s v username g) ∨
    (∀ id, (d.receive s v).sessions.find? id = (s.sessions.find? id).map (·.after [v])) := by
  obtain ⟨now, call⟩ := v
  -- a visit that only reads leaves the table, and ends no session
  have hreads : ∀ {α : Type} {x : Operation α}, x.Reads →
      (∀ r, Visit.ends ⟨now, call⟩ r = false) →
      ∀ id, (x (s.atTime now)).2.sessions.find? id
        = (s.sessions.find? id).map (·.after [⟨now, call⟩]) := by
    intro α x hx hends id
    rw [hx (s.atTime now), map_after_eq_self]
    · rfl
    · intro r _ hend
      rw [hends r] at hend
      cases hend
  cases call with
  | issueAccess draw username duration =>
    exact .inr (hreads (d.reads_issueAccess draw username duration) fun _ => rfl)
  | verify token => exact .inr (hreads (d.reads_verify token) fun _ => rfl)
  | authorize header => exact .inr (hreads (d.reads_authorize header) fun _ => rfl)
  | renew draw token => exact .inr (hreads (d.reads_renew draw token) fun _ => rfl)
  | revoke username k => exact .inr (find?_revoke (s.atTime now) username k)
  | issueRefresh draw username duration client =>
    rcases d.issueRefresh_cases draw username duration client (s.atTime now) with
      ⟨e, hrefused⟩ | ⟨claims, hclaims, hfree⟩
    · have hsame : d.receive s ⟨now, .issueRefresh draw username duration client⟩
          = s.atTime now := congrArg Prod.snd hrefused
      refine .inr fun id => ?_
      rw [hsame, map_after_eq_self]
      · rfl
      · intro r _ hends
        cases hends
    · have hissue := issueRefresh_of_ok d client hclaims hfree
      exact .inl ⟨username, _, draw, duration, client, rfl, congrArg Prod.fst hissue⟩

/-- A session stays, and changes only by being ended. -/
theorem find?_receive (h : s.sessions.find? id = some r) (v : Visit) :
    (d.receive s v).sessions.find? id = some (r.after [v]) := by
  rcases d.receive_cases s v with ⟨username, g, hgrants⟩ | hends
  · have hkept : r.after [v] = r := by
      obtain ⟨draw, duration, client, hcall, -⟩ := hgrants
      refine Session.after_eq_self fun hends => ?_
      rw [(Visit.ends_iff.mp hends).1] at hcall
      cases hcall
    obtain ⟨draw, claims, client, -, -, -, -, hfiled⟩ := filed_of_grants hgrants
    rw [hfiled, hkept]
    exact SessionTable.find?_enter_of_some h _
  · rw [hends, h, Option.map_some]

/-- A session that is new is that of a refresh token that is granted. -/
theorem grants_of_new (hnone : s.sessions.find? id = none)
    (hfound : (d.receive s v).sessions.find? id = some r) :
    d.Grants s v r.username ⟨r.refreshToken, id, r.expiresAt⟩ ∧ r.isBlocked = false := by
  rcases d.receive_cases s v with ⟨username, g, hgrants⟩ | hends
  · obtain ⟨draw, claims, client, hname, -, hg, hfree, hfiled⟩ := filed_of_grants hgrants
    rw [hfiled] at hfound
    by_cases hid : (⟨claims.id⟩ : SessionId) = id
    · subst hid
      have hr := SessionTable.find?_enter_self (r := d.filed draw claims client) hfree
      have hsame : d.filed draw claims client = r := Option.some.inj (hr.symm.trans hfound)
      rw [← hsame]
      refine ⟨?_, rfl⟩
      rw [hg, ← hname] at hgrants
      exact hgrants
    · have hother := SessionTable.find?_enter_of_ne (t := s.sessions)
        (r := d.filed draw claims client) hid
      rw [hother, hnone] at hfound
      cases hfound
  · rw [hends, hnone] at hfound
    cases hfound

/-! ## Histories -/

/-- A session stays, and changes only by being ended by one of the visits. -/
theorem find?_run (h : s.sessions.find? id = some r) (visits : List Visit) :
    (d.run s visits).sessions.find? id = some (r.after visits) := by
  induction visits generalizing s r with
  | nil =>
    rw [Session.after_nil]
    exact h
  | cons v visits ih =>
    rw [Session.after_cons]
    exact ih (find?_receive h v)

/-- A session that was not there before comes from a refresh token that was granted on the way,
and is blocked if a later visit ended it. -/
theorem exists_grant (hnone : s.sessions.find? id = none)
    (hfound : (d.run s visits).sessions.find? id = some r) :
    ∃ earlier v later, visits = earlier ++ v :: later ∧
      d.Grants (d.run s earlier) v r.username ⟨r.refreshToken, id, r.expiresAt⟩ ∧
      r.isBlocked = later.any fun w => w.ends r := by
  induction visits generalizing s with
  | nil =>
    rw [run, List.foldl_nil, hnone] at hfound
    cases hfound
  | cons v visits ih =>
    -- the session is there after the first visit, or it is still to come
    rcases hfirst : (d.receive s v).sessions.find? id with _ | r₀
    · obtain ⟨earlier, w, later, rfl, hgrants, hblocked⟩ := ih hfirst hfound
      exact ⟨v :: earlier, w, later, rfl, hgrants, hblocked⟩
    · obtain ⟨hgrants, hfresh⟩ := grants_of_new hnone hfirst
      have hafter : r₀.after visits = r :=
        Option.some.inj ((find?_run hfirst visits).symm.trans hfound)
      refine ⟨[], v, visits, rfl, ?_, ?_⟩
      · rw [← hafter]
        exact hgrants
      · rw [← hafter]
        simp only [Session.after, hfresh, Bool.false_or]
        rfl

end CredentialDesk

end CountingHouse
