/-
Logging in at a bank with good settings.

Settings in which nothing is wrong make a bank, and a user who logs in there is served, with an
access token that is good as a bearer credential, a refresh token that can be renewed, and one
session behind it (`Admitted`). The settings see to it that the key is long enough and that the
tokens do not expire before they are issued. What they do not see to is the end of the calendar.
A refresh token may be meant to live so long that its expiry has no date, and then nobody can log
in (`login_of_endless`); apart from this everybody can.

The access token is the shorter one of the two, so the expiry that decides is that of the refresh
token.
-/
import CountingHouse.Proofs.Bank.Requests
import CountingHouse.Proofs.Desk.Credentials
import CountingHouse.Proofs.Desk.Header

set_option autoImplicit false

namespace CountingHouse

open Text

/-! ## Settings -/

/-- There is no first flaw where a check passes and the others find none. -/
theorem ite_some_eq_none_iff {α : Type} {p : Prop} [Decidable p] {a : α} {o : Option α} :
    (if p then some a else o) = none ↔ ¬ p ∧ o = none := by
  by_cases h : p
  · simp [h]
  · simp [h]

/-- Settings without a flaw have a key that is long enough, and durations that are positive and in
the right order. -/
theorem Settings.good_of_flaw? {c : Settings} (h : c.flaw? = none) :
    leastKeyLength ≤ (utf8 c.symmetricKey).length ∧ .zero < c.accessDuration
      ∧ c.accessDuration ≤ c.refreshDuration := by
  unfold flaw? at h
  simp only [ite_some_eq_none_iff] at h
  obtain ⟨-, -, -, hkey, haccess, hrefresh, -, -⟩ := h
  exact ⟨Nat.le_of_not_lt hkey, Int.not_le.mp haccess, Int.not_lt.mp hrefresh⟩

/-- The bank of settings whose key is long enough. -/
def Bank.ofSettings (c : Settings) (h : leastKeyLength ≤ (utf8 c.symmetricKey).length) : Bank :=
  ⟨.memory, ⟨⟨c.format, utf8 c.symmetricKey, h⟩, c.accessDuration⟩, c.administrator, c.transfer,
    c.refreshDuration⟩

/-- A key that is long enough is all that making a bank asks for. -/
theorem Bank.new_of_long (c : Settings) (h : leastKeyLength ≤ (utf8 c.symmetricKey).length) :
    Bank.new .memory c = .ok (ofSettings c h) := by
  unfold Bank.new TokenIssuer.new
  rw [dif_pos h]
  rfl

/-! ## Logging in -/

namespace Bank

variable {bank : Bank} {p : Premises} {access refresh : Draw} {username : String}
variable {client : Client} {first second : Claims}

/-- While the bank is running, a login is an access token and then a refresh token, one after the
other in the stores. -/
theorem login_run (access refresh : Draw) (username : String) (client : Client)
    (hphase : p.phase = .running) :
    bank.login access refresh username client p = inStores (do
      let (token, claims) ←
        bank.credentials.issueAccess access username bank.credentials.accessDuration
      let issued ←
        bank.credentials.issueRefresh bank.backend refresh username bank.refreshDuration client
      return ⟨issued.session, claims.username, token, claims.expiresAt, issued.refreshToken,
        issued.expiresAt⟩) p :=
  whileRunning_of_running _ hphase

/-- What is handed out for the claims of two tokens. -/
def granted (bank : Bank) (access refresh : Draw) (first second : Claims) : LoginGrant :=
  ⟨⟨second.id⟩, first.username, bank.credentials.issuer.write access.nonce first, first.expiresAt,
    bank.credentials.issuer.write refresh.nonce second, second.expiresAt⟩

/-- A login for which both times are representable and the drawn session is free: it is granted, and
files that one session. -/
theorem login_of_ok (client : Client) (hphase : p.phase = .running)
    (hfirst : Claims.new access p.stores.clock username bank.credentials.accessDuration
      = .ok first)
    (hsecond : Claims.new refresh p.stores.clock username bank.refreshDuration = .ok second)
    (hfree : p.stores.sessions.find? ⟨second.id⟩ = none) :
    bank.inMemory.login access refresh username client p
      = (.ok (bank.granted access refresh first second),
        { p with stores.sessions :=
          p.stores.sessions.enter (bank.credentials.filed refresh second client) }) := by
  have haccess := CredentialDesk.issueAccess_of_ok bank.credentials hfirst
  have hrefresh := CredentialDesk.issueRefresh_of_ok bank.credentials client hsecond hfree
  rw [login_run access refresh username client hphase]
  unfold inStores
  simp only [inMemory]
  rw [Operation.bind_of_ok haccess]
  simp only
  rw [Operation.bind_of_ok hrefresh]
  rfl

/-- Without a date for the expiry of the refresh token nothing is handed out, and nothing is
filed. -/
theorem login_of_endless (bank : Bank) (access refresh : Draw) (client : Client)
    (hphase : p.phase = .running)
    (hname : username ≠ "") (hend : p.stores.clock.add? bank.refreshDuration = none) :
    bank.inMemory.login access refresh username client p
      = (.error (.unauthorized .invalidClaims), p) := by
  have hrefused : ∀ (draw : Draw) {duration : Span}, p.stores.clock.add? duration = none →
      Claims.new draw p.stores.clock username duration
        = .error (.invalidClaims .durationOutOfRange) := by
    intro draw duration hnone
    unfold Claims.new
    rw [if_neg hname, hnone]
  rw [login_run access refresh username client hphase]
  unfold inStores
  simp only [inMemory]
  rcases hexpiry : p.stores.clock.add? bank.credentials.accessDuration with _ | expiry
  · have haccess := CredentialDesk.issueAccess_of_error bank.credentials (hrefused access hexpiry)
    rw [Operation.bind_of_error haccess]
    rfl
  · -- the access token is made, and then dropped
    have hfirst : Claims.new access p.stores.clock username bank.credentials.accessDuration
        = .ok ⟨.ofRandom access.identifier, username, p.stores.clock, expiry⟩ :=
      Claims.new_eq_ok_iff.mpr ⟨hname, hexpiry, rfl⟩
    have haccess := CredentialDesk.issueAccess_of_ok bank.credentials hfirst
    have hrefresh := CredentialDesk.issueRefresh_of_error bank.credentials client
      (hrefused refresh hend)
    rw [Operation.bind_of_ok haccess]
    simp only
    rw [Operation.bind_of_error hrefresh]
    rfl

/-! ## Users who have logged in -/

/-- What a user can do with a grant, at the time that the premises show. -/
structure Admitted (bank : Bank) (p : Premises) (username : String) (client : Client)
    (g : LoginGrant) : Prop where
  user : g.username = username
  /-- The access token is good in a header. -/
  authorized : ∃ claims, bank.authorize (some ("Bearer " ++ g.accessToken)) p = (.ok claims, p)
    ∧ claims.username = username
  /-- The refresh token buys a token that is good as well. -/
  renewed : ∀ draw, ∃ token claims, bank.renew draw g.refreshToken p = (.ok (token, claims), p)
    ∧ claims.username = username
    ∧ ∃ read, bank.verify token p = (.ok read, p) ∧ read.username = username
  /-- There is one session, that of the refresh token. -/
  session : ∃ r, p.stores.sessions.rows = [r] ∧ r.id = g.session ∧ r.username = username
    ∧ r.client = client ∧ r.expiresAt = g.refreshExpiry

/-- The premises of a new bank. -/
def opening (now : Instant) : Premises := { stores := { clock := now } }

/-- A token that names a user is good until it expires. -/
theorem verify_of_live (bank : Bank) (nonce : Vector UInt8 12) (hname : first.username ≠ "")
    (hlive : p.stores.clock ≤ first.expiresAt) :
    bank.verify (bank.credentials.issuer.write nonce first) p = (.ok first.shown, p) := by
  have hverify := bank.credentials.issuer.verify_of_live nonce hname hlive
  unfold verify inStores
  rw [CredentialDesk.verify_of_ok hverify]

/-- An access token that has not expired authorises as a bearer credential, for the user and with
the times in it. -/
theorem authorize_of_live (bank : Bank) (nonce : Vector UInt8 12) (hname : first.username ≠ "")
    (hlive : p.stores.clock ≤ first.expiresAt) :
    bank.authorize (some ("Bearer " ++ bank.credentials.issuer.write nonce first)) p
      = (.ok first.shown, p) := by
  have hverify := bank.credentials.issuer.verify_of_live nonce hname hlive
  have hword := bank.credentials.issuer.isWord_write nonce first
  unfold authorize inStores
  rw [bank.credentials.authorize_of_presents (CredentialDesk.presents_bearer hword),
    CredentialDesk.verify_of_ok hverify]

/-- A refresh token whose session is on file, blocked by nobody and still to expire, is renewed into
an access token for the same user. -/
theorem renew_of_filed (bank : Bank) {drawn : Draw} {expiry : Instant}
    (hphase : p.phase = .running) (hname : second.username ≠ "")
    (hlive : p.stores.clock ≤ second.expiresAt)
    (hfound : p.stores.sessions.find? ⟨second.id⟩
      = some (bank.credentials.filed drawn second client))
    (hexpiry : p.stores.clock.add? bank.credentials.accessDuration = some expiry) (draw : Draw) :
    bank.inMemory.renew draw (bank.credentials.issuer.write drawn.nonce second) p
      = (.ok (bank.credentials.issuer.write draw.nonce
            ⟨.ofRandom draw.identifier, second.username, p.stores.clock, expiry⟩,
          ⟨.ofRandom draw.identifier, second.username, p.stores.clock, expiry⟩), p) := by
  have hrenew := CredentialDesk.renew_of_filed hname hlive hfound hexpiry draw
  refine (whileRunning_of_running _ hphase).trans ?_
  unfold inStores
  simp only [inMemory, hrenew]

/-- The claims of a user for a time that has a date. -/
theorem new_of_add? {now expiry : Instant} {duration : Span} (draw : Draw) (hname : username ≠ "")
    (hexpiry : now.add? duration = some expiry) :
    Claims.new draw now username duration
      = .ok ⟨.ofRandom draw.identifier, username, now, expiry⟩ :=
  Claims.new_eq_ok_iff.mpr ⟨hname, hexpiry, rfl⟩

/-- Where the two tokens expire at some date, and not before they are issued, a user who logs in
at a new bank is admitted. -/
theorem admitted_of_add? (bank : Bank) (access refresh : Draw) (client : Client)
    {now early late : Instant}
    (hname : username ≠ "") (haccess : now.add? bank.credentials.accessDuration = some early)
    (hrefresh : now.add? bank.refreshDuration = some late) (hearly : now ≤ early)
    (hlate : now ≤ late) :
    ∃ g p, bank.inMemory.login access refresh username client (opening now) = (.ok g, p)
      ∧ p.stores.clock = now ∧ g.refreshExpiry = late
      ∧ bank.inMemory.Admitted p username client g := by
  let second : Claims := ⟨.ofRandom refresh.identifier, username, now, late⟩
  let p : Premises := { opening now with
    stores.sessions := SessionTable.enter {} (bank.credentials.filed refresh second client) }
  have hlogin : bank.inMemory.login access refresh username client (opening now) = (.ok _, p) :=
    login_of_ok (p := opening now) client rfl (new_of_add? access hname haccess)
      (new_of_add? refresh hname hrefresh) rfl
  refine ⟨_, _, hlogin, rfl, rfl, rfl, ?_, fun draw => ?_, _, rfl, rfl, rfl, rfl, rfl⟩
  · exact ⟨_, bank.inMemory.authorize_of_live access.nonce hname hearly, rfl⟩
  · have hfound : p.stores.sessions.find? ⟨second.id⟩
        = some (bank.credentials.filed refresh second client) :=
      SessionTable.find?_enter_self (r := bank.credentials.filed refresh second client) rfl
    -- the new token is made at the same instant, so it expires when the first one does
    have hnamed : second.username ≠ "" := hname
    have hlive : p.stores.clock ≤ second.expiresAt := hlate
    have hrenew := bank.renew_of_filed rfl hnamed hlive hfound haccess draw
    exact ⟨_, _, hrenew, rfl, _, bank.inMemory.verify_of_live draw.nonce hname hearly, rfl⟩

/-- Settings in which nothing is wrong make a bank at which every user can log in, unless the
refresh token would have no date to expire at. Then nobody can. -/
theorem admits_of_flaw? {c : Settings} (hgood : c.flaw? = none) (now : Instant)
    {username : String} (hname : username ≠ "") (client : Client) (access refresh : Draw) :
    ∃ bank, Bank.new .memory c = .ok bank
      ∧ (∀ expiry, now.add? c.refreshDuration = some expiry →
        ∃ g p, bank.login access refresh username client (opening now) = (.ok g, p)
          ∧ p.stores.clock = now ∧ g.refreshExpiry = expiry ∧ bank.Admitted p username client g)
      ∧ (now.add? c.refreshDuration = none →
        bank.login access refresh username client (opening now)
          = (.error (.unauthorized .invalidClaims), opening now)) := by
  obtain ⟨hkey, hpositive, hshorter⟩ := Settings.good_of_flaw? hgood
  have haccess : Span.zero ≤ c.accessDuration := Int.le_of_lt hpositive
  have hrefresh : Span.zero ≤ c.refreshDuration := Int.le_trans haccess hshorter
  refine ⟨ofSettings c hkey, new_of_long c hkey, fun late hlate => ?_, fun hend => ?_⟩
  · -- an access token lives no longer, so its expiry has a date as well
    obtain ⟨early, hearly⟩ := Instant.exists_add?_of_le haccess hshorter hlate
    exact (ofSettings c hkey).admitted_of_add? access refresh client hname hearly hlate
      (Instant.le_of_add? haccess hearly) (Instant.le_of_add? hrefresh hlate)
  · exact (ofSettings c hkey).login_of_endless access refresh client rfl hname hend

/-- The settings come with spans that have dates; only a key is to be added. Ann logs in on 29
February 2024, and her session expires the day after. -/
theorem admits_by_default :
    let c : Settings := { symmetricKey := "0123456789abcdef0123456789abcdef" }
    let now : Instant := .midnight ⟨19782, by decide, by decide⟩
    let tomorrow : Instant := .midnight ⟨19783, by decide, by decide⟩
    let first : Draw := ⟨7, Vector.replicate 12 0⟩
    let second : Draw := ⟨8, Vector.replicate 12 1⟩
    c.flaw? = none ∧ now.add? c.refreshDuration = some tomorrow ∧
      ∃ bank g p, Bank.new .memory c = .ok bank
        ∧ bank.login first second "ann" {} (opening now) = (.ok g, p)
        ∧ g.refreshExpiry = tomorrow ∧ bank.Admitted p "ann" {} g := by
  intro c now tomorrow first second
  have hgood : c.flaw? = none := by decide
  have hexpiry : now.add? c.refreshDuration = some tomorrow := by decide
  have hname : "ann" ≠ "" := by decide
  obtain ⟨bank, hbank, hadmits, -⟩ := admits_of_flaw? hgood now hname {} first second
  obtain ⟨g, p, hlogin, -, hlate, hadmitted⟩ := hadmits tomorrow hexpiry
  exact ⟨hgood, hexpiry, bank, g, p, hbank, hlogin, hlate, hadmitted⟩

/-- Nothing is found wrong with tokens that live for 285000 years, but on 29 February 2024 Ann
cannot log in where they are issued. -/
theorem refuses_endless :
    let c : Settings := {
      symmetricKey := "0123456789abcdef0123456789abcdef"
      accessDuration := .ofMillis 9000000000000000
      refreshDuration := .ofMillis 9000000000000000 }
    let now : Instant := .midnight ⟨19782, by decide, by decide⟩
    let first : Draw := ⟨7, Vector.replicate 12 0⟩
    let second : Draw := ⟨8, Vector.replicate 12 1⟩
    c.flaw? = none ∧ ∃ bank, Bank.new .memory c = .ok bank
      ∧ bank.login first second "ann" {} (opening now)
        = (.error (.unauthorized .invalidClaims), opening now) := by
  intro c now first second
  have hgood : c.flaw? = none := by decide
  have hkey : leastKeyLength ≤ (utf8 c.symmetricKey).length := (Settings.good_of_flaw? hgood).1
  have hend : now.add? c.refreshDuration = none := by decide
  have hname : "ann" ≠ "" := by decide
  exact ⟨hgood, ofSettings c hkey, new_of_long c hkey,
    (ofSettings c hkey).login_of_endless first second {} rfl hname hend⟩

end Bank

end CountingHouse
