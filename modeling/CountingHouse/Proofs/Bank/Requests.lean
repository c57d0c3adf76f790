/-
Requests that are served at once.

Everything that a bank does for its callers, except moving money, is one uninterrupted
operation. `Deals` is all that such an operation can do to the stores: it changes the sessions
and nothing else, or it opens one account, or it changes one rate. Which of the three it is, and
whether anything is done at all, is up to the request, the premises and the checks on the way.

The operations on credentials are chains of many calls, and none of their calls reaches the
ledger or the rates; that is proved call by call (`Operation.Touches`). The others are a few
checks in front of a single call.
-/
import CountingHouse.Bank.Basic
import CountingHouse.Proofs.Desk.Operations
import CountingHouse.Proofs.Transfer.Floor

set_option autoImplicit false

namespace CountingHouse

/-! ## What a request can do -/

/-- What is done to the stores by one request, the clock standing still. -/
inductive Stores.Deals (s s' : Stores) : Prop
  | attends (sessions : SessionTable) (h : s' = { s with sessions })
  | opens (owner : String) (currency : Currency)
      (h : s' = { s with ledger := ((Opening.empty owner currency).apply s.clock s.ledger).2 })
  | reprices (request : RateChange)
      (h : s' = { s with rates := (request.apply s.clock s.rates).2 })

/-- Whether only the sessions may have changed. -/
def Stores.Attended (s s' : Stores) : Prop := ∃ sessions, s' = { s with sessions }

/-- Nothing done is a case of the first kind, with the sessions as they were. -/
theorem Stores.Deals.of_same (s : Stores) : s.Deals s := .attends s.sessions rfl

/-- One change of the sessions after another is a change of the sessions. -/
theorem Stores.Attended.trans {s t u : Stores} (h : s.Attended t) (h' : t.Attended u) :
    s.Attended u := by
  obtain ⟨_, rfl⟩ := h
  obtain ⟨sessions, rfl⟩ := h'
  exact ⟨sessions, rfl⟩

/-! ## Credentials -/

namespace Operation

variable {α β : Type}

/-- Whether an operation leaves everything but the sessions alone. -/
def Attends (x : Operation α) : Prop := x.Touches Stores.Attended

/-- A chain of calls leaves everything but the sessions alone if each of them does, whatever it
passes on. -/
theorem Attends.bind {x : Operation α} {f : α → Operation β} (hx : x.Attends)
    (hf : ∀ a, (f a).Attends) : (x >>= f).Attends :=
  Touches.bind (fun _ _ _ h h' => h.trans h') hx hf

/-- An operation that only reads leaves the sessions alone as well. -/
theorem Reads.attends {x : Operation α} (hx : x.Reads) : x.Attends := fun s => ⟨s.sessions, hx s⟩

theorem attends_of (answer : Except BankError α) : (of answer).Attends :=
  (reads_of answer).attends

theorem attends_pure (a : α) : (pure a : Operation α).Attends := fun s => ⟨s.sessions, rfl⟩

theorem attends_throw (e : BankError) : (throw e : Operation α).Attends :=
  (reads_throw e).attends

theorem attends_now : now.Attends := reads_now.attends

theorem attends_session? (id : SessionId) : (Backend.memory.session? id).Attends :=
  (reads_session? id).attends

/-- Filing a session is one of the two calls that write sessions. -/
theorem attends_createSession (id : SessionId) (username token : String) (client : Client)
    (expiresAt : Instant) :
    (Backend.memory.createSession id username token client expiresAt).Attends :=
  fun s => ⟨(s.sessions.create id username token client expiresAt s.clock).2, rfl⟩

/-- Blocking one is the other. -/
theorem attends_blockSession (id : SessionId) : (Backend.memory.blockSession id).Attends :=
  fun s => ⟨(s.sessions.block id).2, rfl⟩

end Operation

namespace CredentialDesk

open Operation

variable (d : CredentialDesk)

/-- An access token is made from the clock and a draw. It is filed nowhere. -/
theorem attends_issueAccess (draw : Draw) (username : String) (duration : Span) :
    (d.issueAccess draw username duration).Attends :=
  (d.reads_issueAccess draw username duration).attends

/-- A refresh token is filed as a session. -/
theorem attends_issueRefresh (draw : Draw) (username : String) (duration : Span)
    (client : Client) : (d.issueRefresh .memory draw username duration client).Attends := by
  refine attends_now.bind fun now => (attends_of _).bind ?_
  -- the session is stored behind the token, so there is none if no token can be made
  rintro ⟨token, claims⟩
  exact (attends_createSession _ _ _ _ _).bind fun session => attends_pure _

/-- Verifying a token asks the clock only. -/
theorem attends_verify (token : String) : (d.verify token).Attends :=
  (d.reads_verify token).attends

/-- A header is taken apart and its token verified. -/
theorem attends_authorize (header : Option String) : (d.authorize header).Attends :=
  (d.reads_authorize header).attends

/-- A renewal looks the session up and issues an access token. -/
theorem attends_renew (draw : Draw) (token : String) : (d.renew .memory draw token).Attends :=
  (d.reads_renew draw token).attends

/-- A revocation looks the session up and blocks it. -/
theorem attends_revoke (username : String) (id : SessionId) :
    (revoke .memory username id).Attends := by
  refine (attends_session? id).bind fun found => ?_
  split
  · exact attends_throw _
  · split
    · exact attends_throw _
    · refine attends_now.bind fun now => ?_
      -- only an active session is blocked
      split
      · exact attends_pure _
      · exact attends_pure _
      · refine (attends_blockSession id).bind fun blocked => ?_
        split
        · exact attends_pure _
        · exact attends_throw _

end CredentialDesk

/-! ## Reading -/

namespace AccountDesk

open Operation

/-- An account is shown to its owner; finding out that it is somebody else's takes no more than
reading. -/
theorem reads_account (owner : String) (id : AccountId) : (account .memory owner id).Reads := by
  have hread : (Backend.memory.account? id).Reads := fun _ => rfl
  refine hread.bind fun found => ?_
  split
  · exact reads_throw _
  · split
    · exact reads_of (.ok _)
    · exact reads_throw _

/-- A page of accounts. The page is checked before the ledger is asked. -/
theorem reads_accounts (owner : String) (pageNumber pageSize : Int) :
    (do accounts .memory owner (← Operation.of (Page.new pageNumber pageSize)) :
      Operation (List Account)).Reads :=
  (reads_of _).bind fun _ _ => rfl

/-- A statement checks whose account it is, and then reads its lines. -/
theorem reads_statement (owner : String) (request : StatementRequest) :
    (statement .memory owner request).Reads := by
  refine (reads_of request.selection).bind fun filter => ?_
  have hread : (Backend.memory.transfersOf filter).Reads := fun _ => rfl
  have hchecked : (discard (account .memory owner request.account)).Reads :=
    (reads_account owner request.account).bind fun _ => reads_of (.ok _)
  exact hchecked.bind fun _ => hread.bind fun _ => reads_of (.ok _)

end AccountDesk

namespace RateDesk

open Operation

/-- A rate is looked up behind two checks of currencies. -/
theorem reads_rate (base target : String) : (rate .memory base target).Reads := by
  refine (reads_of (CurrencyPair.parse base target)).bind fun pair => ?_
  have hread : (Backend.memory.rate? pair).Reads := fun _ => rfl
  refine hread.bind fun found => ?_
  split
  · exact reads_of (.ok _)
  · exact reads_throw _

/-- All rates, as they stand. -/
theorem reads_list : (list .memory).Reads := fun _ => rfl

end RateDesk

/-! ## Writing -/

section Writing

open Operation

variable {s : Stores}

/-- Behind a check of its own, an operation does what it does. -/
theorem deals_of_check {α β : Type} (answer : Except BankError α) {f : α → Operation β}
    (hf : ∀ a, answer = .ok a → s.Deals (f a s).2) : s.Deals ((of answer >>= f) s).2 := by
  rcases hanswer : answer with e | a
  · rw [of_error_bind]
    exact .of_same s
  · rw [of_ok_bind]
    exact hf a hanswer

/-- A request for an account opens one, or is refused for its currency and leaves the stores
alone. -/
theorem deals_openAccount (owner currency : String) :
    s.Deals (AccountDesk.openAccount .memory owner currency s).2 :=
  deals_of_check (Currency.parse currency) fun c _ => .opens owner c rfl

/-- The question who is the administrator takes no call. This form lets what follows be told apart
by it. -/
theorem requireAdministrator_eq (administrator caller : String) :
    RateDesk.requireAdministrator administrator caller
      = of (if caller = administrator then .ok ()
        else .error (.unauthorized .notAdministrator)) := by
  unfold RateDesk.requireAdministrator
  by_cases h : caller = administrator
  · rw [if_pos h, if_pos h]
    rfl
  · rw [if_neg h, if_neg h]
    rfl

/-- Creating a rate: three checks, each of which may refuse, and one change of the table behind
them. -/
theorem deals_createRate (administrator caller base target : String) (rate : Decimal) :
    s.Deals (RateDesk.create .memory administrator caller base target rate s).2 := by
  unfold RateDesk.create
  rw [requireAdministrator_eq]
  exact deals_of_check _ fun _ _ => deals_of_check _ fun pair _ =>
    deals_of_check _ fun positive _ => .reprices (.create pair positive) rfl

/-- Updating a rate, with two checks in front. -/
theorem deals_updateRate (administrator caller : String) (id : RateId) (rate : Decimal) :
    s.Deals (RateDesk.update .memory administrator caller id rate s).2 := by
  unfold RateDesk.update
  rw [requireAdministrator_eq]
  exact deals_of_check _ fun _ _ => deals_of_check _ fun positive _ =>
    .reprices (.update id positive) rfl

end Writing

/-! ## Requests -/

/-- A request that is served at once, with what is drawn for it. -/
inductive Request where
  | login (access refresh : Draw) (username : String) (client : Client)
  | issueAccess (draw : Draw) (username : String) (duration : Span)
  | issueRefresh (draw : Draw) (username : String) (duration : Span) (client : Client)
  | verify (token : String)
  | authorize (header : Option String)
  | renew (draw : Draw) (token : String)
  | revoke (caller : String) (session : SessionId)
  | openAccount (caller currency : String)
  | account (caller : String) (id : AccountId)
  | accounts (caller : String) (pageNumber pageSize : Int)
  | statement (caller : String) (request : StatementRequest)
  | createRate (caller base target : String) (rate : Decimal)
  | updateRate (caller : String) (id : RateId) (rate : Decimal)
  | rate (base target : String)
  | rates
  | stop

/-- The premises of a bank after a request, whatever the answer was. -/
def Bank.serve (bank : Bank) (p : Premises) : Request → Premises
  | .login access refresh username client => (bank.login access refresh username client p).2
  | .issueAccess draw username duration => (bank.issueAccess draw username duration p).2
  | .issueRefresh draw username duration client =>
    (bank.issueRefresh draw username duration client p).2
  | .verify token => (bank.verify token p).2
  | .authorize header => (bank.authorize header p).2
  | .renew draw token => (bank.renew draw token p).2
  | .revoke caller session => (bank.revoke caller session p).2
  | .openAccount caller currency => (bank.openAccount caller currency p).2
  | .account caller id => (bank.account caller id p).2
  | .accounts caller pageNumber pageSize => (bank.accounts caller pageNumber pageSize p).2
  | .statement caller request => (bank.statement caller request p).2
  | .createRate caller base target rate => (bank.createRate caller base target rate p).2
  | .updateRate caller id rate => (bank.updateRate caller id rate p).2
  | .rate base target => (bank.rate base target p).2
  | .rates => (bank.rates p).2
  | .stop => Bank.stop p

/-- The bank with its stores in memory. -/
def Bank.inMemory (bank : Bank) : Bank := { bank with backend := .memory }

namespace Bank

variable {α : Type} {x : Operation α} {p : Premises}

/-- A bank that is running does what it is asked. -/
theorem whileRunning_of_running (x : Operation α) (hp : p.phase = .running) :
    whileRunning x p = inStores x p := by
  have haccepts : p.phase.accepts = true := by
    rw [hp]
    rfl
  exact if_pos haccepts

/-- A bank that is shutting down refuses without looking at the request. -/
theorem whileRunning_of_stopped (x : Operation α) (hp : p.phase = .shuttingDown) :
    whileRunning x p = (.error (.contention .shuttingDown), p) := by
  unfold whileRunning
  rw [hp]
  rfl

/-- What an operation deals in the stores, it deals in the premises. -/
theorem deals_inStores (hx : p.stores.Deals (x p.stores).2) :
    p.stores.Deals (inStores x p).2.stores := hx

/-- That is so with the check of the phase in front as well, since refusing changes nothing. -/
theorem deals_whileRunning (hx : p.stores.Deals (x p.stores).2) :
    p.stores.Deals (whileRunning x p).2.stores := by
  unfold whileRunning
  by_cases hrunning : p.phase.accepts = true
  · rw [if_pos hrunning]
    exact hx
  · rw [if_neg hrunning]
    exact .of_same _

/-- An operation on credentials is a case of the first kind. -/
theorem deals_of_attends (hx : x.Attends) (s : Stores) : s.Deals (x s).2 := by
  obtain ⟨sessions, h⟩ := hx s
  exact .attends sessions h

/-- A request deals with one thing at most. -/
theorem deals_serve (bank : Bank) (p : Premises) (request : Request) :
    p.stores.Deals (bank.inMemory.serve p request).stores := by
  cases request with
  | login access refresh username client =>
    refine deals_whileRunning (deals_of_attends ?_ _)
    -- two tokens, of which the second one has a session
    refine (CredentialDesk.attends_issueAccess _ access username _).bind ?_
    rintro ⟨token, claims⟩
    exact (CredentialDesk.attends_issueRefresh _ refresh username _ client).bind fun _ =>
      Operation.attends_pure _
  | issueAccess draw username duration =>
    exact deals_inStores (deals_of_attends (CredentialDesk.attends_issueAccess _ draw _ _) _)
  | issueRefresh draw username duration client =>
    exact deals_whileRunning (deals_of_attends (CredentialDesk.attends_issueRefresh _ draw _ _ _) _)
  | verify token => exact deals_inStores (deals_of_attends (CredentialDesk.attends_verify _ _) _)
  | authorize header =>
    exact deals_inStores (deals_of_attends (CredentialDesk.attends_authorize _ _) _)
  | renew draw token =>
    exact deals_whileRunning (deals_of_attends (CredentialDesk.attends_renew _ _ _) _)
  | revoke caller session =>
    exact deals_inStores (deals_of_attends (CredentialDesk.attends_revoke _ _) _)
  | openAccount caller currency => exact deals_whileRunning (deals_openAccount caller currency)
  | account caller id =>
    exact deals_inStores (deals_of_attends (AccountDesk.reads_account _ _).attends _)
  | accounts caller pageNumber pageSize =>
    exact deals_inStores (deals_of_attends (AccountDesk.reads_accounts _ _ _).attends _)
  | statement caller request =>
    exact deals_inStores (deals_of_attends (AccountDesk.reads_statement _ _).attends _)
  | createRate caller base target rate =>
    exact deals_whileRunning (deals_createRate _ caller base target rate)
  | updateRate caller id rate => exact deals_whileRunning (deals_updateRate _ caller id rate)
  | rate base target =>
    have hrate : bank.inMemory.serve p (.rate base target)
        = (inStores (RateDesk.rate .memory base target) p).2 := rfl
    rw [hrate]
    exact deals_inStores (deals_of_attends (RateDesk.reads_rate base target).attends _)
  | rates => exact deals_inStores (deals_of_attends RateDesk.reads_list.attends _)
  | stop => exact .of_same _

end Bank

end CountingHouse
