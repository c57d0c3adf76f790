/-
A bank that was told to stop.

Nothing that callers do can change the ledger or the rates of such a bank any more. Every request
that could have written there or filed a session is refused with an error that may be retried,
and so is every errand. One request is let through that writes: revoking a session
(`sessions_ne_of_active`). So the sessions stay as they are but for those that their users end, and
that is the only thing that is not frozen (`Frozen`).

An errand that had been let in before the bank was stopped goes on and may still move money.
Therefore the bank is stopped here when no errand is under way (`Idle`): each of them is finished
or has not begun. That stays so, because from then on an errand is finished by its first piece.
-/
import CountingHouse.Proofs.Bank.Hall
import CountingHouse.Proofs.Session.Visits

set_option autoImplicit false

namespace CountingHouse

/-! ## Refusals -/

/-- The error in place of an answer. -/
def errorOf? {α : Type} : Except BankError α → Option BankError
  | .error e => some e
  | .ok _ => none

/-- The error with which a bank answers a request, unless it serves it. -/
def Bank.failure? (bank : Bank) (p : Premises) : Request → Option BankError
  | .login access refresh username client =>
    errorOf? (bank.login access refresh username client p).1
  | .issueAccess draw username duration => errorOf? (bank.issueAccess draw username duration p).1
  | .issueRefresh draw username duration client =>
    errorOf? (bank.issueRefresh draw username duration client p).1
  | .verify token => errorOf? (bank.verify token p).1
  | .authorize header => errorOf? (bank.authorize header p).1
  | .renew draw token => errorOf? (bank.renew draw token p).1
  | .revoke caller session => errorOf? (bank.revoke caller session p).1
  | .openAccount caller currency => errorOf? (bank.openAccount caller currency p).1
  | .account caller id => errorOf? (bank.account caller id p).1
  | .accounts caller pageNumber pageSize => errorOf? (bank.accounts caller pageNumber pageSize p).1
  | .statement caller request => errorOf? (bank.statement caller request p).1
  | .createRate caller base target rate => errorOf? (bank.createRate caller base target rate p).1
  | .updateRate caller id rate => errorOf? (bank.updateRate caller id rate p).1
  | .rate base target => errorOf? (bank.rate base target p).1
  | .rates => errorOf? (bank.rates p).1
  | .stop => none

def Request.IsRevocation : Request → Prop
  | .revoke _ _ => True
  | _ => False

namespace Bank

variable {bank : Bank} {p : Premises} {request : Request} {w : Instruction}

/-- An operation that only reads leaves the premises as they are, sessions and phase included. -/
theorem inStores_of_reads {α : Type} {x : Operation α} (hx : x.Reads) (p : Premises) :
    (inStores x p).2 = p := congrArg (fun stores => { p with stores }) (hx p.stores)

/-- A request is of one of two kinds, if it is not for a revocation: a bank that was stopped
refuses it, or it never changes the stores. -/
theorem refused_or_reads (bank : Bank) (hrequest : ¬ request.IsRevocation) :
    (∀ p, p.phase = .shuttingDown →
      bank.inMemory.failure? p request = some (.contention .shuttingDown)
        ∧ bank.inMemory.serve p request = p) ∨
    (∀ p, (bank.inMemory.serve p request).stores = p.stores
      ∧ (p.phase = .shuttingDown → bank.inMemory.serve p request = p)) := by
  -- whatever asks first whether the server runs is refused, and what only reads has nothing to
  -- refuse
  have hrefuses : ∀ {α : Type} (f : BankOperation α), (∃ x, f = whileRunning x) →
      ∀ p, p.phase = .shuttingDown →
        errorOf? (f p).1 = some (.contention .shuttingDown) ∧ (f p).2 = p := by
    rintro α f ⟨x, rfl⟩ p hp
    rw [whileRunning_of_stopped x hp]
    exact ⟨rfl, rfl⟩
  have hreads : ∀ {α : Type} {x : Operation α}, x.Reads → ∀ p,
      (inStores x p).2.stores = p.stores ∧ (p.phase = .shuttingDown → (inStores x p).2 = p) :=
    fun hx p => ⟨hx p.stores, fun _ => inStores_of_reads hx p⟩
  cases request with
  | login access refresh username client =>
    exact .inl (hrefuses (bank.inMemory.login access refresh username client) ⟨_, rfl⟩)
  | issueAccess draw username duration =>
    exact .inr (hreads (CredentialDesk.reads_issueAccess _ draw username duration))
  | issueRefresh draw username duration client =>
    exact .inl (hrefuses (bank.inMemory.issueRefresh draw username duration client) ⟨_, rfl⟩)
  | verify token => exact .inr (hreads (CredentialDesk.reads_verify _ token))
  | authorize header => exact .inr (hreads (CredentialDesk.reads_authorize _ header))
  | renew draw token => exact .inl (hrefuses (bank.inMemory.renew draw token) ⟨_, rfl⟩)
  | revoke caller session => exact absurd trivial hrequest
  | openAccount caller currency =>
    exact .inl (hrefuses (bank.inMemory.openAccount caller currency) ⟨_, rfl⟩)
  | account caller id => exact .inr (hreads (AccountDesk.reads_account caller id))
  | accounts caller pageNumber pageSize =>
    exact .inr (hreads (AccountDesk.reads_accounts caller pageNumber pageSize))
  | statement caller request => exact .inr (hreads (AccountDesk.reads_statement caller request))
  | createRate caller base target rate =>
    exact .inl (hrefuses (bank.inMemory.createRate caller base target rate) ⟨_, rfl⟩)
  | updateRate caller id rate =>
    exact .inl (hrefuses (bank.inMemory.updateRate caller id rate) ⟨_, rfl⟩)
  | rate base target => exact .inr (hreads (RateDesk.reads_rate base target))
  | rates => exact .inr (hreads RateDesk.reads_list)
  | stop =>
    -- stopping once more changes nothing
    refine .inr fun p => ⟨rfl, fun hp => ?_⟩
    change { p with phase := .shuttingDown } = p
    rw [← hp]

/-- A bank that was stopped does nothing on a request, if it is not for a revocation. -/
theorem serve_of_stopped (bank : Bank) (hrequest : ¬ request.IsRevocation)
    (hp : p.phase = .shuttingDown) : bank.inMemory.serve p request = p := by
  rcases bank.refused_or_reads hrequest with hrefused | hreads
  · exact (hrefused p hp).2
  · exact (hreads p).2 hp

/-- The first piece of an errand finishes it. -/
theorem go_carriesOut_of_stopped (bank : Bank) (w : Instruction)
    (hp : p.phase = .shuttingDown) :
    (bank.carriesOut w).go p = (.finished (.error (.contention .shuttingDown)), p) := by
  have hfirst := whileRunning_of_stopped (.of (Currency.parse w.currency)) hp
  unfold carriesOut transferMoney Procedure.go
  simp only [hfirst]

/-- An instruction that begins after the stop is refused at once, as something to try again later,
and changes nothing. -/
theorem alone_carriesOut_of_stopped (bank : Bank) (w : Instruction)
    (hp : p.phase = .shuttingDown) :
    (bank.carriesOut w).alone p = (.error (.contention .shuttingDown), p) := by
  have hfirst := whileRunning_of_stopped (.of (Currency.parse w.currency)) hp
  unfold carriesOut transferMoney Procedure.alone
  simp only [hfirst]
  rfl

end Bank

/-! ## Halls of a stopped bank -/

/-- Whether an incident is at the counter or on the clock, and not done to the ledger behind the
back of the bank. -/
def Incident.AtCounter : Incident → Prop
  | .insertAccount _ _ _ | .scheduleFault _ => False
  | _ => True

namespace Hall

def sessions (h : Hall) : SessionTable := h.premises.stores.sessions

def rates (h : Hall) : RateTable := h.premises.stores.rates

/-- Whether no errand is under way: each is finished or has not begun. -/
def Idle (bank : Bank) (h : Hall) : Prop :=
  ∀ i t, h.errands i = some t →
    t.rest = bank.carriesOut t.instruction ∨ ∃ result, t.rest = .finished result

/-- The visit that an incident is to the desk for credentials, if it is for a revocation. -/
def revocation (h : Hall) : Incident → List Visit
  | .serve (.revoke caller session) => [⟨h.premises.stores.clock, .revoke caller session⟩]
  | _ => []

/-- The revocations among incidents, each with the time at which it is asked for. -/
def revocations (bank : Bank) : Hall → List Incident → List Visit
  | _, [] => []
  | h, e :: later => h.revocation e ++ revocations bank (h.step bank e) later

variable {bank : Bank} {h : Hall} {e : Incident}

/-- What one incident leaves as it was. -/
structure Unmoved (h h' : Hall) (visits : List Visit) : Prop where
  phase : h'.premises.phase = .shuttingDown
  ledger : h'.ledger = h.ledger
  rates : h'.rates = h.rates
  sessions : ∀ id, h'.sessions.find? id = (h.sessions.find? id).map (·.after visits)
  untouched : visits = [] → h'.sessions = h.sessions

/-- With the same sessions there is no visit to account for. -/
theorem Unmoved.of_stores {h' : Hall} (hphase : h'.premises.phase = .shuttingDown)
    (hledger : h'.ledger = h.ledger) (hrates : h'.rates = h.rates)
    (hsessions : h'.sessions = h.sessions) : h.Unmoved h' [] := by
  refine ⟨hphase, hledger, hrates, fun id => ?_, fun _ => hsessions⟩
  rw [hsessions]
  rcases h.sessions.find? id with _ | r
  · rfl
  · rw [Option.map_some, Session.after_nil]

/-- In particular nothing has moved where the premises are the same. -/
theorem Unmoved.of_premises {h' : Hall} (hphase : h.premises.phase = .shuttingDown)
    (hsame : h'.premises = h.premises) : h.Unmoved h' [] := by
  refine .of_stores ?_ ?_ ?_ ?_
  · rw [hsame, hphase]
  · exact congrArg (fun p => p.stores.ledger) hsame
  · exact congrArg (fun p => p.stores.rates) hsame
  · exact congrArg (fun p => p.stores.sessions) hsame

/-- One after the other, and the visits of the second follow those of the first. -/
theorem Unmoved.trans {h' h'' : Hall} {visits more : List Visit} (hfirst : h.Unmoved h' visits)
    (hsecond : h'.Unmoved h'' more) : h.Unmoved h'' (visits ++ more) := by
  refine ⟨hsecond.phase, hsecond.ledger.trans hfirst.ledger, hsecond.rates.trans hfirst.rates,
    fun id => ?_, fun hnone => ?_⟩
  · rw [hsecond.sessions, hfirst.sessions, Option.map_map]
    refine congrArg (fun f => (h.sessions.find? id).map f) (funext fun r => ?_)
    exact (Session.after_append r visits more).symm
  · obtain ⟨hvisits, hmore⟩ := List.append_eq_nil_iff.mp hnone
    exact (hsecond.untouched hmore).trans (hfirst.untouched hvisits)

/-! ## One incident -/

/-- A hall stays idle if the errand that is put in a place has not begun or is finished. All other
places are as they were. -/
theorem Idle.setErrand (hidle : h.Idle bank) {i : Nat} {errand : Option Errand} {p : Premises}
    (herrand : ∀ t, errand = some t →
      t.rest = bank.carriesOut t.instruction ∨ ∃ result, t.rest = .finished result) :
    (({ h with premises := p } : Hall).setErrand i errand).Idle bank := by
  intro k t ht
  by_cases hk : k = i
  · exact herrand t ((if_pos hk).symm.trans ht)
  · exact hidle k t ((if_neg hk).symm.trans ht)

/-- A revocation may end a session, and does nothing else. -/
theorem unmoved_revoke (bank : Bank) (hphase : h.premises.phase = .shuttingDown) (caller : String)
    (session : SessionId) :
    h.Unmoved (h.step bank.inMemory (.serve (.revoke caller session)))
      [⟨h.premises.stores.clock, .revoke caller session⟩] := by
  have hpremises : (h.step bank.inMemory (.serve (.revoke caller session))).premises
      = { h.premises with
          stores := (CredentialDesk.revoke .memory caller session h.premises.stores).2 } := rfl
  obtain ⟨sessions, hstores⟩ := CredentialDesk.attends_revoke caller session h.premises.stores
  refine ⟨hphase, ?_, ?_, fun id => ?_, fun hnone => ?_⟩
  · unfold ledger
    rw [hpremises, hstores]
  · unfold rates
    rw [hpremises, hstores]
  · exact CredentialDesk.find?_revoke h.premises.stores caller session id
  · cases hnone

/-- A request to a stopped bank. Only a revocation is carried out, and it moves the sessions as the
visit that it is; all other requests read or are refused. -/
theorem unmoved_serve (bank : Bank) (hphase : h.premises.phase = .shuttingDown)
    (request : Request) :
    h.Unmoved (h.step bank.inMemory (.serve request)) (h.revocation (.serve request)) := by
  by_cases hrequest : request.IsRevocation
  · cases request with
    | revoke caller session => exact unmoved_revoke bank hphase caller session
    | _ => exact hrequest.elim
  · have hnone : h.revocation (.serve request) = [] := by
      cases request with
      | revoke caller session => exact absurd trivial hrequest
      | _ => rfl
    rw [hnone]
    exact .of_premises hphase (bank.serve_of_stopped hrequest hphase)

/-- The next piece of an errand that has not begun, or is finished, leaves it finished. -/
theorem idle_go (hphase : h.premises.phase = .shuttingDown) {t : Errand}
    (ht : t.rest = bank.carriesOut t.instruction ∨ ∃ result, t.rest = .finished result) :
    ∃ result, t.rest.go h.premises = (.finished result, h.premises) := by
  rcases ht with hrest | ⟨result, hrest⟩
  · rw [hrest, bank.go_carriesOut_of_stopped _ hphase]
    exact ⟨_, rfl⟩
  · rw [hrest]
    exact ⟨result, rfl⟩

/-- There is no wait in such an errand, so neither patience nor the caller can end it. -/
theorem idle_expire {p : Premises} {t : Errand}
    (ht : t.rest = bank.carriesOut t.instruction ∨ ∃ result, t.rest = .finished result) :
    t.rest.expire p = (t.rest, p) ∧ t.rest.leave p = none := by
  rcases ht with hrest | ⟨result, hrest⟩
  all_goals
    rw [hrest]
    exact ⟨rfl, rfl⟩

/-- After an incident at the counter of a stopped bank only sessions may have been ended, and
there is still no errand under way. -/
theorem unmoved_step (bank : Bank) (hphase : h.premises.phase = .shuttingDown)
    (hidle : h.Idle bank.inMemory) (hcounter : e.AtCounter) :
    h.Unmoved (h.step bank.inMemory e) (h.revocation e)
      ∧ (h.step bank.inMemory e).Idle bank.inMemory := by
  have hstays : ∀ {h' : Hall}, h'.premises = h.premises → h.Unmoved h' [] :=
    fun hsame => .of_premises hphase hsame
  cases e with
  | scheduleFault fault => exact hcounter.elim
  | insertAccount owner currency balance => exact hcounter.elim
  | setClock now => exact ⟨.of_stores hphase rfl rfl rfl, hidle⟩
  | serve request => exact ⟨unmoved_serve bank hphase request, hidle⟩
  | carryOut w =>
    have halone := bank.inMemory.alone_carriesOut_of_stopped w hphase
    exact ⟨hstays (congrArg Prod.snd halone), hidle⟩
  | begin i w =>
    simp only [step]
    split
    · refine ⟨hstays rfl, hidle.setErrand (p := h.premises) fun t ht => ?_⟩
      cases ht
      exact .inl rfl
    · exact ⟨hstays rfl, hidle⟩
  | go i =>
    simp only [step]
    split
    · exact ⟨hstays rfl, hidle⟩
    · rename_i t hfound
      -- the piece may be the first one, and then it is the last one as well
      obtain ⟨result, hgo⟩ := idle_go hphase (hidle i t hfound)
      rw [hgo]
      refine ⟨hstays rfl, hidle.setErrand fun t' ht' => ?_⟩
      cases ht'
      exact .inr ⟨result, rfl⟩
  | expire i =>
    simp only [step]
    split
    · exact ⟨hstays rfl, hidle⟩
    · rename_i t hfound
      rw [(idle_expire (hidle i t hfound)).1]
      refine ⟨hstays rfl, hidle.setErrand fun t' ht' => ?_⟩
      cases ht'
      exact hidle i t hfound
  | leave i =>
    simp only [step]
    split
    · exact ⟨hstays rfl, hidle⟩
    · rename_i t hfound
      rw [(idle_expire (hidle i t hfound)).2]
      exact ⟨hstays rfl, hidle⟩

/-! ## Runs -/

/-- The run lemma: what one incident leaves as it was, and that no errand gets under way, carried
through all incidents at the counter by induction. -/
theorem unmoved_run (bank : Bank) (later : List Incident)
    (hphase : h.premises.phase = .shuttingDown) (hidle : h.Idle bank.inMemory)
    (hcounter : ∀ e ∈ later, e.AtCounter) :
    h.Unmoved (h.run bank.inMemory later) (h.revocations bank.inMemory later)
      ∧ (h.run bank.inMemory later).Idle bank.inMemory := by
  -- on the incidents; the bank stays stopped and idle, which is what the next one needs
  induction later generalizing h with
  | nil => exact ⟨.of_premises hphase rfl, hidle⟩
  | cons e later ih =>
    obtain ⟨hfirst, hidle'⟩ := unmoved_step bank hphase hidle (hcounter e List.mem_cons_self)
    obtain ⟨hrest, hidle''⟩ :=
      ih hfirst.phase hidle' fun e' he' => hcounter e' (List.mem_cons_of_mem e he')
    exact ⟨hfirst.trans hrest, hidle''⟩

/-- The error of a bank that was told to stop. -/
def stopping : BankError := .contention .shuttingDown

/-- What holds after any run of a bank that was stopped in a hall. The run is from the hall in
which the bank has just been stopped. -/
structure Frozen (bank : Bank) (h : Hall) (later : List Incident) : Prop where
  phase : (h.run bank later).premises.phase = .shuttingDown
  ledger : (h.run bank later).ledger = h.ledger
  rates : (h.run bank later).rates = h.rates
  /-- Each session is as it was, or was ended by a revocation on the way. -/
  sessions : ∀ id, (h.run bank later).sessions.find? id
    = (h.sessions.find? id).map (·.after (h.revocations bank later))
  /-- Nothing at all was written unless a session was to be revoked. -/
  untouched : h.revocations bank later = [] → (h.run bank later).sessions = h.sessions
  /-- Any other request that may write while a bank is running is refused. -/
  refused : ∀ request : Request, ¬ request.IsRevocation →
    (∃ p, p.phase = .running ∧ (bank.serve p request).stores ≠ p.stores) →
    bank.failure? (h.run bank later).premises request = some stopping
      ∧ bank.serve (h.run bank later).premises request = (h.run bank later).premises
  /-- So is every instruction to move money, as a whole or with its first piece. -/
  instructions : ∀ w, (bank.carriesOut w).alone (h.run bank later).premises
      = (.error stopping, (h.run bank later).premises)
    ∧ (bank.carriesOut w).go (h.run bank later).premises
      = (.finished (.error stopping), (h.run bank later).premises)
  /-- A caller who is refused may come again. -/
  mayRetry : stopping.kind = .contention ∧ stopping.mayRetry = true

/-- A bank that is stopped while no errand is under way is frozen, but for the sessions that
their users revoke. -/
theorem frozen_of_stop (bank : Bank) (h : Hall) (hidle : h.Idle bank.inMemory)
    (later : List Incident) (hcounter : ∀ e ∈ later, e.AtCounter) :
    Frozen bank.inMemory (h.step bank.inMemory (.serve .stop)) later := by
  have hstopped : (h.step bank.inMemory (.serve .stop)).premises.phase = .shuttingDown := rfl
  obtain ⟨hunmoved, -⟩ := unmoved_run bank later hstopped hidle hcounter
  refine ⟨hunmoved.phase, hunmoved.ledger, hunmoved.rates, hunmoved.sessions, hunmoved.untouched,
    fun request hrequest hwrites => ?_, fun w => ⟨?_, ?_⟩, rfl, rfl⟩
  · rcases bank.refused_or_reads hrequest with hrefused | hreads
    · exact hrefused _ hunmoved.phase
    · -- a request that never writes, whatever the phase is
      obtain ⟨p, -, hp⟩ := hwrites
      exact absurd (hreads p).1 hp
  · exact bank.inMemory.alone_carriesOut_of_stopped w hunmoved.phase
  · exact bank.inMemory.go_carriesOut_of_stopped w hunmoved.phase

/-- Ann's errand has not begun when the bank is stopped, and is refused when its turn comes. Nor
does she get an account. -/
theorem frozen_before_errand :
    let desk : CredentialDesk := ⟨⟨.sealed, List.replicate 32 0, by decide⟩, .ofSeconds 60⟩
    let bank : Bank := ⟨.memory, desk, "root", {}, .ofSeconds 60⟩
    let h : Hall := (empty default).run bank.inMemory [.insertAccount "ann" .usd 10,
      .insertAccount "bob" .usd 0, .begin 0 ⟨"ann", ⟨1⟩, ⟨2⟩, 7, "usd"⟩]
    let later : List Incident := [.go 0, .serve (.openAccount "ann" "eur"), .setClock default]
    h.Idle bank.inMemory ∧ (∀ e ∈ later, e.AtCounter)
      ∧ Frozen bank.inMemory (h.step bank.inMemory (.serve .stop)) later := by
  intro desk bank h later
  have hidle : h.Idle bank.inMemory := by
    have hnone : (empty default).Idle bank.inMemory := fun _ _ hfound => by cases hfound
    refine hnone.setErrand (p := h.premises) fun t ht => ?_
    cases ht
    exact .inl rfl
  have hcounter : ∀ e ∈ later, e.AtCounter := by
    intro e he
    simp only [later, List.mem_cons, List.not_mem_nil, or_false] at he
    rcases he with rfl | rfl | rfl
    all_goals trivial
  exact ⟨hidle, hcounter, frozen_of_stop bank h hidle later hcounter⟩

/-! ## What is not frozen -/

/-- A user's session is ended at the user's request, whether or not the bank was stopped. -/
theorem sessions_ne_of_active (bank : Bank) {r : Session} {id : SessionId}
    (hfound : h.sessions.find? id = some r)
    (hactive : r.state h.premises.stores.clock = .active) :
    bank.inMemory.failure? h.premises (.revoke r.username id) = none
      ∧ (h.step bank.inMemory (.serve (.revoke r.username id))).sessions ≠ h.sessions := by
  have hrevoke := CredentialDesk.revoke_of_active hfound hactive
  have hserved : bank.inMemory.failure? h.premises (.revoke r.username id)
      = errorOf? (CredentialDesk.revoke .memory r.username id h.premises.stores).1 := rfl
  have hsessions : (h.step bank.inMemory (.serve (.revoke r.username id))).sessions
      = (h.sessions.block id).2 := congrArg (fun answer => answer.2.sessions) hrevoke
  have hblocked : (h.sessions.block id).2.find? id = some { r with isBlocked := true } :=
    SessionTable.find?_block_self hfound
  constructor
  · rw [hserved, hrevoke]
    rfl
  · rw [hsessions]
    intro hsame
    -- an active session is not blocked
    rw [hsame, hfound] at hblocked
    have hflag := congrArg Session.isBlocked (Option.some.inj hblocked)
    rw [(Session.state_eq_active_iff.mp hactive).1] at hflag
    cases hflag

/-- Ann has a session when the bank is stopped, no errand is under way, and yet her request to
end it is not refused and changes the table. -/
theorem stopped_not_frozen :
    let desk : CredentialDesk := ⟨⟨.sealed, List.replicate 32 0, by decide⟩, .ofSeconds 60⟩
    let bank : Bank := ⟨.memory, desk, "root", {}, .ofSeconds 60⟩
    let h : Hall := (empty default).run bank.inMemory
      [.serve (.issueRefresh ⟨7, Vector.replicate 12 0⟩ "ann" (.ofSeconds 60) {}), .serve .stop]
    let request : Request := .revoke "ann" ⟨.ofRandom 7⟩
    h.Idle bank.inMemory ∧ h.premises.phase = .shuttingDown
      ∧ bank.inMemory.failure? h.premises request = none
      ∧ (h.step bank.inMemory (.serve request)).sessions ≠ h.sessions := by
  intro desk bank h request
  let minute : Instant := ⟨Date.epoch, 60, 0, by decide, by decide⟩
  let claims : Claims := ⟨.ofRandom 7, "ann", default, minute⟩
  let draw : Draw := ⟨7, Vector.replicate 12 0⟩
  have hclaims : Claims.new draw (empty default).premises.stores.clock "ann" (.ofSeconds 60)
      = .ok claims := Claims.new_eq_ok_iff.mpr ⟨by decide, by decide, rfl⟩
  have hissue := CredentialDesk.issueRefresh_of_ok desk {} hclaims rfl
  have hstores : h.premises.stores = { (empty default).premises.stores with
      sessions := SessionTable.enter {} (desk.filed draw claims {}) } := congrArg Prod.snd hissue
  -- the session stands in the table and has not ended, so a revocation ends it
  have hfound : h.sessions.find? ⟨.ofRandom 7⟩ = some (desk.filed draw claims {}) := by
    unfold sessions
    rw [hstores]
    exact SessionTable.find?_enter_self (r := desk.filed draw claims {}) rfl
  have hactive : (desk.filed draw claims {}).state h.premises.stores.clock = .active := by
    rw [hstores]
    exact Session.state_eq_active_iff.mpr ⟨rfl, by decide⟩
  have hidle : h.Idle bank.inMemory := fun _ _ hnone => by cases hnone
  have hname : (desk.filed draw claims {}).username = "ann" := rfl
  have hended := sessions_ne_of_active bank hfound hactive
  rw [hname] at hended
  exact ⟨hidle, rfl, hended⟩

end Hall

end CountingHouse
