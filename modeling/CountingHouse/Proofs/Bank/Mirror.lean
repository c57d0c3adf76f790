/-
Every hall has its floor.

What happens in a hall can be followed on a floor with the same clock, the same ledger and the
same rates. The sessions are missing there, and nothing that a floor does depends on them. The
attempts of the floor are those of the errands in which one is under way: at a pause, before
the currency has been read and at the end there is none (`Placed`). The attempt of an errand
has the name after that of the errand, and the name 0 is for errands that are carried through
while everybody else stands still.

`Serves` is the step of the simulation for one errand. A piece of it is an event or two of its
attempt on the floor, and it leaves the accounts alone or settles a plan for its order; after
that the errand is finished.
-/
import CountingHouse.Proofs.Bank.Hall
import CountingHouse.Proofs.Transfer.Authority
import CountingHouse.Proofs.Transfer.Pieces

set_option autoImplicit false

namespace CountingHouse

open Attempt

/-! ## Stores without sessions -/

def Stores.withoutSessions (s : Stores) : Stores := { s with sessions := {} }

/-- A transfer does not look at the sessions. -/
theorem Attempt.advance_withoutSessions (r : TransferOrder) (stage : Stage) (s : Stores) :
    advance .memory r stage s.withoutSessions
      = ((advance .memory r stage s).1, (advance .memory r stage s).2.withoutSessions) := by
  rcases stage with call | n | ⟨n, lower⟩
  · cases call
    all_goals rfl
  · rfl
  · rfl

/-- A procedure on the stores of a bank. -/
def Bank.onStores {α : Type} (x : Procedure Stores α) : Procedure Premises α :=
  x.zoom Premises.stores fun stores p => { p with stores }

/-- A piece of a procedure on the stores, taken on the premises, is that piece; the sessions and the
phase stay behind. -/
theorem Bank.go_onStores {α : Type} (x : Procedure Stores α) (p : Premises) :
    (onStores x).go p = (onStores (x.go p.stores).1, { p with stores := (x.go p.stores).2 }) :=
  Procedure.go_zoom (fun _ => rfl) x p

/-- The same when the patience for a wait is over. -/
theorem Bank.expire_onStores {α : Type} (x : Procedure Stores α) (p : Premises) :
    (onStores x).expire p
      = (onStores (x.expire p.stores).1, { p with stores := (x.expire p.stores).2 }) :=
  Procedure.expire_zoom (fun _ => rfl) x p

/-- The same when the caller is gone. -/
theorem Bank.leave_onStores {α : Type} (x : Procedure Stores α) (p : Premises) :
    (onStores x).leave p = (x.leave p.stores).map fun stores => { p with stores } :=
  Procedure.leave_zoom x p

/-! ## What is left of an errand -/

/-- An attempt of a bank from a stage on. -/
def Bank.attempt (bank : Bank) (r : TransferOrder) (stage : Stage) :
    Procedure Stores (Except BankError TransferReceipt) :=
  procedure .memory bank.transfer.lockTimeout r stage

/-- What a bank does for an order from a stage of an attempt on, with so many retries left. -/
def Bank.tries (bank : Bank) (r : TransferOrder) (stage : Stage) (left : Nat) :
    Procedure Stores (Except BankError TransferReceipt) :=
  (bank.attempt r stage).bind (bank.transfer.again (bank.attempt r (.calling .begin)) left)

/-- What the loop does from its beginning is what is left of an errand at the first stage of an
attempt. -/
theorem Bank.retrying_eq_tries (bank : Bank) (r : TransferOrder) (left : Nat) :
    bank.transfer.retrying (bank.attempt r (.calling .begin)) left
      = bank.tries r (.calling .begin) left :=
  bank.transfer.retrying_eq _ left

/-- What may be left of an errand, and the attempt in which it is. -/
inductive Placed (bank : Bank) : Option Errand → Option Pending → Prop where
  | nobody : Placed bank none none
  | asking (w : Instruction) : Placed bank (some ⟨w, bank.inMemory.carriesOut w⟩) none
  | trying {w : Instruction} {r : TransferOrder} (hr : w.order = .ok r) (hchecked : Checked r)
      (stage : Stage) (left : Nat) :
      Placed bank (some ⟨w, Bank.onStores (bank.tries r stage left)⟩) (some ⟨r, stage⟩)
  | pausing {w : Instruction} {r : TransferOrder} (hr : w.order = .ok r) (hchecked : Checked r)
      (delay : Delay) (left : Nat) :
      Placed bank (some ⟨w, Bank.onStores
        ((Procedure.pause delay).bind fun _ => bank.tries r (.calling .begin) left)⟩) none
  | done (w : Instruction) (result : Except BankError TransferReceipt) :
      Placed bank (some ⟨w, .finished result⟩) none

variable {bank : Bank} {w : Instruction} {r : TransferOrder} {p : Premises}
variable {rest : Procedure Premises (Except BankError TransferReceipt)} {x : Option Pending}

/-- An errand that is finished is in no attempt. -/
theorem Placed.eq_none {result : Except BankError TransferReceipt}
    (h : Placed bank (some ⟨w, .finished result⟩) x) : x = none := by
  generalize hrest : Procedure.finished result = rest at h
  rcases h with - | - | ⟨hr, hchecked, stage, left⟩ | - | -
  · rfl
  · -- an attempt that is under way makes at least one call
    unfold Bank.tries Bank.attempt at hrest
    rw [procedure_bind] at hrest
    rcases stage with call | n | ⟨n, lower⟩
    · cases hrest
    · cases hrest
    · cases hrest
  · rfl
  · rfl

/-! ## Pieces on the floor -/

/-- The floor `f'` comes from `f` by events of the attempt `j`, and then it agrees with the
premises and the attempt with the errand. -/
structure Serves (bank : Bank) (j : Nat) (errand : Option Errand) (p : Premises)
    (f f' : Floor) : Prop where
  events : ∃ events, f' = f.run events
  stores : f'.stores = p.stores.withoutSessions
  placed : Placed bank errand (f'.attempts j)
  others : ∀ k, k ≠ j → f'.attempts k = f.attempts k

namespace Serves

variable {f f' f'' : Floor} {j : Nat} {errand errand' : Option Errand} {p' : Premises}

/-- An errand in its place is served by no event at all. -/
theorem here (hstores : f.stores = p.stores.withoutSessions)
    (hplaced : Placed bank errand (f.attempts j)) : Serves bank j errand p f f :=
  ⟨⟨[], rfl⟩, hstores, hplaced, fun _ _ => rfl⟩

/-- Two pieces of one errand, one after the other. -/
theorem trans (h : Serves bank j errand p f f') (h' : Serves bank j errand' p' f' f'') :
    Serves bank j errand' p' f f'' := by
  obtain ⟨events, rfl⟩ := h.events
  obtain ⟨events', rfl⟩ := h'.events
  refine ⟨⟨events ++ events', (Floor.run_append ..).symm⟩, h'.stores, h'.placed, ?_⟩
  intro k hk
  rw [h'.others k hk, h.others k hk]

/-- One event. -/
theorem event (e : Event) (hstores : (f.step e).stores = p.stores.withoutSessions)
    (hplaced : Placed bank errand ((f.step e).attempts j))
    (hothers : ∀ k, k ≠ j → (f.step e).attempts k = f.attempts k) :
    Serves bank j errand p f (f.step e) :=
  ⟨⟨[e], rfl⟩, hstores, hplaced, hothers⟩

/-- One event that gives the attempt another place. -/
theorem event_of_setAttempt {e : Event} {x : Option Pending} {g : Floor}
    (hstep : f.step e = g.setAttempt j x) (hattempts : g.attempts = f.attempts)
    (hstores : g.stores = p.stores.withoutSessions) (hplaced : Placed bank errand x) :
    Serves bank j errand p f (f.step e) := by
  refine .event e ?_ ?_ ?_
  · rw [hstep]
    exact hstores
  · have hown : (f.step e).attempts j = x := by
      rw [hstep]
      exact if_pos rfl
    rw [hown]
    exact hplaced
  · intro k hk
    have hother : (f.step e).attempts k = g.attempts k := by
      rw [hstep]
      exact if_neg hk
    rw [hother, hattempts]

end Serves

variable {f : Floor} {j : Nat} {p' : Premises}

/-! ## Taking up an order -/

/-- A checked order is taken up on the floor. -/
theorem serves_start (hr : w.order = .ok r) (hchecked : Checked r)
    (hfree : f.attempts j = none) (hstores : f.stores = p.stores.withoutSessions) (left : Nat) :
    ∃ f', Serves bank j (some ⟨w, Bank.onStores (bank.tries r (.calling .begin) left)⟩) p f f' := by
  have hstep := Floor.step_start_eq hfree hchecked
  exact ⟨_, .event_of_setAttempt hstep rfl hstores (.trying hr hchecked _ left)⟩

/-- An answer that takes no call is given, or refused because the bank is shutting down; the
premises stay in either case. -/
theorem Bank.whileRunning_of {α : Type} (answer : Except BankError α) (p : Premises) :
    whileRunning (.of answer) p = (answer, p) ∨
      whileRunning (.of answer) p = (.error (.contention .shuttingDown), p) := by
  unfold whileRunning
  by_cases hrunning : p.phase.accepts = true
  · rw [if_pos hrunning]
    exact .inl rfl
  · rw [if_neg hrunning]
    exact .inr rfl

/-- What follows on a currency, or on none. -/
def Bank.continues (bank : Bank) (w : Instruction) :
    Except BankError Currency → Procedure Premises (Except BankError TransferReceipt)
  | .error e => .finished (.error e)
  | .ok currency =>
    onStores ((w.orderIn currency).carryOut .memory bank.transfer.lockTimeout bank.transfer)

/-- The first piece of an errand reads its currency and takes up the order, all at once. -/
theorem Bank.go_carriesOut (bank : Bank) (w : Instruction) (p : Premises) :
    (bank.inMemory.carriesOut w).go p
      = (bank.continues w (whileRunning (.of (Currency.parse w.currency)) p).1,
        (whileRunning (.of (Currency.parse w.currency)) p).2) := rfl

/-- Behind the currency comes an attempt, if the order passes its check. -/
theorem serves_continues (bank : Bank) (w : Instruction) {answer : Except BankError Currency}
    (hanswer : ∀ currency, answer = .ok currency → Currency.parse w.currency = .ok currency)
    (hfree : f.attempts j = none) (hstores : f.stores = p.stores.withoutSessions) :
    ∃ f', Serves bank j (some ⟨w, bank.continues w answer⟩) p f f' := by
  -- an answer is passed on at once, with nothing asked of the floor
  have hover : ∀ result, Serves bank j (some ⟨w, .finished result⟩) p f f := by
    intro result
    refine .here hstores ?_
    rw [hfree]
    exact .done w result
  -- the floor is only started on an order that passes the check, with the retries of the bank
  rcases answer with e | currency
  · exact ⟨f, hover _⟩
  · have horder : w.order = .ok (w.orderIn currency) := by
      unfold Instruction.order
      rw [hanswer currency rfl]
      rfl
    unfold Bank.continues TransferOrder.carryOut
    dsimp only
    rcases check_cases (w.orderIn currency) with ⟨e, hcheck⟩ | ⟨hcheck, hne, hpos⟩
    · rw [hcheck]
      exact ⟨f, hover _⟩
    · obtain ⟨f', hserves⟩ := serves_start horder ⟨hne, hpos⟩ hfree hstores bank.transfer.maxRetries
      rw [← bank.retrying_eq_tries] at hserves
      rw [hcheck]
      exact ⟨f', hserves⟩

/-- The first piece reads the currency and checks the order. -/
theorem go_asking (bank : Bank) (w : Instruction) (p : Premises) (hfree : f.attempts j = none)
    (hstores : f.stores = p.stores.withoutSessions) :
    ((bank.inMemory.carriesOut w).go p).2 = p ∧
      ∃ f', Serves bank j (some ⟨w, ((bank.inMemory.carriesOut w).go p).1⟩) p f f' := by
  rw [bank.go_carriesOut]
  rcases Bank.whileRunning_of (Currency.parse w.currency) p with hread | hread
  · rw [hread]
    dsimp only
    exact ⟨rfl, serves_continues bank w (fun _ h => h) hfree hstores⟩
  · rw [hread]
    dsimp only
    have hanswer : ∀ currency, (.error (.contention .shuttingDown) : Except BankError Currency)
        = .ok currency → Currency.parse w.currency = .ok currency := by
      rintro currency ⟨⟩
    exact ⟨rfl, serves_continues bank w hanswer hfree hstores⟩

/-! ## Attempts -/

/-- What a piece of an errand may do to the accounts: nothing, or what its order has authority
for, and then the errand is finished. -/
def Pays (w : Instruction) (rest : Procedure Premises (Except BankError TransferReceipt))
    (l l' : Ledger) : Prop :=
  l'.accounts = l.accounts ∨
    (l.Guarded (fun r => w.order = .ok r) l' ∧ ∃ result, rest = .finished result)

/-- Behind the end of an attempt there is none. -/
theorem placed_again (hr : w.order = .ok r) (hchecked : Checked r) (left : Nat)
    (result : Except BankError TransferReceipt) :
    Placed bank (some ⟨w, Bank.onStores
      (bank.transfer.again (bank.attempt r (.calling .begin)) left result)⟩) none := by
  rcases bank.transfer.again_cases (bank.attempt r (.calling .begin)) left result with
    ⟨left', delay, hagain⟩ | hagain
  · rw [hagain, bank.retrying_eq_tries]
    exact .pausing hr hchecked delay left'
  · rw [hagain]
    exact .done w result

/-- What is left behind a call of an attempt; there is no outcome if it has to wait. -/
def Bank.proceeds (bank : Bank) (r : TransferOrder) (stage : Stage) (left : Nat) :
    Option (Outcome stage.callsLeft) → Procedure Stores (Except BankError TransferReceipt)
  | some outcome =>
    after .memory bank.transfer.lockTimeout r
      (bank.transfer.again (bank.attempt r (.calling .begin)) left) outcome
  | none => bank.tries r stage left

/-- A piece of an attempt is one call of the machine, and what comes of it decides what is left. -/
theorem Bank.go_tries (bank : Bank) (r : TransferOrder) (stage : Stage) (left : Nat)
    (s : Stores) :
    (bank.tries r stage left).go s
      = (bank.proceeds r stage left (advance .memory r stage s).1,
          (advance .memory r stage s).2) := by
  unfold tries attempt
  rw [go_procedure]
  rcases (advance .memory r stage s).1 with _ | outcome
  all_goals rfl

/-- An errand is where its attempt is. -/
theorem placed_follow (hr : w.order = .ok r) (hchecked : Checked r) {stage : Stage} (left : Nat)
    (hi : f.attempts j = some ⟨r, stage⟩) (outcome : Option (Outcome stage.callsLeft)) :
    Placed bank (some ⟨w, Bank.onStores (bank.proceeds r stage left outcome)⟩)
      ((f.follow j r outcome).attempts j) := by
  rcases outcome with _ | (⟨later, closer⟩ | result)
  · -- it waits where it stands
    have hown : (f.follow j r (none : Option (Outcome stage.callsLeft))).attempts j
        = some ⟨r, stage⟩ := hi
    rw [hown]
    exact .trying hr hchecked stage left
  · have hown : (f.follow j r (some (.next later closer))).attempts j = some ⟨r, later⟩ :=
      if_pos rfl
    rw [hown]
    exact .trying hr hchecked later left
  · have hown : (f.follow j r (some (.over result : Outcome stage.callsLeft))).attempts j = none :=
      if_pos rfl
    rw [hown]
    exact placed_again hr hchecked left result

/-- A piece of an attempt is a call on the floor. -/
theorem go_trying (h : f.Orderly) (hstores : f.stores = p.stores.withoutSessions)
    (hr : w.order = .ok r) (hchecked : Checked r) {stage : Stage} (left : Nat)
    (hi : f.attempts j = some ⟨r, stage⟩) :
    let piece := (Bank.onStores (bank.tries r stage left)).go p
    (∃ f', Serves bank j (some ⟨w, piece.1⟩) piece.2 f f') ∧
      Pays w piece.1 p.stores.ledger piece.2.stores.ledger := by
  intro piece
  have hpiece : piece = (Bank.onStores
      (bank.proceeds r stage left (advance .memory r stage p.stores).1),
      { p with stores := (advance .memory r stage p.stores).2 }) := by
    have honStores : piece = _ := Bank.go_onStores _ p
    rw [Bank.go_tries] at honStores
    exact honStores
  have houtcome : (advance .memory r stage f.stores).1 = (advance .memory r stage p.stores).1 := by
    rw [hstores, advance_withoutSessions]
  have hbehind : (advance .memory r stage f.stores).2
      = (advance .memory r stage p.stores).2.withoutSessions := by
    rw [hstores, advance_withoutSessions]
  have hledger : f.stores.ledger = p.stores.ledger := by
    rw [hstores]
    rfl
  have hstep := Floor.step_advance_eq hi
  have hstores' : (f.step (.advance j)).stores
      = (advance .memory r stage p.stores).2.withoutSessions := by
    rw [hstep, Floor.stores_follow, ← hbehind, advance_stores]
    rfl
  have haccounts := Floor.accounts_advance h hi
  rw [hpiece]
  rw [houtcome] at hstep haccounts
  rw [hstores', hledger] at haccounts
  constructor
  · refine ⟨f.step (.advance j), .event _ hstores' ?_ ?_⟩
    · rw [hstep]
      have hcalled : (f.called ⟨r, stage⟩).attempts j = some ⟨r, stage⟩ := hi
      exact placed_follow hr hchecked left hcalled _
    · intro k hk
      rw [hstep, Floor.attempts_follow_of_ne hk]
      rfl
  · rcases haccounts with hsame | ⟨plan, receipt, hplan, hcurrent, hsettle, hover⟩
    · exact .inl hsame
    · refine .inr ⟨?_, ?_⟩
      · refine (Ledger.guarded_of_settle hplan hcurrent hsettle).mono ?_
        rintro s rfl
        exact hr
      · -- what has been posted is not tried again
        refine ⟨(Ledger.acknowledgement p.stores.ledger.faults.head?).map fun _ => receipt, ?_⟩
        rw [hover]
        exact congrArg Bank.onStores (bank.transfer.again_of_applied _ left _ receipt)

/-! ## Pieces -/

/-- What happens on the floor when an errand takes its next piece. -/
theorem go_placed (h : f.Orderly) (hstores : f.stores = p.stores.withoutSessions)
    (hplaced : Placed bank (some ⟨w, rest⟩) (f.attempts j)) :
    (∃ f', Serves bank j (some ⟨w, (rest.go p).1⟩) (rest.go p).2 f f') ∧
      Pays w (rest.go p).1 p.stores.ledger (rest.go p).2.stores.ledger := by
  generalize hx : f.attempts j = x at hplaced
  cases hplaced with
  | asking =>
    obtain ⟨hsame, hserves⟩ := go_asking bank w p hx hstores
    rw [hsame]
    exact ⟨hserves, .inl rfl⟩
  | trying hr hchecked stage left => exact go_trying h hstores hr hchecked left hx
  | pausing hr hchecked delay left =>
    -- at a pause nothing answers
    exact ⟨⟨f, .here hstores (hx ▸ .pausing hr hchecked delay left)⟩, .inl rfl⟩
  | done _ result => exact ⟨⟨f, .here hstores (hx ▸ .done w result)⟩, .inl rfl⟩

/-- What happens on the floor when the patience of an errand is over. -/
theorem expire_placed (hstores : f.stores = p.stores.withoutSessions)
    (hplaced : Placed bank (some ⟨w, rest⟩) (f.attempts j)) :
    (∃ f', Serves bank j (some ⟨w, (rest.expire p).1⟩) (rest.expire p).2 f f') ∧
      (rest.expire p).2.stores.ledger.accounts = p.stores.ledger.accounts := by
  generalize hx : f.attempts j = x at hplaced
  cases hplaced with
  | asking => exact ⟨⟨f, .here hstores (hx ▸ .asking w)⟩, rfl⟩
  | @trying _ r hr hchecked stage left =>
    rw [Bank.expire_onStores]
    unfold Bank.tries Bank.attempt
    rcases hrequest : stage.request? r with _ | ⟨n, row⟩
    · rw [(patient_procedure hrequest p.stores).1]
      exact ⟨⟨f, .here hstores (hx ▸ .trying hr hchecked stage left)⟩, rfl⟩
    · -- the attempt gives up at the row and rolls back
      rw [expire_procedure hrequest]
      have hstep := Floor.step_giveUp_eq hx hrequest
      refine ⟨⟨_, .event_of_setAttempt hstep rfl ?_ (.trying hr hchecked _ left)⟩, rfl⟩
      rw [hstores]
      rfl
  | pausing hr hchecked delay left =>
    -- the pause is over, and the next attempt begins
    exact ⟨serves_start hr hchecked hx hstores left, rfl⟩
  | done _ result => exact ⟨⟨f, .here hstores (hx ▸ .done w result)⟩, rfl⟩

/-- What happens on the floor when the caller of an errand leaves. -/
theorem leave_placed (hstores : f.stores = p.stores.withoutSessions)
    (hplaced : Placed bank (some ⟨w, rest⟩) (f.attempts j)) (hleave : rest.leave p = some p') :
    (∃ f', Serves bank j none p' f f') ∧
      p'.stores.ledger.accounts = p.stores.ledger.accounts := by
  generalize hx : f.attempts j = x at hplaced
  -- only a request for a row and a pause can be left
  cases hplaced with
  | asking => cases hleave
  | @trying _ r hr hchecked stage left =>
    rw [Bank.leave_onStores] at hleave
    unfold Bank.tries Bank.attempt at hleave
    rcases hrequest : stage.request? r with _ | ⟨n, row⟩
    · rw [(patient_procedure hrequest p.stores).2] at hleave
      cases hleave
    · -- the call that is left holds a unit, and the floor abandons the attempt with that unit
      rw [leave_procedure hrequest] at hleave
      obtain rfl := Option.some.inj hleave
      have hstep := Floor.step_abandon_eq_drop hx (unit?_of_request? hrequest)
      refine ⟨⟨_, .event_of_setAttempt hstep rfl ?_ .nobody⟩, rfl⟩
      rw [hstores]
      rfl
  | pausing =>
    obtain rfl := Option.some.inj hleave
    exact ⟨⟨f, .here hstores (hx ▸ .nobody)⟩, rfl⟩
  | done => cases hleave

/-! ## Whole errands -/

/-- A procedure that is finished leads nowhere but to itself. -/
theorem leads_finished {result : Except BankError TransferReceipt}
    {q : Procedure Premises (Except BankError TransferReceipt)} (h : rest.Leads p q p')
    (hrest : rest = .finished result) : q = .finished result ∧ p' = p := by
  induction h with
  | here rest p => exact ⟨hrest, rfl⟩
  | go h ih =>
    subst hrest
    exact ih rfl
  | expire h ih =>
    subst hrest
    exact ih rfl

/-- The floor behind a piece is reached by events, so it is as orderly as the one before. -/
theorem Serves.orderly {f' : Floor} {errand : Option Errand} (hserves : Serves bank j errand p f f')
    (h : f.Orderly) : f'.Orderly := by
  obtain ⟨events, rfl⟩ := hserves.events
  exact h.run events

/-- Along the pieces of one errand at most one plan is settled. -/
theorem leads_placed {q : Procedure Premises (Except BankError TransferReceipt)}
    (hleads : rest.Leads p q p') (h : f.Orderly) (hstores : f.stores = p.stores.withoutSessions)
    (hplaced : Placed bank (some ⟨w, rest⟩) (f.attempts j)) :
    (∃ f', Serves bank j (some ⟨w, q⟩) p' f f') ∧
      p.stores.ledger.Guarded (fun r => w.order = .ok r) p'.stores.ledger := by
  induction hleads generalizing f with
  | here rest p => exact ⟨⟨f, .here hstores hplaced⟩, Ledger.guarded_of_same rfl⟩
  | go hleads ih =>
    obtain ⟨⟨f₁, hserves⟩, hpays⟩ := go_placed h hstores hplaced
    rcases hpays with hsame | ⟨hguarded, result, hover⟩
    · obtain ⟨⟨f', hserves'⟩, hguarded⟩ := ih (hserves.orderly h) hserves.stores hserves.placed
      exact ⟨⟨f', hserves.trans hserves'⟩, hguarded.of_same hsame⟩
    · -- nothing follows on the piece that has moved the money
      obtain ⟨rfl, rfl⟩ := leads_finished hleads hover
      rw [hover] at hserves
      exact ⟨⟨f₁, hserves⟩, hguarded⟩
  | expire hleads ih =>
    obtain ⟨⟨f₁, hserves⟩, hsame⟩ := expire_placed hstores hplaced
    obtain ⟨⟨f', hserves'⟩, hguarded⟩ := ih (hserves.orderly h) hserves.stores hserves.placed
    exact ⟨⟨f', hserves.trans hserves'⟩, hguarded.of_same hsame⟩

end CountingHouse
