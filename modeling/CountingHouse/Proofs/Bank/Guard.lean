/-
Nobody's money moves without authority.

`Secure` is what a customer wants to know about the bank at every moment: whatever happens
next, a balance falls only by an order of the owner, and rises only where such an order takes
the money from somewhere else; an order that has moved money is finished by that; and accounts
stay, with the same owner and the same currency, one for each owner and currency.

The hall is followed on its floor incident by incident (`Mirrors`). Every path into the ledger
ends there in one of two places: an account is opened, which leaves the others as they are, or
a plan is settled, which has been checked against the rows that it changes.
-/
import CountingHouse.Proofs.Bank.Mirror

set_option autoImplicit false

namespace CountingHouse

open Attempt

namespace Hall

/-! ## Halls and floors -/

/-- A floor on which the same happens as in a hall. The attempt of an errand has the name
after that of the errand. -/
structure Mirrors (bank : Bank) (h : Hall) (f : Floor) : Prop where
  stores : f.stores = h.premises.stores.withoutSessions
  vacant : f.attempts 0 = none
  errands : ∀ i, Placed bank (h.errands i) (f.attempts (i + 1))

variable {bank : Bank} {h h' : Hall} {f f' : Floor} {p : Premises}

/-- What happens apart from the errands leaves them in their places. -/
theorem Mirrors.apart (hm : h.Mirrors bank f) (herrands : h'.errands = h.errands)
    (hstores : f'.stores = h'.premises.stores.withoutSessions)
    (hattempts : f'.attempts = f.attempts) : h'.Mirrors bank f' := by
  refine ⟨hstores, ?_, ?_⟩
  · rw [hattempts]
    exact hm.vacant
  · rw [herrands, hattempts]
    exact hm.errands

/-- What happens to one errand leaves the others in their places. -/
theorem Mirrors.serve (hm : h.Mirrors bank f) {i : Nat} {errand : Option Errand}
    (hserves : Serves bank (i + 1) errand p f f') :
    (({ h with premises := p } : Hall).setErrand i errand).Mirrors bank f' := by
  refine ⟨hserves.stores, ?_, ?_⟩
  · rw [hserves.others 0 (Nat.succ_ne_zero i).symm]
    exact hm.vacant
  · intro k
    by_cases hk : k = i
    · subst hk
      have hown : (({ h with premises := p } : Hall).setErrand k errand).errands k = errand :=
        if_pos rfl
      rw [hown]
      exact hserves.placed
    · have hother : (({ h with premises := p } : Hall).setErrand i errand).errands k
          = h.errands k := if_neg hk
      rw [hother, hserves.others (k + 1) (fun heq => hk (Nat.succ.inj heq))]
      exact hm.errands k

/-! ## Incidents on the floor -/

/-- The floor can go where the hall goes, and the accounts change as some orders permit. -/
structure Tracks (bank : Bank) (orders : TransferOrder → Prop) (f : Floor) (h h' : Hall) :
    Prop where
  mirrors : ∃ events, h'.Mirrors bank (f.run events)
  guarded : h.ledger.Guarded orders h'.ledger

variable {orders : TransferOrder → Prop}

/-- An incident that changes nothing is followed by staying where one is. -/
theorem Tracks.still (hm : h.Mirrors bank f) : Tracks bank orders f h h :=
  ⟨⟨[], hm⟩, Ledger.guarded_of_same rfl⟩

/-- One event outside all attempts. -/
theorem Tracks.event (hm : h.Mirrors bank f) (e : Event) (herrands : h'.errands = h.errands)
    (hstores : (f.step e).stores = h'.premises.stores.withoutSessions)
    (hattempts : (f.step e).attempts = f.attempts)
    (hguarded : h.ledger.Guarded orders h'.ledger) : Tracks bank orders f h h' :=
  ⟨⟨[e], hm.apart herrands hstores hattempts⟩, hguarded⟩

/-- Events of the attempt of one errand. -/
theorem Tracks.serve (hm : h.Mirrors bank f) {i : Nat} {errand : Option Errand}
    (hserves : ∃ f', Serves bank (i + 1) errand p f f')
    (hguarded : h.ledger.Guarded orders p.stores.ledger) :
    Tracks bank orders f h (({ h with premises := p } : Hall).setErrand i errand) := by
  obtain ⟨f', hserves⟩ := hserves
  have hm' := hm.serve hserves
  obtain ⟨events, rfl⟩ := hserves.events
  exact ⟨⟨events, hm'⟩, hguarded⟩

/-- The clock of the floor is set along with that of the hall. -/
theorem tracks_setClock (hm : h.Mirrors bank f) (now : Instant) :
    Tracks bank orders f h (h.step bank.inMemory (.setClock now)) := by
  refine .event hm (.setClock now) rfl ?_ rfl (Ledger.guarded_of_same rfl)
  simp only [Floor.step, hm.stores]
  rfl

/-- A fault that is scheduled is one on the floor as well. -/
theorem tracks_scheduleFault (hm : h.Mirrors bank f) (fault : CommitFault) :
    Tracks bank orders f h (h.step bank.inMemory (.scheduleFault fault)) := by
  refine .event hm (.scheduleFault fault) rfl ?_ rfl (Ledger.guarded_of_same rfl)
  simp only [Floor.step, hm.stores]
  rfl

/-- An account that is opened, in whichever way, is opened on the floor in the same way. -/
theorem tracks_opening (hm : h.Mirrors bank f) (request : Opening)
    (hstores : h'.premises.stores = { h.premises.stores with
      ledger := (request.apply h.premises.stores.clock h.ledger).2 })
    (herrands : h'.errands = h.errands) : Tracks bank orders f h h' := by
  -- the floor has the same ledger and the same clock, so it opens the same account
  refine .event hm (.opening request) herrands ?_ rfl ?_
  · simp only [Floor.step, hm.stores, hstores]
    rfl
  · refine Ledger.guarded_of_opening request h.premises.stores.clock ?_
    unfold ledger
    rw [hstores]
    rfl

/-- A request at the counter. It opens an account, changes a rate or touches neither, and the floor
has an event for each of these. -/
theorem tracks_serve (hm : h.Mirrors bank f) (request : Request) :
    Tracks bank orders f h (h.step bank.inMemory (.serve request)) := by
  rcases Bank.deals_serve bank h.premises request with
    ⟨sessions, hdeals⟩ | ⟨owner, currency, hdeals⟩ | ⟨change, hdeals⟩
  · -- the floor has no sessions, so nothing happens there
    refine ⟨⟨[], hm.apart rfl ?_ rfl⟩, Ledger.guarded_of_same ?_⟩
    · unfold step
      rw [hdeals]
      exact hm.stores
    · unfold step ledger
      rw [hdeals]
  · exact tracks_opening hm (.empty owner currency) hdeals rfl
  · refine .event hm (.rateChange change) rfl ?_ rfl (Ledger.guarded_of_same ?_)
    · unfold step
      simp only [Floor.step, hm.stores, hdeals]
      rfl
    · unfold step ledger
      rw [hdeals]

/-- A whole errand on its own, in the place that is kept free for it. -/
theorem tracks_carryOut (horderly : f.Orderly) (hm : h.Mirrors bank f) (w : Instruction) :
    Tracks bank (fun r => w.order = .ok r) f h (h.step bank.inMemory (.carryOut w)) := by
  have hasking : Placed bank (some ⟨w, bank.inMemory.carriesOut w⟩) (f.attempts 0) := by
    rw [hm.vacant]
    exact .asking w
  obtain ⟨⟨f', hserves⟩, hguarded⟩ := leads_placed
    ((bank.inMemory.carriesOut w).leads_alone h.premises) horderly hm.stores hasking
  obtain ⟨events, rfl⟩ := hserves.events
  refine ⟨⟨events, hserves.stores, hserves.placed.eq_none, ?_⟩, hguarded⟩
  intro i
  rw [hserves.others (i + 1) (Nat.succ_ne_zero i)]
  exact hm.errands i

/-- An errand that begins has done nothing yet, and no attempt on the floor is needed for it. -/
theorem tracks_begin (hm : h.Mirrors bank f) (i : Nat) (w : Instruction) :
    Tracks bank orders f h (h.step bank.inMemory (.begin i w)) := by
  rcases hi : h.errands i with _ | t
  · simp only [step, hi]
    refine .serve hm ⟨f, .here hm.stores ?_⟩ (Ledger.guarded_of_same rfl)
    -- a name that is free in the hall is free on the floor
    have hfree := hm.errands i
    rw [hi] at hfree
    generalize f.attempts (i + 1) = x at hfree
    cases hfree
    exact .asking w
  · -- the name is in use
    simp only [step, hi]
    exact .still hm

/-- A piece of an errand, and what is left of the errand if it has moved money. -/
theorem tracks_go (horderly : f.Orderly) (hm : h.Mirrors bank f) {i : Nat} {t : Errand}
    (hi : h.errands i = some t) :
    Tracks bank (fun r => t.instruction.order = .ok r) f h (h.step bank.inMemory (.go i)) ∧
      ((h.step bank.inMemory (.go i)).ledger.accounts = h.ledger.accounts ∨
        ∃ result, (h.step bank.inMemory (.go i)).errands i
          = some ⟨t.instruction, .finished result⟩) := by
  have hplaced := hm.errands i
  rw [hi] at hplaced
  obtain ⟨hserves, hpays⟩ := go_placed horderly hm.stores hplaced
  have hstep : h.step bank.inMemory (.go i)
      = h.proceed i t.instruction (t.rest.go h.premises) := by
    simp only [step, hi]
  rw [hstep]
  constructor
  · refine .serve hm hserves ?_
    rcases hpays with hsame | ⟨hguarded, -⟩
    · exact Ledger.guarded_of_same hsame
    · exact hguarded
  · -- the rows change only with the call that ends the errand
    rcases hpays with hsame | ⟨-, result, hover⟩
    · exact .inl hsame
    · refine .inr ⟨result, ?_⟩
      rw [← hover]
      exact if_pos rfl

/-- The patience of an errand is over. Where it waits for a row, the attempt in its place gives up;
elsewhere this changes nothing. -/
theorem tracks_expire (hm : h.Mirrors bank f) (i : Nat) :
    Tracks bank orders f h (h.step bank.inMemory (.expire i)) := by
  rcases hi : h.errands i with _ | t
  · simp only [step, hi]
    exact .still hm
  · simp only [step, hi]
    have hplaced := hm.errands i
    rw [hi] at hplaced
    obtain ⟨hserves, hsame⟩ := expire_placed hm.stores hplaced
    exact .serve hm hserves (Ledger.guarded_of_same hsame)

/-- The caller of an errand is gone, and so is the unit of the attempt in its place. -/
theorem tracks_leave (hm : h.Mirrors bank f) (i : Nat) :
    Tracks bank orders f h (h.step bank.inMemory (.leave i)) := by
  rcases hi : h.errands i with _ | t
  · simp only [step, hi]
    exact .still hm
  · rcases hleave : t.rest.leave h.premises with _ | premises
    · -- nobody leaves where nothing waits
      simp only [step, hi, hleave]
      exact .still hm
    · simp only [step, hi, hleave]
      have hplaced := hm.errands i
      rw [hi] at hplaced
      obtain ⟨hserves, hsame⟩ := leave_placed hm.stores hplaced hleave
      exact .serve hm hserves (Ledger.guarded_of_same hsame)

/-- Whatever happens in a hall, the floor can follow, and the accounts change by authority of
the order that is carried out. -/
theorem tracks_step (horderly : f.Orderly) (hm : h.Mirrors bank f) (e : Incident) :
    Tracks bank (h.Orders e) f h (h.step bank.inMemory e) := by
  cases e with
  | setClock now => exact tracks_setClock hm now
  | scheduleFault fault => exact tracks_scheduleFault hm fault
  | insertAccount owner currency balance =>
    exact tracks_opening hm (.funded owner currency balance) rfl rfl
  | serve request => exact tracks_serve hm request
  | carryOut w =>
    obtain ⟨hmirrors, hguarded⟩ := tracks_carryOut horderly hm w
    exact ⟨hmirrors, hguarded.mono fun r hr => ⟨w, rfl, hr⟩⟩
  | begin i w => exact tracks_begin hm i w
  | go i =>
    rcases hi : h.errands i with _ | t
    · have hstep : h.step bank.inMemory (.go i) = h := by
        simp only [step, hi]
      rw [hstep]
      exact .still hm
    · obtain ⟨⟨hmirrors, hguarded⟩, -⟩ := tracks_go horderly hm hi
      refine ⟨hmirrors, hguarded.mono fun r hr => ⟨t.instruction, ?_, hr⟩⟩
      simp only [instruction?, hi, Option.map_some]
  | expire i => exact tracks_expire hm i
  | leave i => exact tracks_leave hm i

/-! ## Runs -/

/-- A hall that has just been opened is mirrored by the floor that has. -/
theorem mirrors_empty (bank : Bank) (clock : Instant) :
    (empty clock).Mirrors bank (Floor.empty clock) :=
  ⟨rfl, rfl, fun _ => .nobody⟩

/-- Whatever happens in a hall, some events on a floor lead to its mirror. This carries all that is
known of reached floors over to halls. -/
theorem mirrors_run (horderly : f.Orderly) (hm : h.Mirrors bank f) (incidents : List Incident) :
    ∃ events, (h.run bank.inMemory incidents).Mirrors bank (f.run events) := by
  -- the events of the incidents, one list after the other
  induction incidents generalizing h f with
  | nil => exact ⟨[], hm⟩
  | cons e incidents ih =>
    obtain ⟨events, hstep⟩ := (tracks_step horderly hm e).mirrors
    obtain ⟨later, hrun⟩ := ih (horderly.run events) hstep
    refine ⟨events ++ later, ?_⟩
    rw [Floor.run_append]
    exact hrun

/-- The account of a number is there after every run, with the same particulars; by induction from
what one incident guards. -/
theorem lasting_run (horderly : f.Orderly) (hm : h.Mirrors bank f) (incidents : List Incident)
    {row : AccountId} {a : Account} (ha : h.ledger.account? row = some a) :
    ∃ b, (h.run bank.inMemory incidents).ledger.account? row = some b ∧
      b.particulars = a.particulars := by
  induction incidents generalizing h f a with
  | nil => exact ⟨a, ha, rfl⟩
  | cons e incidents ih =>
    obtain ⟨⟨events, hstep⟩, hguarded⟩ := tracks_step horderly hm e
    obtain ⟨b, hb, hsame⟩ := hguarded.lasting row a ha
    obtain ⟨c, hc, hsame'⟩ := ih (horderly.run events) hstep hb
    exact ⟨c, hc, hsame'.trans hsame⟩

/-! ## Every hall -/

/-- A hall in which nobody's money moves without authority. -/
structure Secure (bank : Bank) (h : Hall) : Prop where
  /-- Whatever happens next, the accounts change by authority of the order that is carried
  out. -/
  guarded : ∀ e, h.ledger.Guarded (h.Orders e) (h.step bank e).ledger
  /-- An errand that moves money is finished by that. -/
  once : ∀ i t, h.errands i = some t →
    (h.step bank (.go i)).ledger.accounts ≠ h.ledger.accounts →
    ∃ result, (h.step bank (.go i)).errands i = some ⟨t.instruction, .finished result⟩
  /-- An account is there for ever, with the same number, owner and currency. -/
  lasting : ∀ later row a, h.ledger.account? row = some a →
    ∃ b, (h.run bank later).ledger.account? row = some b ∧ b.particulars = a.particulars
  numbered : (h.ledger.accounts.map Account.id).Nodup
  /-- Nobody has two accounts in one currency. -/
  holders : (h.ledger.accounts.map Account.holder).Nodup

/-- Whoever asks for whatever in whatever order, nobody's money moves without authority. -/
theorem secure_run (bank : Bank) (clock : Instant) (incidents : List Incident) :
    ((empty clock).run bank.inMemory incidents).Secure bank.inMemory := by
  -- the hall is followed by a floor, and what is proved of its runs is carried over
  obtain ⟨events, hm⟩ := mirrors_run (Floor.orderly_empty clock) (mirrors_empty bank clock)
    incidents
  have horderly := (Floor.orderly_empty clock).run events
  generalize (empty clock).run bank.inMemory incidents = h at hm
  generalize (Floor.empty clock).run events = f at hm horderly
  have hledger : h.ledger = f.stores.ledger := by
    rw [hm.stores]
    rfl
  refine ⟨fun e => (tracks_step horderly hm e).guarded, ?_, ?_, ?_, ?_⟩
  · intro i t hi hmoves
    exact (tracks_go horderly hm hi).2.resolve_left hmoves
  · intro later row a ha
    exact lasting_run horderly hm later ha
  · rw [hledger]
    exact horderly.sound.ids_nodup
  · obtain ⟨moves, hreached⟩ := horderly.reached
    rw [hledger, hreached]
    exact Ledger.holders_run_empty moves

/-- The owner moves money, and somebody else does not. -/
example (desk : CredentialDesk) (duration : Span) :
    let bank : Bank := ⟨.memory, desk, "root", {}, duration⟩
    let h := (empty default).run bank [.insertAccount "ann" .usd 10,
      .insertAccount "bob" .usd 0, .carryOut ⟨"ann", ⟨1⟩, ⟨2⟩, 7, "usd"⟩,
      .carryOut ⟨"bob", ⟨1⟩, ⟨2⟩, 1, "usd"⟩]
    h.ledger.accounts.map Account.balance = [3, 7] := by
  cbv

end Hall

end CountingHouse
