/-
What holds on every floor, and what an event can do to it.

`Orderly` ties the attempts to the ledger: each of them fits it (`Attempt.Fits`), and no two
share a unit. An event concerns one attempt at most, and the others do not notice, because
a call in one unit keeps what is known in all the others (`Fits.undisturbed`).

`Evolves` says what an event does to the outside: it leaves the books alone, or it opens an
account, changes a rate, or posts the plan of one attempt. It also says where plans come
from. An attempt that has a plan has had it before, or the plan is that of `planOn` on the
floor as it was. Every later argument about floors is an induction whose step is a case
analysis of `Evolves`.
-/
import CountingHouse.Proofs.Ledger.Queue
import CountingHouse.Proofs.Transfer.Floor

set_option autoImplicit false

namespace CountingHouse

open Attempt

/-! ## Attempts that fit the ledger -/

namespace Attempt

variable {r : TransferOrder} {l : Ledger} {n : UnitId} {p : Plan} {stage : Stage} {s : Stores}

/-- An order that has passed its check. -/
structure Checked (r : TransferOrder) : Prop where
  distinct : r.source ≠ r.target
  positive : 1 ≤ r.amount

/-- A plan that has been checked for its order. -/
structure Plan.Sealed (p : Plan) (r : TransferOrder) : Prop where
  suits : p.Suits r
  funded : p.Funded
  rate : ∀ d, p.exchangeRate = some d → d.isPositive = true

/-- What holds of an attempt at its stage. -/
inductive Fits (r : TransferOrder) (l : Ledger) : Stage → Prop where
  | begin : Fits r l (.calling .begin)
  | gathers {n : UnitId} {stage : Stage} (h : Gathers r l n stage) : Fits r l stage
  | bears {n : UnitId} {p : Plan} {stage : Stage} (hp : p.Sealed r) (h : Bears l n p stage) :
      Fits r l stage
  | refused {n : UnitId} {e : BankError} {u : OpenUnit} (hu : l.unit? n = some u) :
      Fits r l (.calling (.rollback n e))

/-- A move of somebody else leaves an attempt as it is. -/
theorem Fits.undisturbed_make (hf : Fits r l stage) (h : l.Sound) (move : Move)
    (hmove : ∀ n, stage.unit? = some n → move.unit? ≠ some n) : Fits r (l.make move) stage := by
  rcases hf with - | hg | ⟨hp, hb⟩ | hu
  · exact .begin
  · exact .gathers (hg.undisturbed h move (hmove _ hg.unit?_eq))
  · exact .bears hp (hb.undisturbed h move (hmove _ hb.unit?_eq))
  · exact .refused (Ledger.unit?_make h hu move (hmove _ rfl))

/-- Moves of others leave an attempt as it is. -/
theorem Fits.undisturbed (hf : Fits r l stage) (h : l.Sound) (moves : List Move)
    (hmoves : ∀ move ∈ moves, ∀ n, stage.unit? = some n → move.unit? ≠ some n) :
    Fits r (l.run moves) stage := by
  induction moves generalizing l with
  | nil => exact hf
  | cons move moves ih =>
    have hfirst := hf.undisturbed_make h move (hmoves move List.mem_cons_self)
    exact ih hfirst (h.make move) fun later hlater =>
      hmoves later (List.mem_cons_of_mem _ hlater)

/-- The unit of an attempt is open. -/
theorem Fits.unit_open (hf : Fits r l stage) (hn : stage.unit? = some n) :
    ∃ u, l.unit? n = some u := by
  rcases hf with - | hg | ⟨-, hb⟩ | hu
  · cases hn
  · obtain rfl := Option.some.inj (hg.unit?_eq.symm.trans hn)
    rcases hg with hunit | ⟨-, hunit⟩ | ⟨-, -, -, -, -, hcarry⟩
    · exact ⟨_, hunit⟩
    · exact ⟨_, hunit⟩
    · obtain ⟨u, hu, -⟩ := hcarry.unit
      exact ⟨u, hu⟩
  · obtain rfl := Option.some.inj (hb.unit?_eq.symm.trans hn)
    obtain ⟨_, _, _, _, hcarry⟩ := hb.carrying
    obtain ⟨u, hu, -⟩ := hcarry.unit
    exact ⟨u, hu⟩
  · obtain rfl := Option.some.inj hn
    exact ⟨_, hu⟩

/-- The plan that is decided on fits its order, can be paid for and has a positive rate, if it has
one. -/
theorem sealed_of_planOn (hsound : s.ledger.Sound) (hrates : s.rates.Positive)
    (hchecked : Checked r) (h : planOn r s = .ok p) : p.Sealed r := by
  obtain ⟨-, -, hsuits, hrate⟩ := suits_of_planOn hchecked.distinct hchecked.positive h
  exact ⟨hsuits, funded_of_planOn hsound hchecked.distinct hchecked.positive h, hrate hrates⟩

/-- A stage that comes after another one in the same attempt. -/
structure Follows (r : TransferOrder) (s : Stores) (l : Ledger) (stage later : Stage) : Prop where
  fits : Fits r l later
  unit : later.unit? = stage.unit? ∨ later.unit? = some ⟨s.ledger.nextUnit⟩
  plan : ∀ p, later.plan? = some p → stage.plan? = some p ∨ planOn r s = .ok p

/-- What a call does for its attempt: it waits or goes on, and the books are as before, or it
is the last call of the attempt. -/
inductive Turn (r : TransferOrder) (s : Stores) (stage : Stage) : Prop where
  | waits (hquiet : ∀ move, stage.move? r s.clock = some move → ¬ move.Publishes)
      (hcall : (advance .memory r stage s).1 = none)
      (hfits : Fits r (stage.ledgerAfter r s.clock s.ledger) stage)
  | goes {later : Stage} {closer : later.callsLeft < stage.callsLeft}
      (hquiet : ∀ move, stage.move? r s.clock = some move → ¬ move.Publishes)
      (hcall : (advance .memory r stage s).1 = some (.next later closer))
      (hfollows : Follows r s (stage.ledgerAfter r s.clock s.ledger) stage later)
  | rollsBack {n : UnitId} {e : BankError} (hstage : stage = .calling (.rollback n e))
  | commits {n : UnitId} {p : Plan} {receipt : TransferReceipt}
      (hstage : stage = .calling (.commit n receipt)) (hp : p.Sealed r)
      (hb : Bears s.ledger n p stage)

/-- An attempt that does not end its unit publishes nothing. -/
theorem quiet_of_not_ends (hn : stage.unit? = some n) (now : Instant)
    (hends : ∀ move, stage.move? r now = some move → ¬ move.Ends n) :
    ∀ move, stage.move? r now = some move → ¬ move.Publishes := by
  intro move hmove
  have hown : move.unit? = some n := (unit?_of_move? hmove).trans hn
  exact Ledger.not_publishes hown (hends move hmove)

/-- An attempt that still gathers its rows waits, goes on gathering, or decides. -/
theorem turn_of_gathers (h : s.ledger.Sound) (hrates : s.rates.Positive) (hchecked : Checked r)
    (hg : Gathers r s.ledger n stage) : Turn r s stage := by
  have hquiet := quiet_of_not_ends hg.unit?_eq s.clock fun move hmove => hg.not_ends hmove
  rcases gathers_advance hchecked.distinct hg with
    ⟨row, -, -, hcall, hg'⟩ | ⟨later, closer, hcall, hlearns⟩
  · exact .waits hquiet hcall (.gathers hg')
  · refine .goes hquiet hcall ?_
    rcases hlearns with hmore | ⟨hplan, hb⟩ | ⟨hplan, hu⟩
    · refine ⟨.gathers hmore, .inl ?_, ?_⟩
      · rw [hmore.unit?_eq, hg.unit?_eq]
      · intro p hp
        rw [hmore.plan?_eq] at hp
        exact absurd hp (by simp)
    · -- the only place where a plan comes into being
      have hp := sealed_of_planOn h hrates hchecked hplan
      refine ⟨.bears hp hb, .inl ?_, ?_⟩
      · rw [hb.unit?_eq, hg.unit?_eq]
      · intro q hq
        rw [hb.plan?_eq hp.suits] at hq
        obtain rfl := Option.some.inj hq
        exact .inr hplan
    · refine ⟨.refused hu, .inl hg.unit?_eq.symm, ?_⟩
      rintro p ⟨⟩

/-- An attempt that has its plan goes on carrying it out, or commits. -/
theorem turn_of_bears (h : s.ledger.Sound) (hp : p.Sealed r) (hb : Bears s.ledger n p stage) :
    Turn r s stage := by
  by_cases hcommit : ∃ receipt, stage = .calling (.commit n receipt)
  · obtain ⟨receipt, rfl⟩ := hcommit
    exact .commits rfl hp hb
  · have hgoes : ∀ receipt, stage ≠ .calling (.commit n receipt) := by
      intro receipt heq
      exact hcommit ⟨receipt, heq⟩
    have hquiet := quiet_of_not_ends (r := r) hb.unit?_eq s.clock
      fun move hmove => hb.not_ends hgoes hmove
    obtain ⟨later, closer, hcall, hlater⟩ := bears_advance (r := r) h hp.funded hb hgoes
    refine .goes hquiet hcall ⟨.bears hp hlater, .inl ?_, ?_⟩
    · rw [hlater.unit?_eq, hb.unit?_eq]
    · intro q hq
      rw [hlater.plan?_eq hp.suits] at hq
      rw [hb.plan?_eq hp.suits]
      exact .inl hq

/-- An attempt that fits the ledger takes one of the four turns. -/
theorem turn_of_fits (h : s.ledger.Sound) (hrates : s.rates.Positive)
    (hchecked : Checked r) (hf : Fits r s.ledger stage) : Turn r s stage := by
  rcases hf with - | hg | ⟨hp, hb⟩ | hu
  · refine .goes ?_ rfl ⟨?_, .inr rfl, ?_⟩
    · rintro move ⟨⟩ ⟨⟩
    · refine .gathers (.lower ?_)
      have hunit := Ledger.unit?_beginUnit s.ledger ⟨s.ledger.nextUnit⟩ h.unit?_next
      rw [if_pos rfl] at hunit
      exact hunit
    · rintro p ⟨⟩
  · exact turn_of_gathers h hrates hchecked hg
  · exact turn_of_bears h hp hb
  · exact .rollsBack rfl

end Attempt

/-! ## Orderly floors -/

namespace Floor

/-- What holds on every floor. -/
structure Orderly (f : Floor) : Prop where
  reached : ∃ moves, f.stores.ledger = Ledger.empty.run moves
  rates : f.stores.rates.Positive
  checked : ∀ i a, f.attempts i = some a → Checked a.order
  fits : ∀ i a, f.attempts i = some a → Fits a.order f.stores.ledger a.stage
  apart : ∀ i j a b n, f.attempts i = some a → f.attempts j = some b →
    a.stage.unit? = some n → b.stage.unit? = some n → i = j

variable {f f' : Floor} {i : Nat} {a : Pending}

/-- The ledger of an orderly floor is sound. -/
theorem Orderly.sound (h : f.Orderly) : f.stores.ledger.Sound := by
  obtain ⟨moves, hledger⟩ := h.reached
  rw [hledger]
  exact Ledger.sound_run_empty moves

/-- The units and the queue of an orderly floor are in order. -/
theorem Orderly.tidy (h : f.Orderly) : f.stores.ledger.Tidy := by
  obtain ⟨moves, hledger⟩ := h.reached
  rw [hledger]
  exact Ledger.tidy_run_empty moves

/-- Moves lead to a ledger that moves lead to. -/
theorem Orderly.reached_run (h : f.Orderly) (moves : List Move) :
    ∃ all, f.stores.ledger.run moves = Ledger.empty.run all := by
  obtain ⟨before, hledger⟩ := h.reached
  refine ⟨before ++ moves, ?_⟩
  rw [hledger, Ledger.run_append]

/-- What happens outside all units leaves a floor orderly. -/
theorem Orderly.ambient (h : f.Orderly) (moves : List Move)
    (hmoves : ∀ move ∈ moves, move.unit? = none)
    (hledger : f'.stores.ledger = f.stores.ledger.run moves)
    (hrates : f'.stores.rates.Positive) (hattempts : f'.attempts = f.attempts) :
    f'.Orderly := by
  refine ⟨?_, hrates, ?_, ?_, ?_⟩
  · rw [hledger]
    exact h.reached_run moves
  · rw [hattempts]
    exact h.checked
  · rw [hattempts, hledger]
    intro j b hj
    refine (h.fits j b hj).undisturbed h.sound moves ?_
    intro move hmove n _
    rw [hmoves move hmove]
    simp
  · rw [hattempts]
    exact h.apart

/-- What one attempt does in its own unit leaves a floor orderly, if the attempt fits
afterwards. -/
theorem Orderly.act (h : f.Orderly) (hi : f.attempts i = some a) (moves : List Move)
    (hmoves : ∀ move ∈ moves, move.unit? = a.stage.unit?)
    (hledger : f'.stores.ledger = f.stores.ledger.run moves)
    (hrates : f'.stores.rates = f.stores.rates)
    (hothers : ∀ j, j ≠ i → f'.attempts j = f.attempts j)
    (hown : ∀ b, f'.attempts i = some b → b.order = a.order ∧
      Fits a.order f'.stores.ledger b.stage ∧ (b.stage.unit? = a.stage.unit? ∨
        b.stage.unit? = some ⟨f.stores.ledger.nextUnit⟩)) : f'.Orderly := by
  -- the unit of another attempt is neither the acting one nor one that is begun now
  have hstranger : ∀ j b n, j ≠ i → f.attempts j = some b → b.stage.unit? = some n →
      a.stage.unit? ≠ some n ∧ n ≠ ⟨f.stores.ledger.nextUnit⟩ := by
    intro j b n hj hb hn
    constructor
    · intro ha
      exact hj (h.apart j i b a n hb hi hn ha)
    · obtain ⟨u, hu⟩ := (h.fits j b hb).unit_open hn
      rintro rfl
      exact absurd (h.sound.unit_lt _ u hu) (Nat.lt_irrefl _)
  refine ⟨?_, ?_, ?_, ?_, ?_⟩
  · rw [hledger]
    exact h.reached_run moves
  · rw [hrates]
    exact h.rates
  · intro j b hb
    by_cases hj : j = i
    · subst hj
      rw [(hown b hb).1]
      exact h.checked j a hi
    · rw [hothers j hj] at hb
      exact h.checked j b hb
  · intro j b hb
    by_cases hj : j = i
    · subst hj
      obtain ⟨horder, hfits, -⟩ := hown b hb
      rw [horder]
      exact hfits
    · rw [hothers j hj] at hb
      rw [hledger]
      refine (h.fits j b hb).undisturbed h.sound moves ?_
      intro move hmove n hn
      rw [hmoves move hmove]
      exact (hstranger j b n hj hb hn).1
  · -- two attempts on one unit: one of them would be the acting one
    have hclash : ∀ j b c n, j ≠ i → f'.attempts i = some b → f.attempts j = some c →
        b.stage.unit? = some n → c.stage.unit? = some n → False := by
      intro j b c n hj hb hc hbn hcn
      obtain ⟨hold, hnew⟩ := hstranger j c n hj hc hcn
      rcases (hown b hb).2.2 with hunit | hunit
      · exact hold (hunit.symm.trans hbn)
      · exact hnew (Option.some.inj (hbn.symm.trans hunit))
    intro j k b c n hb hc hbn hcn
    by_cases hj : j = i
    · by_cases hk : k = i
      · exact hj.trans hk.symm
      · subst hj
        rw [hothers k hk] at hc
        exact absurd (hclash k b c n hk hb hc hbn hcn) not_false
    · rw [hothers j hj] at hb
      by_cases hk : k = i
      · subst hk
        exact absurd (hclash j c b n hj hc hb hcn hbn) not_false
      · rw [hothers k hk] at hc
        exact h.apart j k b c n hb hc hbn hcn

/-! ## Events that find something to do -/

/-- To start an attempt under a free name is to put it before its first call. -/
theorem step_start_eq (hfree : f.attempts i = none) {r : TransferOrder} (hr : Checked r) :
    f.step (.start i r) = f.setAttempt i (some ⟨r, .calling .begin⟩) := by
  simp only [step, hfree, check_eq_ok hr.distinct hr.positive]

/-- The floor after a call of an attempt, before the attempt has moved on. -/
def called (a : Pending) (f : Floor) : Floor :=
  { f with
    stores := { f.stores with
      ledger := a.stage.ledgerAfter a.order f.stores.clock f.stores.ledger }
    history := f.history ++ posted a f.stores.ledger }

/-- To advance an attempt is to make its call and to move it on by the answer. -/
theorem step_advance_eq (hi : f.attempts i = some a) :
    f.step (.advance i)
      = (f.called a).follow i a.order (Attempt.advance .memory a.order a.stage f.stores).1 := by
  have hstores := advance_stores a.order a.stage f.stores
  simp only [step, hi]
  rw [hstores]
  rfl

/-- To give up is to leave the queue and to turn to the rollback. -/
theorem step_giveUp_eq (hi : f.attempts i = some a) {n : UnitId} {row : AccountId}
    (hrequest : a.stage.request? a.order = some (n, row)) :
    f.step (.giveUp i)
      = { f with stores := { f.stores with ledger := f.stores.ledger.leaveQueue n row } }.setAttempt
          i (some ⟨a.order, .calling (.rollback n (.contention (.lockTimeout row)))⟩) := by
  simp only [step, hi, hrequest]
  rfl

/-- An attempt that has no unit is abandoned without a trace. -/
theorem step_abandon_eq (hi : f.attempts i = some a) (hunit : a.stage.unit? = none) :
    f.step (.abandon i) = f.setAttempt i none := by
  simp only [step, hi, hunit]

/-- An attempt that has a unit is abandoned with it. -/
theorem step_abandon_eq_drop (hi : f.attempts i = some a) {n : UnitId}
    (hunit : a.stage.unit? = some n) :
    f.step (.abandon i)
      = { f with stores := { f.stores with ledger := f.stores.ledger.dropUnit n } }.setAttempt
          i none := by
  simp only [step, hi, hunit]
  rfl

/-- The events that find something to do. A start needs a free name and an order that passes its
check, a later turn needs its attempt, and only who waits for a row can give up. -/
inductive Enabled (f : Floor) : Event → Prop where
  | setClock (now : Instant) : Enabled f (.setClock now)
  | opening (request : Opening) : Enabled f (.opening request)
  | rateChange (request : RateChange) : Enabled f (.rateChange request)
  | scheduleFault (fault : CommitFault) : Enabled f (.scheduleFault fault)
  | start {i : Nat} {r : TransferOrder} (hfree : f.attempts i = none) (hr : Checked r) :
      Enabled f (.start i r)
  | advance {i : Nat} {a : Pending} (hi : f.attempts i = some a) : Enabled f (.advance i)
  | giveUp {i : Nat} {a : Pending} {n : UnitId} {row : AccountId} (hi : f.attempts i = some a)
      (hrequest : a.stage.request? a.order = some (n, row)) : Enabled f (.giveUp i)
  | abandon {i : Nat} {a : Pending} (hi : f.attempts i = some a) : Enabled f (.abandon i)

/-- Every other event leaves the floor as it is. -/
theorem step_eq_or_enabled (f : Floor) (e : Event) : f.step e = f ∨ f.Enabled e := by
  cases e with
  | setClock now => exact .inr (.setClock now)
  | opening request => exact .inr (.opening request)
  | rateChange request => exact .inr (.rateChange request)
  | scheduleFault fault => exact .inr (.scheduleFault fault)
  | start i order =>
    rcases hi : f.attempts i with _ | a
    · rcases check_cases order with ⟨e, hcheck⟩ | ⟨-, hne, hpos⟩
      · exact .inl (by simp only [step, hi, hcheck])
      · exact .inr (.start hi ⟨hne, hpos⟩)
    · -- the name is in use
      exact .inl (by simp only [step, hi])
  | advance i =>
    rcases hi : f.attempts i with _ | a
    · exact .inl (by simp only [step, hi])
    · exact .inr (.advance hi)
  | giveUp i =>
    rcases hi : f.attempts i with _ | a
    · exact .inl (by simp only [step, hi])
    · rcases hrequest : a.stage.request? a.order with _ | ⟨n, row⟩
      · -- who does not wait cannot give up waiting
        exact .inl (by simp only [step, hi, hrequest])
      · exact .inr (.giveUp hi hrequest)
  | abandon i =>
    rcases hi : f.attempts i with _ | a
    · exact .inl (by simp only [step, hi])
    · exact .inr (.abandon hi)

/-! ## What an event does -/

/-- Where the plans of a floor come from: the floor before, or a decision on it. -/
def PlansFrom (f f' : Floor) : Prop :=
  ∀ i a p, f'.attempts i = some a → a.stage.plan? = some p →
    planOn a.order f.stores = .ok p ∨
      ∃ b, f.attempts i = some b ∧ b.order = a.order ∧ b.stage.plan? = some p

/-- What an event does to the outside of a floor. -/
inductive Evolves (f f' : Floor) : Prop where
  | quiet (hbooks : f'.stores.ledger.SameBooks f.stores.ledger)
      (hnext : f'.stores.ledger.nextAccount = f.stores.ledger.nextAccount)
      (hrates : f'.stores.rates = f.stores.rates) (hhistory : f'.history = f.history)
      (hplans : PlansFrom f f')
  | opens (request : Opening) (now : Instant)
      (hledger : f'.stores.ledger = (request.apply now f.stores.ledger).2)
      (hrates : f'.stores.rates = f.stores.rates) (hattempts : f'.attempts = f.attempts)
      (hhistory : f'.history
        = f.history ++ [.opening request now (request.apply now f.stores.ledger).1])
  | reprices (request : RateChange) (now : Instant)
      (hledger : f'.stores.ledger = f.stores.ledger)
      (hrates : f'.stores.rates = (request.apply now f.stores.rates).2)
      (hattempts : f'.attempts = f.attempts)
      (hhistory : f'.history
        = f.history ++ [.rateChange request now (request.apply now f.stores.rates).1])
  | posts {i : Nat} {r : TransferOrder} {n : UnitId} {receipt : TransferReceipt} {p : Plan}
      (hi : f.attempts i = some ⟨r, .calling (.commit n receipt)⟩) (hp : p.Sealed r)
      (hreceipt : p.Receipts receipt) (hcurrent : p.Current f.stores.ledger)
      (hbooks : f'.stores.ledger.SameBooks (p.post receipt f.stores.ledger))
      (hnext : f'.stores.ledger.nextAccount = f.stores.ledger.nextAccount)
      (hrates : f'.stores.rates = f.stores.rates)
      (hattempts : f'.attempts = (f.setAttempt i none).attempts)
      (hhistory : f'.history = f.history ++ [.transfer r receipt])

/-- No change of a rate brings one that is not positive into the table. -/
theorem positive_apply {rates : RateTable} (h : rates.Positive) (request : RateChange)
    (now : Instant) : (request.apply now rates).2.Positive := by
  rcases request with ⟨pair, rate⟩ | ⟨id, rate⟩
  · exact h.create pair rate now
  · exact h.update id rate now

/-- An opening is a move. -/
def openingMove (now : Instant) : Opening → Move
  | .empty owner currency => .openEmpty owner currency now
  | .funded owner currency balance => .openFunded owner currency balance now

/-- An opening is outside all units. -/
theorem step_opening (h : f.Orderly) (request : Opening) :
    (f.step (.opening request)).Orderly ∧ f.Evolves (f.step (.opening request)) := by
  constructor
  · refine h.ambient [openingMove f.stores.clock request] ?_ ?_ h.rates rfl
    · intro move hmove
      rw [List.mem_singleton.mp hmove]
      rcases request with _ | _
      all_goals rfl
    · rcases request with _ | _
      all_goals rfl
  · exact .opens request f.stores.clock rfl rfl rfl rfl

/-- A change of a rate does not touch the ledger. -/
theorem step_rateChange (h : f.Orderly) (request : RateChange) :
    (f.step (.rateChange request)).Orderly ∧ f.Evolves (f.step (.rateChange request)) := by
  constructor
  · exact h.ambient [] (fun _ hmove => absurd hmove List.not_mem_nil) rfl
      (positive_apply h.rates request f.stores.clock) rfl
  · exact .reprices request f.stores.clock rfl rfl rfl rfl

/-- Where the attempts are as they were, every plan is an old one. -/
theorem plansFrom_of_attempts (hattempts : f'.attempts = f.attempts) : PlansFrom f f' := by
  intro i a p ha hp
  rw [hattempts] at ha
  exact .inr ⟨a, ha, rfl, hp⟩

/-- An event that finds nothing to act on changes nothing. -/
theorem step_of_eq {e : Event} (h : f.Orderly) (hstep : f.step e = f) :
    (f.step e).Orderly ∧ f.Evolves (f.step e) := by
  rw [hstep]
  exact ⟨h, .quiet ⟨rfl, rfl, rfl⟩ rfl rfl rfl (plansFrom_of_attempts rfl)⟩

/-- The clock touches neither ledger nor rates. -/
theorem step_setClock (h : f.Orderly) (now : Instant) :
    (f.step (.setClock now)).Orderly ∧ f.Evolves (f.step (.setClock now)) := by
  constructor
  · exact h.ambient [] (fun _ hmove => absurd hmove List.not_mem_nil) rfl h.rates rfl
  · exact .quiet ⟨rfl, rfl, rfl⟩ rfl rfl rfl (plansFrom_of_attempts rfl)

/-- A fault waits on the schedule until a commit takes it, and shows nowhere else. -/
theorem step_scheduleFault (h : f.Orderly) (fault : CommitFault) :
    (f.step (.scheduleFault fault)).Orderly ∧ f.Evolves (f.step (.scheduleFault fault)) := by
  constructor
  · refine h.ambient [.scheduleFault fault] ?_ rfl h.rates rfl
    intro move hmove
    rw [List.mem_singleton.mp hmove]
    rfl
  · exact .quiet ⟨rfl, rfl, rfl⟩ rfl rfl rfl (plansFrom_of_attempts rfl)

/-! ## What an attempt does -/

/-- Where one attempt is replaced, the plans of the others are old ones, and only its own has to be
accounted for. -/
theorem plansFrom_setAttempt {g : Floor} {x : Option Pending}
    (hattempts : g.attempts = f.attempts)
    (hx : ∀ b p, x = some b → b.stage.plan? = some p →
      planOn b.order f.stores = .ok p ∨
        ∃ a, f.attempts i = some a ∧ a.order = b.order ∧ a.stage.plan? = some p) :
    PlansFrom f (g.setAttempt i x) := by
  intro j b p hb hp
  by_cases hj : j = i
  · subst hj
    have hb' : x = some b := (if_pos rfl).symm.trans hb
    exact hx b p hb' hp
  · have hb' : g.attempts j = some b := (if_neg hj).symm.trans hb
    rw [hattempts] at hb'
    exact .inr ⟨b, hb', rfl, hp⟩

/-- An attempt that has just started fits every ledger, and shares no unit, since it has none. -/
theorem Orderly.start (h : f.Orderly) (i : Nat) {r : TransferOrder} (hr : Checked r) :
    (f.setAttempt i (some ⟨r, .calling .begin⟩)).Orderly := by
  have hcases : ∀ j b, (f.setAttempt i (some ⟨r, .calling .begin⟩)).attempts j = some b →
      b = ⟨r, .calling .begin⟩ ∨ f.attempts j = some b := by
    intro j b hb
    by_cases hj : j = i
    · exact .inl (Option.some.inj ((if_pos hj).symm.trans hb)).symm
    · exact .inr ((if_neg hj).symm.trans hb)
  refine ⟨h.reached, h.rates, ?_, ?_, ?_⟩
  · intro j b hb
    rcases hcases j b hb with rfl | hold
    · exact hr
    · exact h.checked j b hold
  · intro j b hb
    rcases hcases j b hb with rfl | hold
    · exact .begin
    · exact h.fits j b hold
  · intro j k b c n hb hc hbn hcn
    -- an attempt that has just started has no unit yet
    rcases hcases j b hb with rfl | hold
    · cases hbn
    · rcases hcases k c hc with rfl | hold'
      · cases hcn
      · exact h.apart j k b c n hold hold' hbn hcn

/-- An attempt that starts has no plan, and touches neither ledger nor rates. -/
theorem step_start (h : f.Orderly) (hfree : f.attempts i = none) {r : TransferOrder}
    (hr : Checked r) :
    (f.step (.start i r)).Orderly ∧ f.Evolves (f.step (.start i r)) := by
  rw [step_start_eq hfree hr]
  constructor
  · exact h.start i hr
  · refine .quiet ⟨rfl, rfl, rfl⟩ rfl rfl rfl (plansFrom_setAttempt rfl ?_)
    rintro b p ⟨⟩ ⟨⟩

/-- The ledger after the call of an attempt, as moves. -/
theorem ledgerAfter_eq_run (r : TransferOrder) (now : Instant) (stage : Stage) (l : Ledger) :
    stage.ledgerAfter r now l = l.run (stage.move? r now).toList := by
  unfold Stage.ledgerAfter
  rcases stage.move? r now with _ | move
  all_goals rfl

/-- A call of an attempt in its own unit leaves a floor orderly, if what takes the place of the
attempt fits. -/
theorem Orderly.called (h : f.Orderly) (hi : f.attempts i = some a) {x : Option Pending}
    (hx : ∀ b, x = some b → b.order = a.order ∧
      Fits a.order (f.called a).stores.ledger b.stage ∧ (b.stage.unit? = a.stage.unit? ∨
        b.stage.unit? = some ⟨f.stores.ledger.nextUnit⟩)) :
    ((f.called a).setAttempt i x).Orderly := by
  refine h.act hi (a.stage.move? a.order f.stores.clock).toList ?_
    (ledgerAfter_eq_run _ _ _ _) rfl (fun j hj => if_neg hj) ?_
  · intro move hmove
    exact unit?_of_move? (Option.mem_toList.mp hmove)
  · intro b hb
    have hb' : x = some b := (if_pos rfl).symm.trans hb
    exact hx b hb'

/-- A call that publishes nothing is not seen from outside. -/
theorem called_quiet
    (hquiet : ∀ move, a.stage.move? a.order f.stores.clock = some move → ¬ move.Publishes) :
    (f.called a).stores.ledger.SameBooks f.stores.ledger ∧
      (f.called a).stores.ledger.nextAccount = f.stores.ledger.nextAccount ∧
      (f.called a).history = f.history := by
  have hposted : posted a f.stores.ledger = [] := by
    unfold posted
    split
    · next n receipt hstage =>
      -- a commit does publish
      have hpublishes : ¬ (Move.commit n).Publishes := by
        refine hquiet _ ?_
        rw [hstage]
        rfl
      exact absurd trivial hpublishes
    · rfl
  have hhistory : (f.called a).history = f.history := by
    unfold called
    rw [hposted, List.append_nil]
  unfold called Stage.ledgerAfter
  rcases hmove : a.stage.move? a.order f.stores.clock with _ | move
  · refine ⟨⟨rfl, rfl, rfl⟩, rfl, ?_⟩
    exact hhistory
  · have hsilent := hquiet move hmove
    exact ⟨Ledger.sameBooks_make _ move hsilent, Ledger.nextAccount_make _ move hsilent, hhistory⟩

/-- A commit that meets contention leaves no trace in the books or in the history. -/
theorem evolves_of_refused {r : TransferOrder} {n : UnitId} {receipt : TransferReceipt}
    (hf : f.stores.ledger.faults.head? = some .contention) :
    f.Evolves ((f.called ⟨r, .calling (.commit n receipt)⟩).setAttempt i none) := by
  have hposted : posted ⟨r, .calling (.commit n receipt)⟩ f.stores.ledger = [] := if_pos hf
  have hhistory : f.history ++ posted ⟨r, .calling (.commit n receipt)⟩ f.stores.ledger
      = f.history := by
    rw [hposted, List.append_nil]
  have hledger : (f.stores.ledger.commit n).2
      = ({ f.stores.ledger with faults := f.stores.ledger.faults.tail } : Ledger).dropUnit n :=
    congrArg Prod.snd (Ledger.commit_of_contention n hf)
  refine .quiet ?_ ?_ rfl hhistory (plansFrom_setAttempt rfl ?_)
  · change (f.stores.ledger.commit n).2.SameBooks _
    rw [hledger]
    exact ⟨rfl, rfl, rfl⟩
  · change (f.stores.ledger.commit n).2.nextAccount = _
    rw [hledger]
    rfl
  · rintro b q ⟨⟩

/-- A commit that is carried out posts the plan of the attempt, which is still a plan for the rows
as they are. -/
theorem evolves_of_posted {r : TransferOrder} {n : UnitId} {receipt : TransferReceipt} {p : Plan}
    (hi : f.attempts i = some ⟨r, .calling (.commit n receipt)⟩) (hp : p.Sealed r)
    (hb : Bears f.stores.ledger n p (.calling (.commit n receipt)))
    (hf : f.stores.ledger.faults.head? ≠ some .contention) :
    f.Evolves ((f.called ⟨r, .calling (.commit n receipt)⟩).setAttempt i none) := by
  obtain ⟨_, _, _, _, hcarry⟩ := hb.carrying
  obtain ⟨hreceipt, hcommit⟩ := bears_commit hb hf
  have hposted : posted ⟨r, .calling (.commit n receipt)⟩ f.stores.ledger
      = [.transfer r receipt] := if_neg hf
  have hledger : (f.stores.ledger.commit n).2 = _ := congrArg Prod.snd hcommit
  refine .posts hi hp hreceipt ⟨hcarry.source_row, hcarry.target_row⟩ ?_ ?_ rfl rfl ?_
  · change (f.stores.ledger.commit n).2.SameBooks _
    rw [hledger]
    exact ⟨rfl, rfl, rfl⟩
  · change (f.stores.ledger.commit n).2.nextAccount = _
    rw [hledger]
    rfl
  · exact congrArg (f.history ++ ·) hposted

/-- Whatever turn an attempt takes, the floor stays orderly, and the books are touched only if it
commits. -/
theorem step_advance (h : f.Orderly) (hi : f.attempts i = some a) :
    (f.step (.advance i)).Orderly ∧ f.Evolves (f.step (.advance i)) := by
  have hturn := turn_of_fits h.sound h.rates (h.checked i a hi) (h.fits i a hi)
  rw [step_advance_eq hi]
  rcases hturn with ⟨hquiet, hcall, hfits⟩ | ⟨hquiet, hcall, hfollows⟩ | hstage | ⟨hstage, hp, hb⟩
  · -- it waits
    rw [hcall]
    obtain ⟨hbooks, hnext, hhistory⟩ := called_quiet hquiet
    constructor
    · have hmoves : ∀ move ∈ (a.stage.move? a.order f.stores.clock).toList,
          move.unit? = a.stage.unit? := by
        intro move hmove
        exact unit?_of_move? (Option.mem_toList.mp hmove)
      refine h.act hi _ hmoves (ledgerAfter_eq_run _ _ _ _) rfl (fun _ _ => rfl) ?_
      intro b hb
      obtain rfl := Option.some.inj (hi.symm.trans hb)
      exact ⟨rfl, hfits, .inl rfl⟩
    · exact .quiet hbooks hnext rfl hhistory (plansFrom_of_attempts rfl)
  · -- it goes on
    rw [hcall]
    obtain ⟨hbooks, hnext, hhistory⟩ := called_quiet hquiet
    constructor
    · refine h.called hi ?_
      rintro b ⟨⟩
      exact ⟨rfl, hfollows.fits, hfollows.unit⟩
    · refine .quiet hbooks hnext rfl hhistory (plansFrom_setAttempt rfl ?_)
      rintro b p ⟨⟩ hp
      rcases hfollows.plan p hp with hold | hnew
      · exact .inr ⟨a, hi, rfl, hold⟩
      · exact .inl hnew
  · -- it rolls back
    obtain ⟨r, stage⟩ := a
    rename_i n e
    obtain rfl : stage = .calling (.rollback n e) := hstage
    constructor
    · refine h.called hi ?_
      rintro b ⟨⟩
    · refine .quiet ⟨rfl, rfl, rfl⟩ rfl rfl (List.append_nil _) (plansFrom_setAttempt rfl ?_)
      rintro b p ⟨⟩
  · -- it commits, and the next fault decides
    obtain ⟨r, stage⟩ := a
    rename_i n p receipt
    obtain rfl : stage = .calling (.commit n receipt) := hstage
    constructor
    · refine h.called hi ?_
      rintro b ⟨⟩
    · by_cases hf : f.stores.ledger.faults.head? = some .contention
      · exact evolves_of_refused hf
      · exact evolves_of_posted hi hp hb hf

/-- An attempt whose patience is over leaves the queue and turns to its rollback. -/
theorem step_giveUp (h : f.Orderly) (hi : f.attempts i = some a) {n : UnitId} {row : AccountId}
    (hrequest : a.stage.request? a.order = some (n, row)) :
    (f.step (.giveUp i)).Orderly ∧ f.Evolves (f.step (.giveUp i)) := by
  have hunit : a.stage.unit? = some n := unit?_of_request? hrequest
  rw [step_giveUp_eq hi hrequest]
  constructor
  · refine h.act hi [.leaveQueue n row] ?_ rfl rfl (fun j hj => if_neg hj) ?_
    · intro move hmove
      rw [List.mem_singleton.mp hmove, hunit]
      rfl
    · intro b hb
      obtain rfl := Option.some.inj ((if_pos rfl).symm.trans hb)
      obtain ⟨u, hu⟩ := (h.fits i a hi).unit_open hunit
      exact ⟨rfl, .refused (u := u) hu, .inl hunit.symm⟩
  · refine .quiet ⟨rfl, rfl, rfl⟩ rfl rfl rfl (plansFrom_setAttempt rfl ?_)
    rintro b p ⟨⟩ ⟨⟩

/-- An attempt whose caller has gone disappears, and its unit with it. -/
theorem step_abandon (h : f.Orderly) (hi : f.attempts i = some a) :
    (f.step (.abandon i)).Orderly ∧ f.Evolves (f.step (.abandon i)) := by
  have hgone : ∀ {g : Floor} (b : Pending), (g.setAttempt i none).attempts i = some b → False := by
    intro g b hb
    have hb' : none = some b := (if_pos rfl).symm.trans hb
    cases hb'
  -- an attempt between two calls leaves nothing behind; one that holds a unit leaves it to be
  -- dropped
  rcases hunit : a.stage.unit? with _ | n
  · rw [step_abandon_eq hi hunit]
    constructor
    · exact h.act hi [] (fun _ hmove => absurd hmove List.not_mem_nil) rfl rfl
        (fun j hj => if_neg hj) fun b hb => absurd (hgone b hb) not_false
    · refine .quiet ⟨rfl, rfl, rfl⟩ rfl rfl rfl (plansFrom_setAttempt rfl ?_)
      rintro b p ⟨⟩
  · rw [step_abandon_eq_drop hi hunit]
    constructor
    · refine h.act hi [.drop n] ?_ rfl rfl (fun j hj => if_neg hj)
        fun b hb => absurd (hgone b hb) not_false
      intro move hmove
      rw [List.mem_singleton.mp hmove, hunit]
      rfl
    · refine .quiet ⟨rfl, rfl, rfl⟩ rfl rfl rfl (plansFrom_setAttempt rfl ?_)
      rintro b p ⟨⟩

/-! ## Every floor -/

/-- An event leaves a floor orderly, and it does nothing but what `Evolves` says. -/
theorem step_orderly (h : f.Orderly) (e : Event) :
    (f.step e).Orderly ∧ f.Evolves (f.step e) := by
  rcases f.step_eq_or_enabled e with hidle | henabled
  · exact step_of_eq h hidle
  · cases henabled with
    | setClock now => exact step_setClock h now
    | opening request => exact step_opening h request
    | rateChange request => exact step_rateChange h request
    | scheduleFault fault => exact step_scheduleFault h fault
    | start hfree hr => exact step_start h hfree hr
    | advance hi => exact step_advance h hi
    | giveUp hi hrequest => exact step_giveUp h hi hrequest
    | abandon hi => exact step_abandon h hi

/-- On an empty floor there is nothing to be out of order. -/
theorem orderly_empty (clock : Instant) : (Floor.empty clock).Orderly where
  reached := ⟨[], rfl⟩
  rates := RateTable.positive_empty
  checked := by rintro i a ⟨⟩
  fits := by rintro i a ⟨⟩
  apart := by rintro i j a b n ⟨⟩

/-- What survives every event of an orderly floor holds in the end. -/
theorem Orderly.run_induction {P : Floor → Prop} (h : f.Orderly) (hf : P f)
    (hstep : ∀ f f', f.Orderly → f'.Orderly → f.Evolves f' → P f → P f') (events : List Event) :
    (f.run events).Orderly ∧ P (f.run events) := by
  induction events generalizing f with
  | nil => exact ⟨h, hf⟩
  | cons e events ih =>
    obtain ⟨h', hevolves⟩ := step_orderly h e
    exact ih h' (hstep f (f.step e) h h' hevolves hf)

/-- A floor stays orderly over any list of events. -/
theorem Orderly.run (h : f.Orderly) (events : List Event) : (f.run events).Orderly :=
  (h.run_induction trivial (fun _ _ _ _ _ _ => trivial) events).1

/-- What holds of an empty floor and survives every event holds of every floor. -/
theorem run_induction {P : Floor → Prop} (clock : Instant) (hempty : P (Floor.empty clock))
    (hstep : ∀ f f', f.Orderly → f'.Orderly → f.Evolves f' → P f → P f') (events : List Event) :
    ((Floor.empty clock).run events).Orderly ∧ P ((Floor.empty clock).run events) :=
  (orderly_empty clock).run_induction hempty hstep events

end Floor

end CountingHouse
