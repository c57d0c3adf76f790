/-
Transfers that overlap might as well have been made one after the other.

The order of commits is not the order that shows it. An attempt reads the rate without a lock,
so the rate may be replaced between the reading and the commit, and the transfer belongs before
that change although it was committed after it. The place of an attempt in the sequential order
is therefore where it made its plan, which is after the last reading and before the first writing.

So every attempt that has a plan keeps a `Slot` in the order as it is so far: up to there the
replay leads to stores at which the plan is made, and behind it nothing touches the two rows of
the attempt. The second part is what the locks are for. A commit puts its transfer into the
attempt's slot (`Slot.insert`), and everything behind goes on as before (`Replay.ahead`), the
slots of the other attempts included (`Slot.after_insert`), because their rows are different ones.
-/
import CountingHouse.Proofs.Transfer.Replay

set_option autoImplicit false

namespace CountingHouse

open Attempt

def Deed.isChange : Deed → Bool
  | opening .. | rateChange .. => true
  | transfer .. => false

/-- Whether a deed is a transfer from or to an account. -/
def Deed.touches (account : AccountId) : Deed → Bool
  | transfer r _ => r.source == account || r.target == account
  | opening .. | rateChange .. => false

/-- A sequential order of what was done on a floor, and the stores to which it leads. -/
structure Floor.Serialized (limit : Delay) (start : Stores) (f : Floor) (log : List Deed)
    (outcome : Stores) : Prop where
  perm : log.Perm f.history
  changes : log.filter Deed.isChange = f.history.filter Deed.isChange
  shared : ∀ account, log.filter (Deed.touches account) = f.history.filter (Deed.touches account)
  replay : Replay limit start log outcome
  agrees : f.stores.Agrees outcome

variable {limit : Delay} {start outcome outcome' s s' t : Stores} {r r' : TransferOrder}
variable {p q : Plan} {x : TransferReceipt} {before later before' later' log : List Deed}

/-! ## Slots -/

/-- Where a replay makes a plan and does not touch its rows any more. -/
structure Slot (limit : Delay) (start outcome : Stores) (r : TransferOrder) (p : Plan)
    (before later : List Deed) (s : Stores) : Prop where
  reaches : Replay limit start before s
  goesOn : Replay limit s later outcome
  plan : planOn r s = .ok p
  avoids : ∀ d ∈ later, d.Avoids r

/-- If a transfer leaves the rows of another order alone, then so does the other one its rows. -/
theorem Deed.Avoids.symm (h : (Deed.transfer r x).Avoids r') : (Deed.transfer r' x).Avoids r := by
  obtain ⟨⟨hss, hst⟩, hts, htt⟩ := h
  exact ⟨⟨hss.symm, hts.symm⟩, hst.symm, htt.symm⟩

/-- A deed that leaves the rows of an order alone is neither from nor to one of them. -/
theorem Deed.Avoids.not_touches {d : Deed} (h : d.Avoids r) :
    d.touches r.source = false ∧ d.touches r.target = false := by
  rcases d with - | - | ⟨r', x⟩
  · exact ⟨rfl, rfl⟩
  · exact ⟨rfl, rfl⟩
  · obtain ⟨⟨hss, hst⟩, hts, htt⟩ := h
    unfold Deed.touches
    constructor
    · rw [Bool.or_eq_false_iff]
      exact ⟨beq_false_of_ne hss, beq_false_of_ne hts⟩
    · rw [Bool.or_eq_false_iff]
      exact ⟨beq_false_of_ne hst, beq_false_of_ne htt⟩

/-- A transfer that is put into its slot is made there, and the rest goes on behind it. -/
theorem Slot.insert (h : Slot limit start outcome r p before later s) (hstart : start.Calm)
    (hr : Checked r) (hx : x.content = p.content) :
    ∃ t outcome', Redone limit (.transfer r x) s t ∧ t.Calm ∧ Ahead p s t ∧
      Replay limit t later outcome' ∧ Ahead p outcome outcome' := by
  have hs : s.Calm := h.reaches.calm hstart
  obtain ⟨hsuits, hcurrent⟩ := current_of_planOn hr h.plan
  obtain ⟨t, hmade, ht, hahead⟩ := Redone.of_planOn limit hs hr h.plan hx
  obtain ⟨outcome', hlater, hend⟩ := h.goesOn.ahead hs ht hsuits hcurrent h.avoids hahead
  exact ⟨t, outcome', hmade, ht, hahead, hlater, hend⟩

/-- The slot of another order after a transfer has been put into its own. -/
theorem Slot.after_insert (h : Slot limit start outcome r p before later s)
    (h' : Slot limit start outcome r' q before' later' s') (hstart : start.Calm)
    (hlog : before ++ later = before' ++ later') (hr : Checked r)
    (havoids : (Deed.transfer r x).Avoids r') (hmade : Redone limit (.transfer r x) s t)
    (ht : t.Calm) (hahead : Ahead p s t) (hlater : Replay limit t later outcome') :
    ∃ front back s'', before ++ .transfer r x :: later = front ++ back ∧
      Slot limit start outcome' r' q front back s'' := by
  rcases List.append_eq_append_iff.mp hlog with ⟨gap, rfl, rfl⟩ | ⟨gap, rfl, rfl⟩
  · -- the transfer comes first, so the other plan is made at stores that are ahead
    obtain ⟨s₀, hbefore, hgap⟩ := h'.reaches.split
    obtain rfl := h.reaches.eq hbefore
    obtain ⟨t', hgap', hlater'⟩ := hlater.split
    obtain ⟨hsuits, hcurrent⟩ := current_of_planOn hr h.plan
    have hahead' : Ahead p s' t' := by
      have hfree : ∀ d ∈ gap, d.Avoids r := fun d hd => h.avoids d (List.mem_append_left _ hd)
      obtain ⟨t'', hagain, hend⟩ :=
        hgap.ahead (h.reaches.calm hstart) ht hsuits hcurrent hfree hahead
      rw [← hgap'.eq hagain]
      exact hend
    refine ⟨before ++ .transfer r x :: gap, later', t', ?_, ?_⟩
    · rw [List.append_assoc, List.cons_append]
    · refine ⟨h.reaches.append (.cons hmade hgap'), hlater', ?_, h'.avoids⟩
      rw [hahead'.planOn_eq hsuits havoids.symm]
      exact h'.plan
  · -- the transfer comes later, behind what the other slot is about
    obtain ⟨s₀, hbefore, hgap⟩ := h.reaches.split
    obtain rfl := h'.reaches.eq hbefore
    refine ⟨before', gap ++ .transfer r x :: later, s₀, ?_, ?_⟩
    · rw [List.append_assoc]
    · refine ⟨h'.reaches, hgap.append (.cons hmade hlater), h'.plan, ?_⟩
      intro d hd
      rcases List.mem_append.mp hd with hd | hd
      · exact h'.avoids d (List.mem_append_left _ hd)
      · rcases List.mem_cons.mp hd with rfl | hd
        · exact havoids
        · exact h'.avoids d (List.mem_append_right _ hd)

/-! ## Attempts with plans -/

/-- An attempt that fits the ledger and has a plan bears it in a unit. -/
theorem Attempt.Fits.bears_of_plan {l : Ledger} {stage : Stage} (hf : Fits r l stage)
    (hp : stage.plan? = some p) :
    ∃ n, stage.unit? = some n ∧ p.Sealed r ∧ Bears l n p stage := by
  rcases hf with - | hg | ⟨hq, hb⟩ | -
  · cases hp
  · rw [hg.plan?_eq] at hp
    cases hp
  · rename_i n q
    rw [hb.plan?_eq hq.suits] at hp
    obtain rfl := Option.some.inj hp
    exact ⟨n, hb.unit?_eq, hq, hb⟩
  · cases hp

/-- An attempt that bears a plan holds both of its rows. -/
theorem Attempt.Bears.copies {l : Ledger} {n : UnitId} {stage : Stage} (hb : Bears l n p stage) :
    ∃ u, l.unit? n = some u ∧ (∃ c, u.copy? p.source.id = some c) ∧
      ∃ c, u.copy? p.target.id = some c := by
  obtain ⟨a, b, _, _, hcarry⟩ := hb.carrying
  obtain ⟨u, hu, hcarries⟩ := hcarry.unit
  refine ⟨u, hu, ⟨a, ?_⟩, b, ?_⟩
  · rw [← hcarry.source_id]
    exact hcarries.left
  · rw [← hcarry.target_id]
    exact hcarries.right

namespace Floor

variable {f f' : Floor} {i j : Nat} {a b : Pending}

/-- Two attempts that have plans have them between different rows, because of the locks. -/
theorem Orderly.avoids (h : f.Orderly) (hij : i ≠ j) (ha : f.attempts i = some a)
    (hb : f.attempts j = some b) (hp : a.stage.plan? = some p) (hq : b.stage.plan? = some q) :
    (Deed.transfer a.order x).Avoids b.order := by
  obtain ⟨n, hn, ⟨hsuits, -, -⟩, hbears⟩ := (h.fits i a ha).bears_of_plan hp
  obtain ⟨m, hm, ⟨hsuits', -, -⟩, hbears'⟩ := (h.fits j b hb).bears_of_plan hq
  obtain ⟨u, hu, ⟨c, hc⟩, d, hd⟩ := hbears.copies
  obtain ⟨v, hv, ⟨c', hc'⟩, d', hd'⟩ := hbears'.copies
  -- two units, and no row is held by both
  have hnm : m ≠ n := by
    rintro rfl
    exact hij (h.apart i j a b m ha hb hn hm)
  have hrow : ∀ {row row' : AccountId} {e e' : Account}, u.copy? row = some e →
      v.copy? row' = some e' → row ≠ row' := by
    rintro row _ e e' he he' rfl
    exact hnm (h.sound.unit_eq hu hv he he')
  rw [hsuits.source_id] at hc
  rw [hsuits.target_id] at hd
  rw [hsuits'.source_id] at hc'
  rw [hsuits'.target_id] at hd'
  exact ⟨⟨hrow hc hc', hrow hc hd'⟩, hrow hd hc', hrow hd hd'⟩

def Slotted (limit : Delay) (start : Stores) (f : Floor) (log : List Deed) (outcome : Stores) :
    Prop :=
  ∀ i a p, f.attempts i = some a → a.stage.plan? = some p →
    ∃ before later s, log = before ++ later ∧
      Slot limit start outcome a.order p before later s

/-! ## One event -/

/-- What only the attempts themselves notice leaves the order as it is. -/
theorem Serialized.of_same (h : f.Serialized limit start log outcome)
    (hagrees : f'.stores.Agrees f.stores) (hhistory : f'.history = f.history) :
    f'.Serialized limit start log outcome := by
  refine ⟨?_, ?_, ?_, h.replay, hagrees.trans h.agrees⟩
  · rw [hhistory]
    exact h.perm
  · rw [hhistory]
    exact h.changes
  · rw [hhistory]
    exact h.shared

/-- A plan that has just been made has its slot at the end. -/
theorem Slotted.quiet (h : f.Slotted limit start log outcome)
    (hserial : f.Serialized limit start log outcome) (hplans : PlansFrom f f') :
    f'.Slotted limit start log outcome := by
  intro i a p ha hp
  rcases hplans i a p ha hp with hnew | ⟨b, hb, horder, hold⟩
  · -- the outcome of the whole replay agrees with the floor on which the plan was made
    refine ⟨log, [], outcome, (List.append_nil log).symm, hserial.replay, .nil outcome, ?_, ?_⟩
    · rw [planOn_of_agrees hserial.agrees]
      exact hnew
    · exact fun d hd => absurd hd List.not_mem_nil
  · rw [← horder]
    exact h i b p hb hold

/-- A deed that can be done again at the end of the replay goes to the end of the order. -/
theorem Serialized.append {d : Deed} (h : f.Serialized limit start log outcome)
    (hd : Redone limit d outcome outcome') (hhistory : f'.history = f.history ++ [d])
    (hagrees : f'.stores.Agrees outcome') :
    f'.Serialized limit start (log ++ [d]) outcome' := by
  refine ⟨?_, ?_, ?_, h.replay.append (.single hd), hagrees⟩
  · rw [hhistory]
    exact h.perm.append_right [d]
  · rw [hhistory, List.filter_append, List.filter_append, h.changes]
  · intro account
    rw [hhistory, List.filter_append, List.filter_append, h.shared]

/-- A deed at the end that leaves all rows of orders alone leaves all slots where they are. -/
theorem Slotted.append {d : Deed} (h : f.Slotted limit start log outcome)
    (hd : Redone limit d outcome outcome') (hfree : ∀ r, d.Avoids r)
    (hattempts : f'.attempts = f.attempts) :
    f'.Slotted limit start (log ++ [d]) outcome' := by
  intro i a p ha hp
  rw [hattempts] at ha
  obtain ⟨before, later, s, rfl, hslot⟩ := h i a p ha hp
  refine ⟨before, later ++ [d], s, List.append_assoc .., hslot.reaches,
    hslot.goesOn.append (.single hd), hslot.plan, ?_⟩
  intro e he
  rcases List.mem_append.mp he with he | he
  · exact hslot.avoids e he
  · rw [List.mem_singleton.mp he]
    exact hfree a.order

/-- A commit takes its place before everything that has happened since the plan was made. -/
theorem Serialized.insert (h : f.Serialized limit start (before ++ later) outcome)
    (havoids : ∀ d ∈ later, d.Avoids r) (hhistory : f'.history = f.history ++ [.transfer r x])
    (hreplay : Replay limit start (before ++ .transfer r x :: later) outcome')
    (hagrees : f'.stores.Agrees outcome') :
    f'.Serialized limit start (before ++ .transfer r x :: later) outcome' := by
  refine ⟨?_, ?_, ?_, hreplay, hagrees⟩
  · rw [hhistory]
    calc before ++ .transfer r x :: later
        |>.Perm (.transfer r x :: (before ++ later)) := List.perm_middle
      _ |>.Perm (.transfer r x :: f.history) := h.perm.cons _
      _ |>.Perm (f.history ++ [.transfer r x]) := (List.perm_append_singleton _ _).symm
  · -- a transfer is no change, wherever it is put
    have hchanges := h.changes
    rw [List.filter_append] at hchanges
    have hnone : [Deed.transfer r x].filter Deed.isChange = [] := rfl
    rw [hhistory, List.filter_append, List.filter_append, ← hchanges, hnone, List.append_nil]
    rfl
  · intro account
    have hshared := h.shared account
    rw [List.filter_append] at hshared
    rw [hhistory, List.filter_append, List.filter_append, ← hshared]
    by_cases htouches : (Deed.transfer r x).touches account = true
    · -- then nothing behind the slot touches the account
      have hnone : later.filter (Deed.touches account) = [] := by
        rw [List.filter_eq_nil_iff]
        intro d hd
        obtain ⟨hsource, htarget⟩ := (havoids d hd).not_touches
        rcases Bool.or_eq_true_iff.mp htouches with heq | heq
        · rw [← eq_of_beq heq, hsource]
          exact Bool.false_ne_true
        · rw [← eq_of_beq heq, htarget]
          exact Bool.false_ne_true
      rw [List.filter_cons_of_pos htouches, List.filter_cons_of_pos htouches, hnone,
        List.append_nil, List.filter_nil]
    · rw [List.filter_cons_of_neg htouches, List.filter_cons_of_neg htouches, List.filter_nil,
        List.append_nil]

/-- The other attempts keep a slot when a transfer takes its own. -/
theorem Slotted.insert (h : f.Slotted limit start (before ++ later) outcome) (hf : f.Orderly)
    (hstart : start.Calm) (ha : f.attempts i = some a) (hp : a.stage.plan? = some p)
    (hslot : Slot limit start outcome a.order p before later s)
    (hmade : Redone limit (.transfer a.order x) s t) (ht : t.Calm) (hahead : Ahead p s t)
    (hlater : Replay limit t later outcome')
    (hattempts : f'.attempts = (f.setAttempt i none).attempts) :
    f'.Slotted limit start (before ++ .transfer a.order x :: later) outcome' := by
  intro j b q hb hq
  rw [hattempts] at hb
  by_cases hj : j = i
  · have hnone : none = some b := (if_pos hj).symm.trans hb
    exact absurd hnone (by simp)
  · have hb' : f.attempts j = some b := (if_neg hj).symm.trans hb
    obtain ⟨before', later', s', hlog, hslot'⟩ := h j b q hb' hq
    have havoids : (Deed.transfer a.order x).Avoids b.order :=
      hf.avoids (Ne.symm hj) ha hb' hp hq
    exact hslot.after_insert hslot' hstart hlog (hf.checked i a ha) havoids hmade ht hahead hlater

/-! ## Every floor -/

/-- A sequential order in which every attempt that has a plan has a slot. -/
def Serial (limit : Delay) (start : Stores) (f : Floor) : Prop :=
  ∃ log outcome, f.Serialized limit start log outcome ∧ f.Slotted limit start log outcome

/-- A deed that is no transfer goes to the end, and order and slots remain. -/
theorem Serial.append {d : Deed} (hlog : f.Serialized limit start log outcome)
    (hslots : f.Slotted limit start log outcome) (hd : Redone limit d outcome outcome')
    (hfree : ∀ r, d.Avoids r) (hhistory : f'.history = f.history ++ [d])
    (hattempts : f'.attempts = f.attempts) (hagrees : f'.stores.Agrees outcome') :
    f'.Serial limit start :=
  ⟨log ++ [d], outcome', hlog.append hd hhistory hagrees, hslots.append hd hfree hattempts⟩

/-- An account that is opened on the floor can be opened at the end of the replay. -/
theorem Serial.opens (hlog : f.Serialized limit start log outcome)
    (hslots : f.Slotted limit start log outcome) (request : Opening) (now : Instant)
    (hledger : f'.stores.ledger = (request.apply now f.stores.ledger).2)
    (hrates : f'.stores.rates = f.stores.rates) (hattempts : f'.attempts = f.attempts)
    (hhistory : f'.history
      = f.history ++ [.opening request now (request.apply now f.stores.ledger).1]) :
    f'.Serial limit start := by
  have hagrees := hlog.agrees
  have htaken : ∀ owner currency, taken outcome.ledger.accounts owner currency
      = taken f.stores.ledger.accounts owner currency := by
    intro owner currency
    rw [hagrees.accounts]
  rcases request.apply_congr now hagrees.nextAccount htaken with
    ⟨e, hsame, hsame'⟩ | ⟨a, hid, hbalance, hopened, hopened'⟩
  · -- refused on the floor and refused in the replay, for the same reason
    rw [hsame] at hledger hhistory
    refine .append hlog hslots (.opening hsame') (fun _ => trivial) hhistory hattempts ?_
    refine Stores.Agrees.trans (Stores.agrees_of_sameBooks ?_ ?_ hrates) hagrees
    · rw [hledger]
      exact ⟨rfl, rfl, rfl⟩
    · rw [hledger]
  · rw [hopened] at hledger hhistory
    refine .append hlog hslots (.opening hopened') (fun _ => trivial) hhistory hattempts ?_
    refine ⟨?_, ?_, ?_, ?_, ?_⟩
    · rw [hledger]
      exact congrArg (· ++ [a]) hagrees.accounts
    · rw [hledger]
      exact congrArg (· + 1) hagrees.nextAccount
    · rw [hrates]
      exact hagrees.rates
    · rw [hledger]
      exact hagrees.transfers
    · rw [hledger]
      exact hagrees.entries

/-- A change of rates comes last in the replay as well. -/
theorem Serial.reprices (hlog : f.Serialized limit start log outcome)
    (hslots : f.Slotted limit start log outcome) (request : RateChange) (now : Instant)
    (hledger : f'.stores.ledger = f.stores.ledger)
    (hrates : f'.stores.rates = (request.apply now f.stores.rates).2)
    (hattempts : f'.attempts = f.attempts)
    (hhistory : f'.history
      = f.history ++ [.rateChange request now (request.apply now f.stores.rates).1]) :
    f'.Serial limit start := by
  have hd : Redone limit (.rateChange request now (request.apply now f.stores.rates).1) outcome
      { outcome with rates := (request.apply now f.stores.rates).2 } := by
    refine .rateChange ?_
    rw [hlog.agrees.rates]
  refine .append hlog hslots hd (fun _ => trivial) hhistory hattempts ?_
  obtain ⟨haccounts, hnext, -, htransfers, hentries⟩ := hlog.agrees
  rw [← hledger] at haccounts hnext htransfers hentries
  exact ⟨haccounts, hnext, hrates.symm, htransfers, hentries⟩

/-- What an event does has its place in the order, and the slots of the attempts remain. -/
theorem Serial.evolves (hserial : f.Serial limit start) (hstart : start.Calm) (h : f.Orderly)
    (hevolves : f.Evolves f') : f'.Serial limit start := by
  obtain ⟨log, outcome, hlog, hslots⟩ := hserial
  rcases hevolves with ⟨hbooks, hnext, hrates, hhistory, hplans⟩ |
    ⟨request, now, hledger, hrates, hattempts, hhistory⟩ |
    ⟨request, now, hledger, hrates, hattempts, hhistory⟩ |
    ⟨hi, hp, hreceipt, -, hbooks, hnext, hrates, hattempts, hhistory⟩
  · have hagrees := Stores.agrees_of_sameBooks hbooks hnext hrates
    exact ⟨log, outcome, hlog.of_same hagrees hhistory, hslots.quiet hlog hplans⟩
  · exact .opens hlog hslots request now hledger hrates hattempts hhistory
  · exact .reprices hlog hslots request now hledger hrates hattempts hhistory
  · -- a commit: the transfer goes into the slot of its attempt
    rename_i i r n receipt p
    have hplan : Stage.plan? (.calling (.commit n receipt)) = some p :=
      congrArg some (hreceipt.plan_eq hp.suits)
    obtain ⟨before, later, s, rfl, hslot⟩ := hslots i _ p hi hplan
    obtain ⟨t, outcome', hmade, ht, hahead, hlater, hend⟩ :=
      hslot.insert hstart (h.checked i _ hi) hreceipt.content_eq
    have hposted : Ahead p f.stores f'.stores := Ahead.of_post hreceipt hbooks hnext hrates
    have hagrees : f'.stores.Agrees outcome' := hposted.agrees hlog.agrees hend
    have hreplay := hslot.reaches.append (.cons hmade hlater)
    exact ⟨_, outcome', hlog.insert hslot.avoids hhistory hreplay hagrees,
      hslots.insert h hstart hi hplan hslot hmade ht hahead hlater hattempts⟩

/-- The order of an empty floor is empty. -/
theorem serial_empty (limit : Delay) (clock : Instant) :
    (Floor.empty clock).Serial limit { clock } := by
  refine ⟨[], { clock }, ?_, ?_⟩
  · exact ⟨.nil, rfl, fun _ => rfl, .nil _, rfl, rfl, rfl, .nil, .nil⟩
  · rintro i a p ⟨⟩

/-- Whatever happens in whatever order, there is a sequential order in which the same was
done. -/
theorem serializable_run (limit : Delay) (clock : Instant) (events : List Event) :
    ∃ log outcome, ((Floor.empty clock).run events).Serialized limit { clock } log outcome := by
  obtain ⟨-, log, outcome, hserialized, -⟩ := run_induction clock (serial_empty limit clock)
    (fun f f' h _ hevolves hf => hf.evolves (calm_empty clock) h hevolves) events
  exact ⟨log, outcome, hserialized⟩

end Floor

end CountingHouse
