/-
An attempt that has the ledger to itself.

Nobody else has locked a row or acts meanwhile, so no request for a row waits, nothing that the
attempt has read changes, and the attempt runs through in one go. `Lone` says how the stores
look meanwhile: the open units are known, and the books, the faults and the rates are those of
the beginning. Other units may be open as long as they hold no row and wait for none
(`FreeFor`). The stages give the rest (`gathers_advance`, `bears_advance`): what the attempt
decides at any point is what `planOn` says of the beginning, and the decision is carried
out by the commit.

`Ended` lists the three ways in which that can end, with the ledger that each of them
leaves; `finishes_attempt` says that there is no fourth.
-/
import CountingHouse.Proofs.Ledger.Queue
import CountingHouse.Proofs.Transfer.Stages

set_option autoImplicit false

namespace CountingHouse

/-! ## Ledgers with one unit -/

namespace Ledger

variable {l l₀ : Ledger} {n : UnitId} {units : List UnitId}

/-- A ledger on which only these units are open and whose outside is that of an earlier
one. -/
structure Kept (l₀ l : Ledger) (units : List UnitId) : Prop where
  books : l.SameBooks l₀
  faults : l.faults = l₀.faults
  nextAccount : l.nextAccount = l₀.nextAccount
  units : l.units.map OpenUnit.id = units

/-- A unit that goes on changes nothing that is seen from outside. -/
theorem Kept.make (h : Kept l₀ l units) {move : Move} (hown : move.unit? = some n)
    (hends : ¬ move.Ends n) : Kept l₀ (l.make move) units := by
  have hbooks : (l.make move).SameBooks l₀ :=
    (sameBooks_make l move (not_publishes hown hends)).trans h.books
  have hnext : (l.make move).nextAccount = l.nextAccount :=
    nextAccount_make l move (not_publishes hown hends)
  -- it takes no fault
  have hfaults : (l.make move).faults = l.faults := by
    have heffect := l.effect_make move
    generalize l.make move = l' at heffect ⊢
    cases heffect with
    | scheduled fault => cases hown
    | applied _ _ => exact absurd (.inl (by rw [Option.some.inj hown])) hends
    | refused k => exact absurd (.inl (by rw [Option.some.inj hown])) hends
    | _ => rfl
  have hbegin : move ≠ .begin := by
    rintro rfl
    cases hown
  have hothers : ∀ k, ¬ move.Ends k := by
    intro k hk
    rcases hk with rfl | rfl
    · exact hends (.inl (by rw [Option.some.inj hown]))
    · exact hends (.inr (by rw [Option.some.inj hown]))
  have hunits : (l.make move).openIds = l.openIds := openIds_make l hbegin hothers
  exact ⟨hbooks, hfaults.trans h.faults, hnext.trans h.nextAccount, hunits.trans h.units⟩

/-- The end of a unit leaves the others open. -/
theorem Kept.drop (h : Kept l₀ l (units ++ [n])) (hn : n ∉ units) :
    Kept l₀ (l.dropUnit n) units := by
  refine ⟨h.books, h.faults, h.nextAccount, ?_⟩
  have hopen : l.openIds = units ++ [n] := h.units
  have hothers : (units.filter fun m => m != n) = units := by
    rw [List.filter_eq_self]
    intro m hm
    have hne : m ≠ n := by
      rintro rfl
      exact hn hm
    simpa using hne
  show (l.dropUnit n).openIds = units
  rw [openIds_dropUnit, hopen, List.filter_append, hothers]
  simp

/-! ## Rows that are free -/

/-- A ledger on which no row is locked: no open unit holds one, and nobody waits. -/
structure Unlocked (l : Ledger) : Prop where
  held : ∀ u ∈ l.units, u.held = []
  queue : l.queue = []

/-- A ledger on which nobody but one unit has locked a row or waits for one. -/
structure FreeFor (l : Ledger) (n : UnitId) : Prop where
  held : ∀ u ∈ l.units, u.id ≠ n → u.held = []
  queue : ∀ ticket ∈ l.queue, ticket.1 = n

/-- Where nothing is locked and nobody waits, the rows are free for a unit that begins. -/
theorem Unlocked.beginUnit (h : l.Unlocked) : l.beginUnit.2.FreeFor ⟨l.nextUnit⟩ := by
  constructor
  · intro u hu hne
    rcases List.mem_append.mp hu with hu | hu
    · exact h.held u hu
    · rw [List.mem_singleton.mp hu]
  · intro ticket hticket
    have hnone : ticket ∈ l.queue := hticket
    rw [h.queue] at hnone
    exact absurd hnone List.not_mem_nil

/-- With the only unit that may have locked something goes every lock. -/
theorem FreeFor.dropUnit (h : l.FreeFor n) : (l.dropUnit n).Unlocked := by
  constructor
  · intro u hu
    obtain ⟨hmem, hne⟩ := List.mem_filter.mp hu
    exact h.held u hmem (by simpa using hne)
  · show (l.queue.filter fun ticket => ticket.1 != n) = []
    rw [List.filter_eq_nil_iff]
    intro ticket hticket
    simp [h.queue ticket hticket]

/-- What a unit does to itself takes no row from itself. -/
theorem FreeFor.modifyUnit (h : l.FreeFor n) (change : OpenUnit → OpenUnit)
    (hchange : ∀ u, (change u).id = u.id) : (l.modifyUnit n change).FreeFor n := by
  refine ⟨fun u hu hne => ?_, h.queue⟩
  obtain ⟨v, hv, rfl⟩ := List.mem_map.mp hu
  by_cases hid : (v.id == n) = true
  · rw [if_pos hid, hchange] at hne
    exact absurd (beq_iff_eq.mp hid) hne
  · rw [if_neg hid] at hne ⊢
    exact h.held v hv hne

/-- What a unit does touches no other unit, and only its own tickets get into the queue. -/
theorem FreeFor.make (h : l.FreeFor n) {move : Move} (hown : move.unit? = some n)
    (hends : ¬ move.Ends n) : (l.make move).FreeFor n := by
  have heffect := l.effect_make move
  generalize l.make move = l' at heffect ⊢
  cases heffect with
  | begun => cases hown
  | applied _ _ => exact absurd (.inl (by rw [Option.some.inj hown])) hends
  | refused k => exact absurd (.inl (by rw [Option.some.inj hown])) hends
  | dropped k => exact absurd (.inr (by rw [Option.some.inj hown])) hends
  | @granted k row u a _ _ _ _ =>
    obtain rfl : k = n := Option.some.inj hown
    have hleft : ({ l with queue := l.queue.filter (· != (k, row)) } : Ledger).FreeFor k :=
      ⟨h.held, fun ticket ht => h.queue ticket (List.mem_filter.mp ht).1⟩
    exact hleft.modifyUnit _ fun _ => rfl
  | waits _ _ _ hqueue =>
    refine ⟨h.held, fun ticket ht => ?_⟩
    -- the new ticket is the unit's own, like those before
    rcases hqueue ticket ht with hold | rfl
    · exact h.queue ticket hold
    · exact Option.some.inj hown
  | left k row => exact ⟨h.held, fun ticket ht => h.queue ticket (List.mem_filter.mp ht).1⟩
  | recordedTransfer k source target amount sourceAmount exchangeRate now =>
    obtain rfl : k = n := Option.some.inj hown
    have hnumbered : ({ l with nextTransfer := l.nextTransfer + 1 } : Ledger).FreeFor k :=
      ⟨h.held, h.queue⟩
    exact hnumbered.modifyUnit _ fun _ => rfl
  | recordedEntry k account transfer amount now =>
    obtain rfl : k = n := Option.some.inj hown
    have hnumbered : ({ l with nextEntry := l.nextEntry + 1 } : Ledger).FreeFor k :=
      ⟨h.held, h.queue⟩
    exact hnumbered.modifyUnit _ fun _ => rfl
  | @written k row balance u a _ _ _ =>
    obtain rfl : k = n := Option.some.inj hown
    exact h.modifyUnit _ fun _ => rfl
  | _ => exact ⟨h.held, h.queue⟩

/-- Whoever is alone may lock every row. -/
theorem FreeFor.mayLock (h : l.FreeFor n) (row : AccountId) : l.mayLock n row = true := by
  unfold Ledger.mayLock
  rw [Bool.and_eq_true]
  constructor
  · rw [List.all_eq_true]
    intro u hu
    by_cases hid : u.id = n
    · simp [hid]
    · simp [OpenUnit.holds, h.held u hu hid]
  · rw [Option.all_eq_true]
    intro ticket hticket
    exact beq_iff_eq.mpr (h.queue ticket (List.mem_of_find?_eq_some hticket))

/-! ## Numbers that are left -/

/-- Two ledgers that draw the same numbers for what is recorded next. -/
def SameNumbers (l' l : Ledger) : Prop :=
  l'.nextTransfer = l.nextTransfer ∧ l'.nextEntry = l.nextEntry

/-- Asking for a row draws no number. -/
theorem sameNumbers_lock (n : UnitId) (row : AccountId) (l : Ledger) :
    (l.lock n row).2.SameNumbers l := by
  rcases lock_cases l n row with ⟨u, a, -, -, hlock⟩ | ⟨-, hlock⟩ |
    ⟨u, a, -, -, -, -, hlock⟩ | ⟨u, a, queue, -, -, -, -, -, hlock⟩
  all_goals
    rw [hlock]
    exact ⟨rfl, rfl⟩

/-- Where no unit is open, nobody waits. -/
theorem Sound.queue_eq_nil (h : l.Sound) (hidle : l.units = []) : l.queue = [] := by
  rw [List.eq_nil_iff_forall_not_mem]
  intro ticket hticket
  obtain ⟨u, hu⟩ := h.queued ticket hticket
  have hmem := mem_units_of_unit? hu
  rw [hidle] at hmem
  exact absurd hmem List.not_mem_nil

end Ledger

namespace Attempt

variable {r : TransferOrder} {s s₀ s' : Stores} {n : UnitId} {stage : Stage} {limit : Delay}

/-! ## A run without company -/

/-- A call that is answered at once goes through without company. -/
theorem alone_callOf {outcome : Outcome stage.callsLeft}
    (h : (advance .memory r stage s).1 = some outcome) :
    (callOf .memory limit r stage).alone s = (outcome, (advance .memory r stage s).2) := by
  have hpair : advance .memory r stage s = (some outcome, (advance .memory r stage s).2) :=
    Prod.ext h rfl
  rcases stage with call | n | ⟨n, lower⟩
  · exact Prod.ext (Option.some.inj h) rfl
  · unfold callOf Procedure.alone
    rw [hpair]
    rfl
  · unfold callOf Procedure.alone
    rw [hpair]
    rfl

/-- A stage that goes on is followed by the run of the later stage. -/
theorem alone_of_next {later : Stage} {closer : later.callsLeft < stage.callsLeft}
    (h : (advance .memory r stage s).1 = some (.next later closer)) :
    (procedure .memory limit r stage).alone s
      = (procedure .memory limit r later).alone (advance .memory r stage s).2 := by
  rw [procedure, Procedure.alone_bind, alone_callOf h]

/-- A stage that ends the attempt ends the run. -/
theorem alone_of_over {result : Except BankError TransferReceipt}
    (h : (advance .memory r stage s).1 = some (.over result)) :
    (procedure .memory limit r stage).alone s = (result, (advance .memory r stage s).2) := by
  rw [procedure, Procedure.alone_bind, alone_callOf h]
  rfl

/-- Stores during an attempt that is alone with them. -/
structure Lone (s₀ s : Stores) (units : List UnitId) : Prop where
  sound : s.ledger.Sound
  kept : s₀.ledger.Kept s.ledger units
  clock : s.clock = s₀.clock
  rates : s.rates = s₀.rates
  sessions : s.sessions = s₀.sessions

/-- The stores keep their outside while the attempt goes on. -/
theorem Lone.advance {units : List UnitId} (h : Lone s₀ s units) (hunit : stage.unit? = some n)
    (hends : ∀ move, stage.move? r s.clock = some move → ¬ move.Ends n) :
    Lone s₀ (advance .memory r stage s).2 units := by
  rw [advance_stores]
  rcases hmove : stage.move? r s.clock with _ | move
  · have hledger : stage.ledgerAfter r s.clock s.ledger = s.ledger := by
      unfold Stage.ledgerAfter
      rw [hmove]
    rw [hledger]
    exact h
  · have hledger : stage.ledgerAfter r s.clock s.ledger = s.ledger.make move := by
      unfold Stage.ledgerAfter
      rw [hmove]
    have hown : move.unit? = some n := (unit?_of_move? hmove).trans hunit
    rw [hledger]
    exact ⟨h.sound.make move, h.kept.make hown (hends move hmove), h.clock, h.rates, h.sessions⟩

/-- An attempt at work: its unit has joined those of the beginning, and nobody else has locked a
row. -/
structure Working (s₀ s : Stores) (n : UnitId) : Prop where
  lone : Lone s₀ s (s₀.ledger.openIds ++ [n])
  free : s.ledger.FreeFor n
  fresh : n ∉ s₀.ledger.openIds

/-- A call that does not end the unit leaves the attempt at work. -/
theorem Working.advance (h : Working s₀ s n) (hunit : stage.unit? = some n)
    (hends : ∀ move, stage.move? r s.clock = some move → ¬ move.Ends n) :
    Working s₀ (advance .memory r stage s).2 n := by
  refine ⟨h.lone.advance hunit hends, ?_, h.fresh⟩
  rw [advance_stores]
  show (stage.ledgerAfter r s.clock s.ledger).FreeFor n
  unfold Stage.ledgerAfter
  rcases hmove : stage.move? r s.clock with _ | move
  · exact h.free
  · exact h.free.make ((unit?_of_move? hmove).trans hunit) (hends move hmove)

/-- The decision depends only on what the stores keep. -/
theorem Lone.planOn_eq {units : List UnitId} (h : Lone s₀ s units) : planOn r s = planOn r s₀ := by
  have haccount : ∀ row, s.ledger.account? row = s₀.ledger.account? row := h.kept.books.reads.1
  exact planOn_congr (haccount _) (haccount _) h.rates

/-- How an attempt alone ends: with what result, and with which books and faults. -/
inductive Ended (r : TransferOrder) (s : Stores) :
    Except BankError TransferReceipt → Ledger → Prop where
  | refused {e : BankError} (hplan : planOn r s = .error e) : Ended r s (.error e) s.ledger
  | contention {p : Plan} (hplan : planOn r s = .ok p)
      (hfault : s.ledger.faults.head? = some .contention) :
      Ended r s (.error (.contention .concurrentUpdate))
        { s.ledger with faults := s.ledger.faults.tail }
  | applied {p : Plan} {receipt : TransferReceipt} {result : Except BankError TransferReceipt}
      (hplan : planOn r s = .ok p) (hfault : s.ledger.faults.head? ≠ some .contention)
      (hreceipt : p.Receipts receipt)
      (hresult : result = (Ledger.acknowledgement s.ledger.faults.head?).map fun _ => receipt) :
      Ended r s result (p.post receipt { s.ledger with faults := s.ledger.faults.tail })

/-- An attempt alone comes to an end of that kind. Its unit is gone with its locks, and it has
drawn no number unless it had a plan. -/
structure Finishes (r : TransferOrder) (s₀ : Stores)
    (run : Except BankError TransferReceipt × Stores) : Prop where
  ended : ∃ l, Ended r s₀ run.1 l ∧ Lone { s₀ with ledger := l } run.2 s₀.ledger.openIds
  unlocked : run.2.ledger.Unlocked
  undrawn : ∀ e, planOn r s₀ = .error e → run.2.ledger.SameNumbers s₀.ledger

/-- A decision against the order ends with a rollback, which leaves books and numbers as they
were. -/
theorem finishes_rollback {e : BankError} (h : Working s₀ s n) (hplan : planOn r s₀ = .error e)
    (hnumbers : s.ledger.SameNumbers s₀.ledger) :
    Finishes r s₀ ((procedure .memory limit r (.calling (.rollback n e))).alone s) := by
  have hover : (advance .memory r (.calling (.rollback n e)) s).1 = some (.over (.error e)) := rfl
  have hafter : (advance .memory r (.calling (.rollback n e)) s).2
      = { s with ledger := s.ledger.dropUnit n } := rfl
  obtain ⟨hlone, hfree, hfresh⟩ := h
  rw [alone_of_over hover, hafter]
  refine ⟨⟨s₀.ledger, .refused hplan, ?_⟩, hfree.dropUnit, fun _ _ => hnumbers⟩
  exact ⟨hlone.sound.dropUnit n, hlone.kept.drop hfresh, hlone.clock, hlone.rates, hlone.sessions⟩

/-- A plan that is ready to be committed ends with the commit, and the fault that is due decides in
which of two ways. -/
theorem finishes_commit {p : Plan} {receipt : TransferReceipt} (h : Working s₀ s n)
    (hplan : planOn r s₀ = .ok p) (hb : Bears s.ledger n p (.calling (.commit n receipt))) :
    Finishes r s₀ ((procedure .memory limit r (.calling (.commit n receipt))).alone s) := by
  have hover : (advance .memory r (.calling (.commit n receipt)) s).1
      = some (.over ((s.ledger.commit n).1.map fun _ => receipt)) := rfl
  have hafter : (advance .memory r (.calling (.commit n receipt)) s).2
      = { s with ledger := (s.ledger.commit n).2 } := rfl
  have hplanned : ∀ e, planOn r s₀ ≠ .error e := by
    intro e he
    rw [hplan] at he
    cases he
  obtain ⟨hlone, hfree, hfresh⟩ := h
  rw [alone_of_over hover, hafter]
  have hsound : (s.ledger.commit n).2.Sound := hlone.sound.make (.commit n)
  have hfaults : s.ledger.faults = s₀.ledger.faults := hlone.kept.faults
  obtain ⟨haccounts, htransfers, hentries⟩ := hlone.kept.books
  by_cases hf : s.ledger.faults.head? = some .contention
  · -- refused: one fault is taken, and the books are those of the beginning
    have hcommit := Ledger.commit_of_contention n hf
    rw [hcommit] at hsound ⊢
    rw [hfaults] at hf
    have hkept : ({ s₀.ledger with faults := s₀.ledger.faults.tail } : Ledger).Kept
        { s.ledger with faults := s.ledger.faults.tail } (s₀.ledger.openIds ++ [n]) :=
      ⟨⟨haccounts, htransfers, hentries⟩, congrArg List.tail hfaults, hlone.kept.nextAccount,
        hlone.kept.units⟩
    have hleft : ({ s.ledger with faults := s.ledger.faults.tail } : Ledger).FreeFor n :=
      ⟨hfree.held, hfree.queue⟩
    refine ⟨⟨_, .contention hplan hf, ?_⟩, hleft.dropUnit, fun e he => absurd he (hplanned e)⟩
    exact ⟨hsound, hkept.drop hfresh, hlone.clock, hlone.rates, hlone.sessions⟩
  · -- carried out, whatever the caller is told about it
    obtain ⟨hreceipt, hcommit⟩ := bears_commit hb hf
    rw [hcommit] at hsound ⊢
    rw [hfaults] at hf hsound ⊢
    have hkept : (p.post receipt { s₀.ledger with faults := s₀.ledger.faults.tail }).Kept
        (p.post receipt { s.ledger with faults := s₀.ledger.faults.tail })
        (s₀.ledger.openIds ++ [n]) :=
      ⟨⟨congrArg p.settle haccounts, congrArg (· ++ [receipt.transfer]) htransfers,
        congrArg (· ++ [receipt.sourceEntry, receipt.targetEntry]) hentries⟩, rfl,
        hlone.kept.nextAccount, hlone.kept.units⟩
    have hleft : (p.post receipt { s.ledger with faults := s₀.ledger.faults.tail }).FreeFor n :=
      ⟨hfree.held, hfree.queue⟩
    refine ⟨⟨_, .applied hplan hf hreceipt rfl, ?_⟩, hleft.dropUnit,
      fun e he => absurd he (hplanned e)⟩
    exact ⟨hsound, hkept.drop hfresh, hlone.clock, hlone.rates, hlone.sessions⟩

/-- From the decision on, every call of an attempt with a plan is answered at once, up to the
commit. -/
theorem finishes_bears {p : Plan} (h : Working s₀ s n) (hplan : planOn r s₀ = .ok p)
    (hfunded : p.Funded) (hb : Bears s.ledger n p stage) :
    Finishes r s₀ ((procedure .memory limit r stage).alone s) := by
  -- every call leaves fewer calls to make
  induction hcalls : stage.callsLeft using Nat.strongRecOn generalizing stage s with
  | ind calls ih =>
    by_cases hcommit : ∃ receipt, stage = .calling (.commit n receipt)
    · obtain ⟨receipt, rfl⟩ := hcommit
      exact finishes_commit h hplan hb
    · have hgoes : ∀ receipt, stage ≠ .calling (.commit n receipt) := by
        intro receipt heq
        exact hcommit ⟨receipt, heq⟩
      obtain ⟨later, closer, hnext, hlater⟩ :=
        bears_advance (r := r) h.lone.sound hfunded hb hgoes
      rw [alone_of_next hnext]
      have hworking : Working s₀ (advance .memory r stage s).2 n :=
        h.advance hb.unit?_eq fun move hmove => hb.not_ends hgoes hmove
      refine ih later.callsLeft (hcalls ▸ closer) hworking ?_ rfl
      rw [advance_stores]
      exact hlater

/-- Numbers are drawn for what is recorded, and nothing is before the decision. -/
theorem sameNumbers_of_gathers (hg : Gathers r s.ledger n stage) :
    (stage.ledgerAfter r s.clock s.ledger).SameNumbers s.ledger := by
  rcases hg with - | - | -
  · exact Ledger.sameNumbers_lock n r.lowerRow s.ledger
  · exact Ledger.sameNumbers_lock n r.higherRow s.ledger
  · exact ⟨rfl, rfl⟩

/-- Before the decision every row is granted at once, since nobody else has locked any; behind it
there is a plan to be carried out or a rollback. -/
theorem finishes_gathers (h : Working s₀ s n) (hne : r.source ≠ r.target) (hpos : 1 ≤ r.amount)
    (hnumbers : s.ledger.SameNumbers s₀.ledger) (hg : Gathers r s.ledger n stage) :
    Finishes r s₀ ((procedure .memory limit r stage).alone s) := by
  -- again by the calls that are left, until the attempt knows enough
  induction hcalls : stage.callsLeft using Nat.strongRecOn generalizing stage s with
  | ind calls ih =>
    rcases gathers_advance hne hg with ⟨row, -, hmay, -, -⟩ | ⟨later, closer, hnext, hlearns⟩
    · -- there is nobody to wait for
      have hall := h.free.mayLock row
      rw [hmay] at hall
      exact absurd hall (by simp)
    · rw [alone_of_next hnext]
      have hworking : Working s₀ (advance .memory r stage s).2 n :=
        h.advance hg.unit?_eq fun move hmove => hg.not_ends hmove
      have hledger : stage.ledgerAfter r s.clock s.ledger
          = (advance .memory r stage s).2.ledger := by
        rw [advance_stores]
      have hstill : (stage.ledgerAfter r s.clock s.ledger).SameNumbers s₀.ledger := by
        obtain ⟨htransfer, hentry⟩ := sameNumbers_of_gathers hg
        exact ⟨htransfer.trans hnumbers.1, hentry.trans hnumbers.2⟩
      rw [hledger] at hlearns hstill
      rcases hlearns with hmore | ⟨hplan, hb⟩ | hplan
      · exact ih later.callsLeft (hcalls ▸ closer) hworking hstill hmore rfl
      · have hfunded := funded_of_planOn h.lone.sound hne hpos hplan
        rw [h.lone.planOn_eq] at hplan
        exact finishes_bears hworking hplan hfunded hb
      · rw [h.lone.planOn_eq] at hplan
        exact finishes_rollback hworking hplan hstill

/-- An attempt that has the ledger to itself does what was to be expected of it from the
beginning. -/
theorem finishes_attempt (limit : Delay) (h : s.ledger.Sound) (hfree : s.ledger.Unlocked)
    (hne : r.source ≠ r.target) (hpos : 1 ≤ r.amount) :
    Finishes r s ((procedure .memory limit r (.calling .begin)).alone s) := by
  have hnext : (advance .memory r (.calling .begin) s).1
      = some (.next (.lockLower ⟨s.ledger.nextUnit⟩) (by simp [Stage.callsLeft])) := rfl
  have hafter : (advance .memory r (.calling .begin) s).2
      = { s with ledger := s.ledger.beginUnit.2 } := rfl
  rw [alone_of_next hnext, hafter]
  have hunit : s.ledger.beginUnit.2.unit? ⟨s.ledger.nextUnit⟩
      = some { id := ⟨s.ledger.nextUnit⟩ } := by
    rw [Ledger.unit?_beginUnit _ _ h.unit?_next, if_pos rfl]
  have hfresh : (⟨s.ledger.nextUnit⟩ : UnitId) ∉ s.ledger.openIds := by
    intro hmem
    obtain ⟨u, hu⟩ := Ledger.mem_openIds.mp hmem
    rw [h.unit?_next] at hu
    cases hu
  have hkept : s.ledger.Kept s.ledger.beginUnit.2 (s.ledger.openIds ++ [⟨s.ledger.nextUnit⟩]) :=
    ⟨⟨rfl, rfl, rfl⟩, rfl, rfl, Ledger.openIds_beginUnit s.ledger⟩
  have hworking : Working s { s with ledger := s.ledger.beginUnit.2 } ⟨s.ledger.nextUnit⟩ :=
    ⟨⟨h.beginUnit, hkept, rfl, rfl, rfl⟩, hfree.beginUnit, hfresh⟩
  exact finishes_gathers hworking hne hpos ⟨rfl, rfl⟩ (.lower hunit)

/-- Where no unit is open, an attempt leaves none behind. -/
theorem alone_attempt (limit : Delay) (h : s.ledger.Sound) (hidle : s.ledger.units = [])
    (hne : r.source ≠ r.target) (hpos : 1 ≤ r.amount) :
    ∃ l, Ended r s ((procedure .memory limit r (.calling .begin)).alone s).1 l
      ∧ Lone { s with ledger := l }
          ((procedure .memory limit r (.calling .begin)).alone s).2 [] := by
  have hfree : s.ledger.Unlocked := by
    refine ⟨fun u hu => ?_, h.queue_eq_nil hidle⟩
    rw [hidle] at hu
    exact absurd hu List.not_mem_nil
  have hopen : s.ledger.openIds = [] := by
    unfold Ledger.openIds
    rw [hidle, List.map_nil]
  obtain ⟨l, hended, hlone⟩ := (finishes_attempt limit h hfree hne hpos).ended
  rw [hopen] at hlone
  exact ⟨l, hended, hlone⟩

end Attempt

end CountingHouse
