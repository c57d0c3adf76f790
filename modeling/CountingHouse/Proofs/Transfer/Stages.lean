/-
What an attempt knows, and what its unit holds, at each of its stages.

An attempt learns (`Gathers`) until it can decide; then it bears a plan (`Bears`) from call
to call until the commit, or it is refused and rolls back. Both predicates tie the stage
to the ledger: they say which rows are behind the attempt's copies, what the copies are by
now, and what stands in the buffers of its unit.

Two kinds of lemma carry them along. A call of somebody else keeps what an attempt knows
(`Gathers.make`, `Bears.make`), because the rows that it knows are rows that it holds. A call
of its own leads to the next stage (`gathers_advance`, `bears_advance`), and these lemmas also
say how it decides: a plan or a refusal is always that of `planOn` at the moment of the call,
whatever has happened since the attempt began.
-/
import CountingHouse.Proofs.Transfer.Plans
import CountingHouse.Proofs.Ledger.Isolation

set_option autoImplicit false

namespace CountingHouse

/-! ## Units with two rows -/

/-- A unit whose copies are those of two rows and whose buffers are known. -/
structure OpenUnit.Carries (u : OpenUnit) (a b : Account) (transfers : List Transfer)
    (entries : List Entry) : Prop where
  left : u.copy? a.id = some a
  right : u.copy? b.id = some b
  only : ∀ row, row ≠ a.id → row ≠ b.id → u.copy? row = none
  transfers : u.transfers = transfers
  entries : u.entries = entries

namespace OpenUnit.Carries

variable {u : OpenUnit} {a a' b b' : Account} {ts : List Transfer} {es : List Entry}

/-- A transfer that is recorded goes behind those in the buffer, and the copies stay. -/
theorem addTransfer (h : u.Carries a b ts es) (t : Transfer) :
    (u.addTransfer t).Carries a b (ts ++ [t]) es :=
  ⟨h.left, h.right, h.only, congrArg (· ++ [t]) h.transfers, h.entries⟩

/-- An entry that is recorded goes behind those in the buffer, and the copies stay. -/
theorem addEntry (h : u.Carries a b ts es) (e : Entry) :
    (u.addEntry e).Carries a b ts (es ++ [e]) :=
  ⟨h.left, h.right, h.only, h.transfers, congrArg (· ++ [e]) h.entries⟩

/-- Which of the two rows is named first does not matter. -/
theorem swap (h : u.Carries a b ts es) : u.Carries b a ts es :=
  ⟨h.right, h.left, fun row hb ha => h.only row ha hb, h.transfers, h.entries⟩

/-- A unit that writes one of its two rows keeps its copy of the other. -/
theorem write (h : u.Carries a b ts es) (hne : a.id ≠ b.id) (hid : a'.id = a.id) :
    (u.write a.id a').Carries a' b ts es := by
  have hcopy : ∀ row, (u.write a.id a').copy? row
      = if row = a.id then (u.copy? a.id).map fun _ => a' else u.copy? row :=
    fun row => OpenUnit.copy?_write u a.id row hid
  refine ⟨?_, ?_, ?_, h.transfers, h.entries⟩
  · rw [hcopy, if_pos hid, h.left, Option.map_some]
  · rw [hcopy, if_neg hne.symm, h.right]
  · intro row ha hb
    rw [hid] at ha
    rw [hcopy, if_neg ha, h.only row ha hb]

/-- A unit that has taken two rows carries them, with empty buffers. -/
theorem take_take (n : UnitId) (hne : a.id ≠ b.id) :
    ({ id := n, held := [a, b] } : OpenUnit).Carries a b [] [] := by
  have hcopy : ∀ row, ({ id := n, held := [a, b] } : OpenUnit).copy? row
      = ((if a.id = row then some a else none).or (if b.id = row then some b else none)) := by
    intro row
    have hfirst := OpenUnit.copy?_take { id := n } a row
    have hsecond := OpenUnit.copy?_take (OpenUnit.take a { id := n }) b row
    rw [hfirst] at hsecond
    exact hsecond
  refine ⟨?_, ?_, ?_, rfl, rfl⟩
  · rw [hcopy, if_pos rfl, Option.some_or]
  · rw [hcopy, if_neg hne, Option.none_or, if_pos rfl]
  · intro row ha hb
    rw [hcopy, if_neg ha.symm, if_neg hb.symm, Option.none_or]

end OpenUnit.Carries

namespace Ledger

variable {l : Ledger} {n : UnitId} {source target a b a' b' : Account}
variable {ts ts' : List Transfer} {es es' : List Entry}

/-- A unit that has locked two rows: they are committed, and its copies of them are known. -/
structure Carrying (l : Ledger) (n : UnitId) (source target a b : Account) (ts : List Transfer)
    (es : List Entry) : Prop where
  source_row : l.account? source.id = some source
  target_row : l.account? target.id = some target
  distinct : source.id ≠ target.id
  source_id : a.id = source.id
  target_id : b.id = target.id
  unit : ∃ u, l.unit? n = some u ∧ u.Carries a b ts es

/-- Which of the two rows is called the source does not matter. -/
theorem Carrying.swap (hc : l.Carrying n source target a b ts es) :
    l.Carrying n target source b a ts es := by
  obtain ⟨u, hu, hcarries⟩ := hc.unit
  exact ⟨hc.target_row, hc.source_row, hc.distinct.symm, hc.target_id, hc.source_id, u, hu,
    hcarries.swap⟩

/-- The rows behind the locks are the same after every move, as long as the unit is open. -/
theorem Carrying.make (hc : l.Carrying n source target a b ts es) (h : l.Sound) (move : Move)
    (hmove : move ≠ .commit n) (ha : a'.id = a.id) (hb : b'.id = b.id)
    (hunit : ∃ v, (l.make move).unit? n = some v ∧ v.Carries a' b' ts' es') :
    (l.make move).Carrying n source target a' b' ts' es' := by
  obtain ⟨u, hu, hcarries⟩ := hc.unit
  refine ⟨?_, ?_, hc.distinct, ha.trans hc.source_id, hb.trans hc.target_id, hunit⟩
  · -- the row is locked, so its committed version stays
    have hcopy : u.copy? source.id = some a := by
      rw [← hc.source_id]
      exact hcarries.left
    rw [account?_make h hu hcopy move hmove]
    exact hc.source_row
  · have hcopy : u.copy? target.id = some b := by
      rw [← hc.target_id]
      exact hcarries.right
    rw [account?_make h hu hcopy move hmove]
    exact hc.target_row

/-- A call of somebody else changes nothing for a unit. -/
theorem Carrying.undisturbed (hc : l.Carrying n source target a b ts es) (h : l.Sound)
    (move : Move) (hmove : move.unit? ≠ some n) :
    (l.make move).Carrying n source target a b ts es := by
  obtain ⟨u, hu, hcarries⟩ := hc.unit
  refine hc.make h move ?_ rfl rfl ⟨u, unit?_make h hu move hmove, hcarries⟩
  rintro rfl
  exact hmove rfl

/-- Recording a transfer puts it into the buffer of the unit and changes nothing else that is known
of it. -/
theorem Carrying.recordTransfer (hc : l.Carrying n source target a b ts es) (h : l.Sound)
    (debited credited : AccountId) (amount sourceAmount : Int) (rate : Option Decimal)
    (now : Instant) :
    (l.recordTransfer n debited credited amount sourceAmount rate now).2.Carrying n source target
      a b
      (ts ++ [(l.recordTransfer n debited credited amount sourceAmount rate now).1]) es := by
  obtain ⟨u, hu, hcarries⟩ := hc.unit
  have hmove : Move.recordTransfer n debited credited amount sourceAmount rate now
      ≠ .commit n := by simp
  refine hc.make h _ hmove rfl rfl ⟨_, ?_, hcarries.addTransfer _⟩
  rw [Ledger.make, unit?_recordTransfer, if_pos rfl, hu]
  rfl

/-- Recording an entry puts it into the buffer of the unit and changes nothing else that is known of
it. -/
theorem Carrying.recordEntry (hc : l.Carrying n source target a b ts es) (h : l.Sound)
    (account : AccountId) (transfer : TransferId) (amount : Int) (now : Instant) :
    (l.recordEntry n account transfer amount now).2.Carrying n source target a b ts
      (es ++ [(l.recordEntry n account transfer amount now).1]) := by
  obtain ⟨u, hu, hcarries⟩ := hc.unit
  have hmove : Move.recordEntry n account transfer amount now ≠ .commit n := by simp
  refine hc.make h _ hmove rfl rfl ⟨_, ?_, hcarries.addEntry _⟩
  rw [Ledger.make, unit?_recordEntry, if_pos rfl, hu]
  rfl

/-- A unit that holds both rows writes any balance on the source that is not negative. -/
theorem Carrying.setSource (hc : l.Carrying n source target a b ts es) (h : l.Sound)
    {balance : Int} (hb : 0 ≤ balance) :
    (l.setBalance n source.id balance).1 = .ok { a with balance } ∧
      (l.setBalance n source.id balance).2.Carrying n source target { a with balance } b ts es := by
  obtain ⟨u, hu, hcarries⟩ := hc.unit
  have hcopy : u.copy? source.id = some a := by
    rw [← hc.source_id]
    exact hcarries.left
  have hset := setBalance_of_copy hu hcopy hb
  have hne : a.id ≠ b.id := by
    rw [hc.source_id, hc.target_id]
    exact hc.distinct
  have hmove : Move.setBalance n source.id balance ≠ .commit n := by simp
  refine ⟨congrArg Prod.fst hset, hc.make h _ hmove rfl rfl ⟨_, ?_, hcarries.write hne rfl⟩⟩
  rw [Ledger.make, hset, unit?_write, if_pos rfl, hu, hc.source_id]
  rfl

/-- A unit that holds both rows writes any balance on the target that is not negative. -/
theorem Carrying.setTarget (hc : l.Carrying n source target a b ts es) (h : l.Sound)
    {balance : Int} (hb : 0 ≤ balance) :
    (l.setBalance n target.id balance).1 = .ok { b with balance } ∧
      (l.setBalance n target.id balance).2.Carrying n source target a { b with balance } ts es := by
  obtain ⟨hset, hcarry⟩ := hc.swap.setSource h hb
  exact ⟨hset, hcarry.swap⟩

/-- The rows after the commit of a unit that has locked two: those are replaced. -/
theorem Carrying.accounts_apply (hc : l.Carrying n source target a b ts es) :
    ∃ u, l.unit? n = some u ∧ u.transfers = ts ∧ u.entries = es ∧
      ∀ c : Account, (u.copy? c.id).getD c
        = if c.id = source.id then a else if c.id = target.id then b else c := by
  obtain ⟨u, hu, hcarries⟩ := hc.unit
  refine ⟨u, hu, hcarries.transfers, hcarries.entries, ?_⟩
  -- a row is the source, the target, or one of which the unit has no copy
  intro c
  by_cases hs : c.id = source.id
  · rw [if_pos hs, hs, ← hc.source_id, hcarries.left, Option.getD_some]
  · rw [if_neg hs]
    by_cases ht : c.id = target.id
    · rw [if_pos ht, ht, ← hc.target_id, hcarries.right, Option.getD_some]
    · rw [← hc.source_id] at hs
      rw [← hc.target_id] at ht
      rw [hcarries.only c.id hs ht, if_neg (by rw [← hc.target_id]; exact ht), Option.getD_none]

end Ledger

namespace Attempt

/-! ## Stages and their calls -/

/-- The unit of an attempt, once it has begun. -/
def Stage.unit? : Stage → Option UnitId
  | calling .begin => none
  | lockLower n | lockHigher n _ | calling (.lookUpRate n ..) | calling (.recordTransfer n _)
  | calling (.recordDebit n ..) | calling (.recordCredit n ..) | calling (.setSource n ..)
  | calling (.setTarget n ..) | calling (.commit n _) | calling (.rollback n _) => some n

/-- The plan of an attempt, once it has decided and until it ends. -/
def Stage.plan? : Stage → Option Plan
  | calling (.recordTransfer _ p) | calling (.recordDebit _ p _) | calling (.recordCredit _ p ..)
  | calling (.setSource _ p ..) | calling (.setTarget _ p ..) => some p
  | calling (.commit _ receipt) => some receipt.plan
  | calling .begin | lockLower _ | lockHigher .. | calling (.lookUpRate ..)
  | calling (.rollback ..) => none

/-- What an attempt does to the ledger at a stage; the rates are looked up elsewhere. -/
def Stage.move? (r : TransferOrder) (now : Instant) : Stage → Option Move
  | calling .begin => some .begin
  | lockLower n => some (.lock n r.lowerRow)
  | lockHigher n _ => some (.lock n r.higherRow)
  | calling (.lookUpRate ..) => none
  | calling (.recordTransfer n p) =>
    some (.recordTransfer n p.source.id p.target.id p.amount p.sourceAmount p.exchangeRate now)
  | calling (.recordDebit n p t) => some (.recordEntry n p.source.id t.id (-p.sourceAmount) now)
  | calling (.recordCredit n p t _) => some (.recordEntry n p.target.id t.id p.amount now)
  | calling (.setSource n p ..) => some (.setBalance n p.source.id p.sourceBalance)
  | calling (.setTarget n p ..) => some (.setBalance n p.target.id p.targetBalance)
  | calling (.commit n _) => some (.commit n)
  | calling (.rollback n _) => some (.drop n)

def Stage.ledgerAfter (r : TransferOrder) (now : Instant) (stage : Stage) (l : Ledger) : Ledger :=
  match stage.move? r now with
  | some move => l.make move
  | none => l

/-- An attempt acts on the ledger only. -/
theorem advance_stores (r : TransferOrder) (stage : Stage) (s : Stores) :
    (advance .memory r stage s).2
      = { s with ledger := stage.ledgerAfter r s.clock s.ledger } := by
  rcases stage with call | n | ⟨n, lower⟩
  · rcases call with _ | _ | _ | _ | _ | _ | _ | _ | _
    all_goals rfl
  · rfl
  · rfl

/-- What an attempt does to the ledger it does in its own unit. -/
theorem unit?_of_move? {r : TransferOrder} {now : Instant} {stage : Stage} {move : Move}
    (h : stage.move? r now = some move) : move.unit? = stage.unit? := by
  rcases stage with call | n | ⟨n, lower⟩
  · rcases call with _ | _ | _ | _ | _ | _ | _ | _ | _
    all_goals
      cases h
      try rfl
  · cases h
    rfl
  · cases h
    rfl

/-- Rows are asked for in the unit of the attempt. -/
theorem unit?_of_request? {r : TransferOrder} {stage : Stage} {n : UnitId} {row : AccountId}
    (h : stage.request? r = some (n, row)) : stage.unit? = some n := by
  rcases stage with call | n | ⟨n, lower⟩
  all_goals
    cases h
    try rfl

/-- An attempt is kept waiting by its requests for rows and by nothing else. -/
theorem advance_eq_none_iff {r : TransferOrder} {stage : Stage} {s : Stores} :
    (advance .memory r stage s).1 = none ↔
      ∃ n row, stage.request? r = some (n, row) ∧ (s.ledger.lock n row).1 = .waiting := by
  -- a request for a row is all that can be left without an answer, whatever follows the grant
  have hrequest : ∀ (n : UnitId) (row : AccountId) {bound : Nat} (deep : 1 < bound)
      (withRow : Account → Except BankError { stage : Stage // stage.callsLeft < bound }),
      (askForRow n row deep withRow s).1 = none ↔ (s.ledger.lock n row).1 = .waiting := by
    intro n row bound deep withRow
    unfold askForRow
    rcases s.ledger.lock n row with ⟨answer, ledger⟩
    cases answer with
    | granted a => simp
    | missing => simp
    | waiting => simp
  rcases stage with call | n | ⟨n, lower⟩
  · constructor
    · intro h
      cases h
    · rintro ⟨n, row, h, -⟩
      cases h
  · refine (hrequest n r.lowerRow _ _).trans ⟨fun h => ⟨n, r.lowerRow, rfl, h⟩, ?_⟩
    rintro ⟨_, _, ⟨⟩, h⟩
    exact h
  · refine (hrequest n r.higherRow _ _).trans ⟨fun h => ⟨n, r.higherRow, rfl, h⟩, ?_⟩
    rintro ⟨_, _, ⟨⟩, h⟩
    exact h

/-! ## What an attempt knows -/

/-- What an attempt has learned before it can decide: its unit has written nothing, and the
rows that it has read are committed. -/
inductive Gathers (r : TransferOrder) (l : Ledger) (n : UnitId) : Stage → Prop where
  | lower (hunit : l.unit? n = some { id := n }) : Gathers r l n (.lockLower n)
  | higher {lower : Account} (hrow : l.account? r.lowerRow = some lower)
      (hunit : l.unit? n = some { id := n, held := [lower] }) :
      Gathers r l n (.lockHigher n lower)
  | rate {source target : Account} {pair : CurrencyPair} (hsource : source.id = r.source)
      (htarget : target.id = r.target) (hcheck : checkSource r source = .ok ())
      (hbase : pair.base = source.currency) (hquoted : pair.target = target.currency)
      (hcarry : l.Carrying n source target source target [] []) :
      Gathers r l n (.calling (.lookUpRate n source target pair))

/-- What the unit of an attempt holds that has decided: what the plan says, as far as the
attempt has come. -/
inductive Bears (l : Ledger) (n : UnitId) (p : Plan) : Stage → Prop where
  | transfer (h : l.Carrying n p.source p.target p.source p.target [] []) :
      Bears l n p (.calling (.recordTransfer n p))
  | debit {t : Transfer} (ht : p.Transfers t)
      (h : l.Carrying n p.source p.target p.source p.target [t] []) :
      Bears l n p (.calling (.recordDebit n p t))
  | credit {t : Transfer} {d : Entry} (ht : p.Transfers t) (hd : p.Debits t d)
      (h : l.Carrying n p.source p.target p.source p.target [t] [d]) :
      Bears l n p (.calling (.recordCredit n p t d))
  | source {t : Transfer} {d c : Entry} (ht : p.Transfers t) (hd : p.Debits t d)
      (hc : p.Credits t c) (h : l.Carrying n p.source p.target p.source p.target [t] [d, c]) :
      Bears l n p (.calling (.setSource n p t d c))
  | target {t : Transfer} {d c : Entry} (ht : p.Transfers t) (hd : p.Debits t d)
      (hc : p.Credits t c)
      (h : l.Carrying n p.source p.target p.sourceAfter p.target [t] [d, c]) :
      Bears l n p (.calling (.setTarget n p t d c p.sourceAfter))
  | commit {receipt : TransferReceipt} (hreceipt : p.Receipts receipt)
      (h : l.Carrying n p.source p.target p.sourceAfter p.targetAfter [receipt.transfer]
        [receipt.sourceEntry, receipt.targetEntry]) :
      Bears l n p (.calling (.commit n receipt))

variable {r : TransferOrder} {l : Ledger} {n : UnitId} {p : Plan} {stage : Stage} {s : Stores}

/-- An attempt that gathers has a unit. -/
theorem Gathers.unit?_eq (hg : Gathers r l n stage) : stage.unit? = some n := by
  rcases hg with - | - | -
  all_goals rfl

/-- An attempt that gathers has no plan yet. -/
theorem Gathers.plan?_eq (hg : Gathers r l n stage) : stage.plan? = none := by
  rcases hg with - | - | -
  all_goals rfl

/-- An attempt that gathers does not end its unit. -/
theorem Gathers.not_ends (hg : Gathers r l n stage) {now : Instant} {move : Move}
    (hmove : stage.move? r now = some move) : ¬ move.Ends n := by
  rcases hg with - | - | -
  all_goals
    cases hmove
    try
      rintro (h | h)
      all_goals cases h

/-- An attempt that bears a plan has a unit. -/
theorem Bears.unit?_eq (hb : Bears l n p stage) : stage.unit? = some n := by
  rcases hb with - | - | - | - | - | -
  all_goals rfl

/-- The plan of an attempt is the one that it bears. At the commit only the receipt is left, from
which the plan is read again. -/
theorem Bears.plan?_eq (hb : Bears l n p stage) (hsuits : p.Suits r) : stage.plan? = some p := by
  rcases hb with - | - | - | - | - | ⟨hreceipt, -⟩
  · rfl
  · rfl
  · rfl
  · rfl
  · rfl
  · exact congrArg some (hreceipt.plan_eq hsuits)

/-- An attempt that bears a plan ends its unit by the commit only. -/
theorem Bears.not_ends (hb : Bears l n p stage)
    (hcommit : ∀ receipt, stage ≠ .calling (.commit n receipt)) {now : Instant} {move : Move}
    (hmove : stage.move? r now = some move) : ¬ move.Ends n := by
  rcases hb with - | - | - | - | - | -
  all_goals
    cases hmove
    first
      | exact absurd rfl (hcommit _)
      | rintro (h | h)
        all_goals cases h

/-! ## Calls of somebody else -/

/-- What an attempt has gathered is not changed by a call of somebody else, since it holds the rows
that it knows. -/
theorem Gathers.undisturbed (hg : Gathers r l n stage) (h : l.Sound) (move : Move)
    (hmove : move.unit? ≠ some n) : Gathers r (l.make move) n stage := by
  rcases hg with hunit | ⟨hrow, hunit⟩ | ⟨hsource, htarget, hcheck, hbase, hquoted, hcarry⟩
  · exact .lower (l.unit?_make h hunit move hmove)
  · rename_i lower
    have hid : lower.id = r.lowerRow := (Ledger.account?_spec hrow).2
    have hcopy : ({ id := n, held := [lower] } : OpenUnit).copy? r.lowerRow = some lower := by
      rw [← hid]
      exact List.find?_cons_of_pos (beq_self_eq_true _)
    have hcommit : move ≠ .commit n := by
      rintro rfl
      exact hmove rfl
    refine .higher ?_ (Ledger.unit?_make h hunit move hmove)
    rw [Ledger.account?_make h hunit hcopy move hcommit]
    exact hrow
  · exact .rate hsource htarget hcheck hbase hquoted (hcarry.undisturbed h move hmove)

/-- The plan that an attempt bears is not changed by a call of somebody else, since it holds both
rows. -/
theorem Bears.undisturbed (hb : Bears l n p stage) (h : l.Sound) (move : Move)
    (hmove : move.unit? ≠ some n) : Bears (l.make move) n p stage := by
  rcases hb with hc | ⟨ht, hc⟩ | ⟨ht, hd, hc⟩ | ⟨ht, hd, hcr, hc⟩ | ⟨ht, hd, hcr, hc⟩ | ⟨hx, hc⟩
  · exact .transfer (hc.undisturbed h move hmove)
  · exact .debit ht (hc.undisturbed h move hmove)
  · exact .credit ht hd (hc.undisturbed h move hmove)
  · exact .source ht hd hcr (hc.undisturbed h move hmove)
  · exact .target ht hd hcr (hc.undisturbed h move hmove)
  · exact .commit hx (hc.undisturbed h move hmove)

/-- Until its end an attempt that has decided holds both rows. -/
theorem Bears.carrying (hb : Bears l n p stage) :
    ∃ a b ts es, l.Carrying n p.source p.target a b ts es := by
  rcases hb with hc | ⟨-, hc⟩ | ⟨-, -, hc⟩ | ⟨-, -, -, hc⟩ | ⟨-, -, -, hc⟩ | ⟨-, hc⟩
  all_goals exact ⟨_, _, _, _, hc⟩

/-! ## Calls of its own, before the decision -/

/-- What an attempt knows after a call: more than before, or enough. What it then decides is
what `planOn` says of the stores on which the call was made. -/
inductive Learns (r : TransferOrder) (s : Stores) (l : Ledger) (n : UnitId) : Stage → Prop where
  | more {stage : Stage} (h : Gathers r l n stage) : Learns r s l n stage
  | enough {stage : Stage} {p : Plan} (hplan : planOn r s = .ok p) (h : Bears l n p stage) :
      Learns r s l n stage
  | refused {e : BankError} {u : OpenUnit} (hplan : planOn r s = .error e)
      (hu : l.unit? n = some u) : Learns r s l n (.calling (.rollback n e))

/-- A request that is granted goes on with the row. -/
theorem askForRow_of_granted {bound : Nat} {row : AccountId} {a : Account} {l' : Ledger}
    (deep : 1 < bound)
    (withRow : Account → Except BankError { stage : Stage // stage.callsLeft < bound })
    (h : s.ledger.lock n row = (.granted a, l')) :
    (askForRow n row deep withRow s).1 = some (proceed n deep (withRow a)) := by
  unfold askForRow
  rw [h]

/-- A request for a row that is not there goes on with the rollback. -/
theorem askForRow_of_missing {bound : Nat} {row : AccountId} {l' : Ledger} (deep : 1 < bound)
    (withRow : Account → Except BankError { stage : Stage // stage.callsLeft < bound })
    (h : s.ledger.lock n row = (.missing, l')) :
    (askForRow n row deep withRow s).1
      = some (.next (.calling (.rollback n (.accountNotFound row))) deep) := by
  unfold askForRow
  rw [h]
  rfl

/-- A request that has to wait does not go on. -/
theorem askForRow_of_waiting {bound : Nat} {row : AccountId} {l' : Ledger} (deep : 1 < bound)
    (withRow : Account → Except BankError { stage : Stage // stage.callsLeft < bound })
    (h : s.ledger.lock n row = (.waiting, l')) :
    (askForRow n row deep withRow s).1 = none := by
  unfold askForRow
  rw [h]

/-- What follows when both rows are locked: a refusal, a plan, or the question for the rate. -/
theorem withRows_cases {lower higher source target : Account}
    (hsides : sides r lower higher = (source, target)) (rates : RateTable) :
    (∃ e, planFor r rates source target = .error e ∧ withRows r n lower higher = .error e) ∨
    (∃ p closer, planFor r rates source target = .ok p ∧
      withRows r n lower higher = .ok ⟨.calling (.recordTransfer n p), closer⟩) ∨
    (∃ pair closer, checkSource r source = .ok () ∧ pair.base = source.currency ∧
      pair.target = target.currency ∧
      withRows r n lower higher = .ok ⟨.calling (.lookUpRate n source target pair), closer⟩) := by
  have hrows : withRows r n lower higher = (do
      checkSource r source
      if h : source.currency = target.currency then
        return ⟨.calling (.recordTransfer n (← plan r source target r.amount none)),
          by simp [Stage.callsLeft]⟩
      else
        return ⟨.calling (.lookUpRate n source target ⟨source.currency, target.currency, h⟩),
          by simp [Stage.callsLeft]⟩) := by
    unfold sides at hsides
    unfold withRows
    rw [hsides]
  rw [hrows]
  unfold planFor quote
  rcases hcheck : checkSource r source with e | ⟨⟨⟩⟩
  · exact .inl ⟨e, rfl, rfl⟩
  · -- within one currency the plan is made at once, otherwise the rate comes first
    by_cases hcurrency : source.currency = target.currency
    · rw [dif_pos hcurrency, dif_pos hcurrency]
      rcases hplan : plan r source target r.amount none with e | p
      · exact .inl ⟨e, rfl, rfl⟩
      · exact .inr (.inl ⟨p, by simp [Stage.callsLeft], rfl, rfl⟩)
    · rw [dif_neg hcurrency, dif_neg hcurrency]
      exact .inr (.inr ⟨⟨source.currency, target.currency, hcurrency⟩,
        by simp [Stage.callsLeft], rfl, rfl, rfl, rfl⟩)

/-- What follows when the rate is looked up: a refusal or a plan. -/
theorem lookUpRate_cases {source target : Account} {pair : CurrencyPair}
    (hcheck : checkSource r source = .ok ()) (hbase : pair.base = source.currency)
    (hquoted : pair.target = target.currency) (s : Stores) :
    (∃ e closer, planFor r s.rates source target = .error e ∧
      (perform .memory r (.lookUpRate n source target pair) s).1
        = .next (.calling (.rollback n e)) closer) ∨
    (∃ p closer, planFor r s.rates source target = .ok p ∧
      (perform .memory r (.lookUpRate n source target pair) s).1
        = .next (.calling (.recordTransfer n p)) closer) := by
  -- the pair that was asked for is the one of the two rows
  obtain ⟨base, quoted, hdistinct⟩ := pair
  obtain rfl : base = source.currency := hbase
  obtain rfl : quoted = target.currency := hquoted
  have hplan : planFor r s.rates source target = quote r s.rates source target := by
    unfold planFor
    rw [hcheck]
    rfl
  rw [hplan]
  unfold quote
  rw [dif_neg hdistinct]
  rcases hrow : s.rates.current? ⟨source.currency, target.currency, hdistinct⟩ with _ | row
  · refine .inl ⟨_, by simp [Stage.callsLeft], rfl, ?_⟩
    simp only [perform, hrow]
    rfl
  · rcases hconvert : convert r.amount row with e | conversion
    · refine .inl ⟨e, by simp [Stage.callsLeft], by simp only [hconvert]; rfl, ?_⟩
      simp only [perform, hrow, hconvert]
      rfl
    · rcases hmade : plan r source target conversion.convertedAmount (some conversion.rate) with
        e | p
      · refine .inl ⟨e, by simp [Stage.callsLeft], by simp only [hconvert]; exact hmade, ?_⟩
        simp only [perform, hrow, hconvert, bind, Except.bind, hmade]
        rfl
      · refine .inr ⟨p, by simp [Stage.callsLeft], by simp only [hconvert]; exact hmade, ?_⟩
        simp only [perform, hrow, hconvert, bind, Except.bind, hmade]
        rfl

/-- What an attempt does that has locked the second row. -/
theorem learns_withRows (l' : Ledger) {lower higher : Account} (hne : r.source ≠ r.target)
    (hlower : s.ledger.account? r.lowerRow = some lower)
    (hhigher : s.ledger.account? r.higherRow = some higher)
    (hbooks : ∀ row, l'.account? row = s.ledger.account? row)
    (hunit : l'.unit? n = some { id := n, held := [lower, higher] }) :
    ∃ later closer, proceed n (by simp) (withRows r n lower higher) = .next later closer ∧
      Learns r s l' n later := by
  have hlowerId : lower.id = r.lowerRow := (Ledger.account?_spec hlower).2
  have hhigherId : higher.id = r.higherRow := (Ledger.account?_spec hhigher).2
  have hdistinct : lower.id ≠ higher.id := by
    rw [hlowerId, hhigherId]
    exact rows_ne hne
  have hcarries := OpenUnit.Carries.take_take n hdistinct
  obtain ⟨hsource, htarget⟩ := account?_sides hne hlower hhigher
  have hsourceId := (Ledger.account?_spec hsource).2
  have htargetId := (Ledger.account?_spec htarget).2
  -- the copies are those of the two sides, whichever of them is the lower row
  have hboth : ({ id := n, held := [lower, higher] } : OpenUnit).Carries
      (sides r lower higher).1 (sides r lower higher).2 [] [] := by
    unfold sides
    by_cases hside : r.lowerRow = r.source
    · rw [if_pos hside]
      exact hcarries
    · rw [if_neg hside]
      exact hcarries.swap
  rcases hsides : sides r lower higher with ⟨source, target⟩
  rw [hsides] at hsource htarget hsourceId htargetId hboth
  have hplan : planOn r s = planFor r s.rates source target := planOn_of_rows hne hsource htarget
  have hcarry : l'.Carrying n source target source target [] [] := by
    refine ⟨?_, ?_, ?_, rfl, rfl, _, hunit, hboth⟩
    · rw [hbooks, hsourceId]
      exact hsource
    · rw [hbooks, htargetId]
      exact htarget
    · rw [hsourceId, htargetId]
      exact hne
  rcases withRows_cases (n := n) hsides s.rates with ⟨e, hfor, hrows⟩ | ⟨p, closer, hfor, hrows⟩ |
    ⟨pair, closer, hcheck, hbase, hquoted, hrows⟩
  · rw [hrows]
    exact ⟨_, _, rfl, .refused (hplan.trans hfor) hunit⟩
  · rw [hrows]
    obtain ⟨hs, ht⟩ := rows_of_planFor hfor
    refine ⟨_, _, rfl, .enough (hplan.trans hfor) (.transfer ?_)⟩
    rw [hs, ht]
    exact hcarry
  · rw [hrows]
    exact ⟨_, _, rfl, .more (.rate hsourceId htargetId hcheck hbase hquoted hcarry)⟩

/-- What is answered to an open unit that asks for a row that it does not hold. -/
theorem lock_cases_of_unit {u : OpenUnit} (hu : l.unit? n = some u) (row : AccountId)
    (hc : u.copy? row = none) :
    (l.account? row = none ∧ l.lock n row = (.missing, l)) ∨
    (∃ a, l.account? row = some a ∧ l.lock n row = (.granted a, l.grant n a row)) ∨
    (∃ queue, l.mayLock n row = false ∧ l.lock n row = (.waiting, { l with queue })) := by
  rcases l.lock_cases n row with ⟨v, a, hv, hcopy, -⟩ | ⟨hmissing, hlock⟩ |
    ⟨v, a, -, -, ha, -, hlock⟩ | ⟨v, a, queue, -, -, -, hmay, -, hlock⟩
  · rw [hu] at hv
    obtain rfl := Option.some.inj hv
    rw [hc] at hcopy
    exact absurd hcopy (by simp)
  · rw [hu] at hmissing
    exact .inl ⟨hmissing.resolve_left (by simp), hlock⟩
  · exact .inr (.inl ⟨a, ha, hlock⟩)
  · exact .inr (.inr ⟨queue, hmay, hlock⟩)

/-- What a call brings to an attempt that cannot decide yet: it waits for a row that it may
not have, or it learns something. -/
inductive Inquires (r : TransferOrder) (s : Stores) (n : UnitId) (stage : Stage) : Prop where
  | waits (row : AccountId) (hrequest : stage.request? r = some (n, row))
      (hmay : s.ledger.mayLock n row = false) (hnone : (advance .memory r stage s).1 = none)
      (h : Gathers r (stage.ledgerAfter r s.clock s.ledger) n stage)
  | learns (later : Stage) (closer : later.callsLeft < stage.callsLeft)
      (hnext : (advance .memory r stage s).1 = some (.next later closer))
      (h : Learns r s (stage.ledgerAfter r s.clock s.ledger) n later)

/-- The request for the lower row waits, is refused, or leaves the attempt with that row. -/
theorem lockLower_advance (r : TransferOrder) (hunit : s.ledger.unit? n = some { id := n }) :
    Inquires r s n (.lockLower n) := by
  have hafter : (Stage.lockLower n).ledgerAfter r s.clock s.ledger
      = (s.ledger.lock n r.lowerRow).2 := rfl
  rcases lock_cases_of_unit hunit r.lowerRow rfl with
    ⟨hnone, hlock⟩ | ⟨a, ha, hlock⟩ | ⟨queue, hmay, hlock⟩
  · refine .learns _ _ (askForRow_of_missing _ _ hlock) (.refused ?_ (u := { id := n }) ?_)
    · unfold planOn committedRow
      rw [hnone]
      rfl
    · rw [hafter, hlock]
      exact hunit
  · refine .learns _ _ (askForRow_of_granted _ _ hlock) (.more (.higher ?_ ?_))
    · rw [hafter, hlock]
      exact ha
    · rw [hafter, hlock, Ledger.unit?_grant, if_pos rfl, hunit]
      rfl
  · refine .waits _ rfl hmay (askForRow_of_waiting _ _ hlock) (.lower ?_)
    rw [hafter, hlock]
    exact hunit

/-- The request for the higher row waits, or it settles the matter within one currency and leads to
the rates otherwise. Here the rows are checked. -/
theorem lockHigher_advance {lower : Account} (hne : r.source ≠ r.target)
    (hrow : s.ledger.account? r.lowerRow = some lower)
    (hunit : s.ledger.unit? n = some { id := n, held := [lower] }) :
    Inquires r s n (.lockHigher n lower) := by
  have hafter : (Stage.lockHigher n lower).ledgerAfter r s.clock s.ledger
      = (s.ledger.lock n r.higherRow).2 := rfl
  have hcopy : ({ id := n, held := [lower] } : OpenUnit).copy? r.higherRow = none := by
    have hid : lower.id ≠ r.higherRow := by
      rw [(Ledger.account?_spec hrow).2]
      exact rows_ne hne
    exact List.find?_eq_none.mpr (by simpa using hid)
  rcases lock_cases_of_unit hunit r.higherRow hcopy with
    ⟨hnone, hlock⟩ | ⟨a, ha, hlock⟩ | ⟨queue, hmay, hlock⟩
  · refine .learns _ _ (askForRow_of_missing _ _ hlock)
      (.refused ?_ (u := { id := n, held := [lower] }) ?_)
    · unfold planOn committedRow
      rw [hrow, hnone]
      rfl
    · rw [hafter, hlock]
      exact hunit
  · -- both rows are locked now, and they are the committed ones
    have hunit' : (s.ledger.grant n a r.higherRow).unit? n
        = some { id := n, held := [lower, a] } := by
      rw [Ledger.unit?_grant, if_pos rfl, hunit]
      rfl
    obtain ⟨later, closer, hnext, hlearns⟩ := learns_withRows
      (s.ledger.grant n a r.higherRow) hne hrow ha (fun _ => rfl) hunit'
    have hcall := askForRow_of_granted (s := s) (by simp) (withRows r n lower) hlock
    rw [hnext] at hcall
    refine .learns later closer hcall ?_
    rw [hafter, hlock]
    exact hlearns
  · refine .waits _ rfl hmay (askForRow_of_waiting _ _ hlock) (.higher ?_ ?_)
    · rw [hafter, hlock]
      exact hrow
    · rw [hafter, hlock]
      exact hunit

/-- The look-up of the rate settles the matter. -/
theorem lookUpRate_advance {source target : Account} {pair : CurrencyPair}
    (hne : r.source ≠ r.target) (hsource : source.id = r.source) (htarget : target.id = r.target)
    (hcheck : checkSource r source = .ok ()) (hbase : pair.base = source.currency)
    (hquoted : pair.target = target.currency)
    (hcarry : s.ledger.Carrying n source target source target [] []) :
    Inquires r s n (.calling (.lookUpRate n source target pair)) := by
  -- the rows that were read are committed still, so only the rates of now matter
  have hplan : planOn r s = planFor r s.rates source target := by
    refine planOn_of_rows hne ?_ ?_
    · rw [← hsource]
      exact hcarry.source_row
    · rw [← htarget]
      exact hcarry.target_row
  rcases lookUpRate_cases (n := n) hcheck hbase hquoted s with
    ⟨e, closer, hfor, hcall⟩ | ⟨p, closer, hfor, hcall⟩
  · obtain ⟨u, hu, -⟩ := hcarry.unit
    exact .learns _ closer (congrArg some hcall) (.refused (hplan.trans hfor) hu)
  · obtain ⟨hs, ht⟩ := rows_of_planFor hfor
    refine .learns _ closer (congrArg some hcall) (.enough (hplan.trans hfor) (.transfer ?_))
    rw [hs, ht]
    exact hcarry

/-- An attempt that cannot decide yet makes a call. -/
theorem gathers_advance (hne : r.source ≠ r.target) (hg : Gathers r s.ledger n stage) :
    Inquires r s n stage := by
  rcases hg with hunit | ⟨hrow, hunit⟩ | ⟨hsource, htarget, hcheck, hbase, hquoted, hcarry⟩
  · exact lockLower_advance r hunit
  · exact lockHigher_advance hne hrow hunit
  · exact lookUpRate_advance hne hsource htarget hcheck hbase hquoted hcarry

/-! ## Calls of its own, after the decision -/

/-- An attempt that has decided is not held up by anything before its commit. -/
theorem bears_advance (h : s.ledger.Sound) (hfunded : p.Funded) (hb : Bears s.ledger n p stage)
    (hcommit : ∀ receipt, stage ≠ .calling (.commit n receipt)) :
    ∃ later closer, (advance .memory r stage s).1 = some (.next later closer) ∧
      Bears (stage.ledgerAfter r s.clock s.ledger) n p later := by
  rcases hb with hc | ⟨ht, hc⟩ | ⟨ht, hd, hc⟩ | ⟨ht, hd, hcr, hc⟩ | ⟨ht, hd, hcr, hc⟩ | ⟨hx, hc⟩
  · exact ⟨_, _, rfl, .debit rfl (hc.recordTransfer h ..)⟩
  · exact ⟨_, _, rfl, .credit ht rfl (hc.recordEntry h ..)⟩
  · exact ⟨_, _, rfl, .source ht hd rfl (hc.recordEntry h ..)⟩
  · rename_i t d c
    obtain ⟨hset, hc'⟩ := hc.setSource h hfunded.source
    refine ⟨.calling (.setTarget n p t d c p.sourceAfter), by simp [Stage.callsLeft], ?_,
      .target ht hd hcr hc'⟩
    simp only [advance, perform, hset]
    rfl
  · rename_i t d c
    obtain ⟨hset, hc'⟩ := hc.setTarget h hfunded.target
    refine ⟨.calling (.commit n ⟨t, d, c, p.sourceAfter, p.targetAfter⟩),
      by simp [Stage.callsLeft], ?_, .commit ⟨ht, hd, hcr, rfl, rfl⟩ hc'⟩
    simp only [advance, perform, hset]
    rfl
  · exact absurd rfl (hcommit _)

/-- A commit that is not refused carries out the plan: the two rows are replaced, and the
transfer and its two entries are put behind the journal. -/
theorem bears_commit {receipt : TransferReceipt}
    (hb : Bears l n p (.calling (.commit n receipt))) (hf : l.faults.head? ≠ some .contention) :
    p.Receipts receipt ∧ l.commit n = (Ledger.acknowledgement l.faults.head?,
      (p.post receipt { l with faults := l.faults.tail }).dropUnit n) := by
  rcases hb with - | - | - | - | - | ⟨hreceipt, hc⟩
  obtain ⟨u, hu, htransfers, hentries, hcopies⟩ := hc.accounts_apply
  have hrows : (l.accounts.map fun a => (u.copy? a.id).getD a) = p.settle l.accounts :=
    List.map_congr_left fun a _ => hcopies a
  have happly : ({ l with faults := l.faults.tail } : Ledger).apply u
      = p.post receipt { l with faults := l.faults.tail } := by
    unfold Ledger.apply Plan.post
    rw [hrows, htransfers, hentries]
  refine ⟨hreceipt, ?_⟩
  rw [Ledger.commit_of_open hu hf, happly]

end Attempt

end CountingHouse
