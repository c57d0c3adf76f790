/-
One transfer from beginning to end.

On a ledger on which no row is locked and no commit is going to fail, an order has one of two
ends, and the stores of the beginning say which. If something can be said against it, the first
thing that can be said is the answer, and there is nothing that the order has changed: no row,
no rate, and no number has been drawn. Otherwise it is answered by a receipt, the two accounts
are changed by what the order says and by what that is worth, one transfer and two entries stand
behind the journal, and the five rows of the receipt are those that are stored.

Which of the two accounts has the smaller number does not matter to any of this. It decides
which row is locked first, and so which of two missing accounts is named.
-/
import CountingHouse.Proofs.Transfer.Objections

set_option autoImplicit false

namespace CountingHouse

open Attempt

variable {r : TransferOrder} {s s' : Stores} {receipt : TransferReceipt}

/-! ## What an order leaves -/

/-- Stores on which nothing has happened since an earlier moment. -/
structure Stores.Untouched (s' s : Stores) : Prop where
  books : s'.ledger.accounts = s.ledger.accounts ∧ s'.ledger.transfers = s.ledger.transfers ∧
    s'.ledger.entries = s.ledger.entries
  rates : s'.rates = s.rates
  sessions : s'.sessions = s.sessions
  nextAccount : s'.ledger.nextAccount = s.ledger.nextAccount
  nextTransfer : s'.ledger.nextTransfer = s.ledger.nextTransfer
  nextEntry : s'.ledger.nextEntry = s.ledger.nextEntry

/-- What an order that is carried out makes of the stores, and its receipt. -/
structure Settles (r : TransferOrder) (s s' : Stores) (receipt : TransferReceipt)
    (source target : Account) (credit : Int) (rate : Option Decimal) : Prop where
  source_row : s.ledger.account? r.source = some source
  target_row : s.ledger.account? r.target = some target
  /-- What is credited is what the debit is worth. -/
  priced : r.price s.rates source target = .ok (credit, rate)
  /-- The receipt says where the money comes from, whichever account has the smaller number. -/
  transfer : receipt.transfer = ⟨receipt.transfer.id, r.source, r.target, credit, r.amount, rate,
    receipt.transfer.createdAt⟩
  sourceEntry : receipt.sourceEntry = ⟨receipt.sourceEntry.id, r.source, receipt.transfer.id,
    -r.amount, receipt.sourceEntry.createdAt⟩
  targetEntry : receipt.targetEntry = ⟨receipt.targetEntry.id, r.target, receipt.transfer.id,
    credit, receipt.targetEntry.createdAt⟩
  sourceAccount : receipt.sourceAccount = { source with balance := source.balance - r.amount }
  targetAccount : receipt.targetAccount = { target with balance := target.balance + credit }
  /-- The rows of the receipt are stored, and all other rows are as they were. -/
  stored : s'.ledger.account? r.source = some receipt.sourceAccount ∧
    s'.ledger.account? r.target = some receipt.targetAccount
  accounts : s'.ledger.accounts = s.ledger.accounts.map fun a =>
    if a.id = r.source then receipt.sourceAccount
    else if a.id = r.target then receipt.targetAccount else a
  transfers : s'.ledger.transfers = s.ledger.transfers ++ [receipt.transfer]
  entries : s'.ledger.entries = s.ledger.entries ++ [receipt.sourceEntry, receipt.targetEntry]
  rates : s'.rates = s.rates
  sessions : s'.sessions = s.sessions

/-- What becomes of an order, by what can be said against it. -/
structure Fulfilled (r : TransferOrder) (s : Stores)
    (run : Except BankError TransferReceipt × Stores) : Prop where
  /-- The first objection is the answer, and it is as if nobody had asked. -/
  refused : ∀ e, firstOf (r.objections s) = some e → run.1 = .error e ∧ run.2.Untouched s
  /-- An order that nothing is said against is carried out. -/
  done : firstOf (r.objections s) = none → ∃ receipt source target credit rate,
    run.1 = .ok receipt ∧ Settles r s run.2 receipt source target credit rate
  /-- Again no row is locked. -/
  unlocked : run.2.ledger.Unlocked

/-! ## Both ends of an attempt -/

/-- Stores that have been kept for an attempt alone, and of which no number was drawn, are
untouched. -/
theorem untouched_of_lone {units : List UnitId} (h : Lone s s' units)
    (hnumbers : s'.ledger.SameNumbers s.ledger) : s'.Untouched s :=
  ⟨h.kept.books, h.rates, h.sessions, h.kept.nextAccount, hnumbers.1, hnumbers.2⟩

/-- A plan that is posted settles the order. -/
theorem settles_of_post {p : Plan} {source target : Account} {credit : Int} {rate : Option Decimal}
    (hp : p = ⟨source, target, r.amount, credit, rate, source.balance - r.amount,
      target.balance + credit⟩)
    (hsource : s.ledger.account? r.source = some source)
    (htarget : s.ledger.account? r.target = some target) (hne : r.source ≠ r.target)
    (hprice : r.price s.rates source target = .ok (credit, rate)) (hreceipt : p.Receipts receipt)
    (hbooks : s'.ledger.SameBooks (p.post receipt s.ledger)) (hrates : s'.rates = s.rates)
    (hsessions : s'.sessions = s.sessions) : Settles r s s' receipt source target credit rate := by
  obtain ⟨haccounts, htransfers, hentries⟩ := hbooks
  have hsourceId : source.id = r.source := (Ledger.account?_spec hsource).2
  have htargetId : target.id = r.target := (Ledger.account?_spec htarget).2
  -- the plan writes to the two rows of the order, and the receipt carries the rows as written
  have hafter : ∀ a, p.rowAfter a = if a.id = r.source then receipt.sourceAccount
      else if a.id = r.target then receipt.targetAccount else a := by
    intro a
    rw [hreceipt.source, hreceipt.target, Plan.rowAfter, hp, hsourceId, htargetId]
  have hrow := p.account?_settle haccounts
  obtain ⟨htransfer, hdebit, hcredit, hsourceAfter, htargetAfter⟩ := hreceipt
  refine ⟨hsource, htarget, hprice, ?_, ?_, ?_, ?_, ?_, ⟨?_, ?_⟩, ?_, htransfers, hentries, hrates,
    hsessions⟩
  · unfold Plan.Transfers at htransfer
    rw [hp, hsourceId, htargetId] at htransfer
    exact htransfer
  · unfold Plan.Debits at hdebit
    rw [hp, hsourceId] at hdebit
    exact hdebit
  · unfold Plan.Credits at hcredit
    rw [hp, htargetId] at hcredit
    exact hcredit
  · rw [hsourceAfter, hp]
    rfl
  · rw [htargetAfter, hp]
    rfl
  · rw [hrow, hsource, Option.map_some, hafter, if_pos hsourceId]
  · have hother : target.id ≠ r.source := by
      rw [htargetId]
      exact hne.symm
    rw [hrow, htarget, Option.map_some, hafter, if_neg hother, if_pos htargetId]
  · rw [haccounts]
    exact List.map_congr_left fun a _ => hafter a

/-! ## Every order -/

/-- A loop whose first result is final is that one attempt. -/
theorem alone_retrying_of_final (policy : TransferPolicy)
    (attempt : Procedure Stores (Except BankError TransferReceipt)) (left : Nat) (s : Stores)
    (hfinal : ∀ left, TransferPolicy.retries (attempt.alone s).1 left = false) :
    (policy.retrying attempt left).alone s = attempt.alone s := by
  cases left with
  | zero => rfl
  | succ left => rw [alone_retrying, hfinal, if_neg Bool.false_ne_true]

section Ends

variable {e : BankError} {run : Except BankError TransferReceipt × Stores}

/-- An attempt at an order that is refused. -/
theorem Attempt.Finishes.of_refused (h : Finishes r s run) (hplan : planOn r s = .error e) :
    run.1 = .error e ∧ run.2.Untouched s := by
  obtain ⟨⟨l, hended, hlone⟩, -, hundrawn⟩ := h
  obtain ⟨result, s'⟩ := run
  rcases hended with hrefused | ⟨hother, -⟩ | ⟨hother, -, -, -⟩
  · rw [hplan] at hrefused
    obtain rfl := Except.error.inj hrefused
    exact ⟨rfl, untouched_of_lone hlone (hundrawn e hplan)⟩
  · rw [hplan] at hother
    cases hother
  · rw [hplan] at hother
    cases hother

/-- An attempt at an order that is planned, where the commit does not fail. -/
theorem Attempt.Finishes.of_planned {p : Plan} (h : Finishes r s run) (hplan : planOn r s = .ok p)
    (hfaultless : s.ledger.faults = []) : ∃ receipt, run.1 = .ok receipt ∧ p.Receipts receipt ∧
      run.2.ledger.SameBooks (p.post receipt s.ledger) ∧ run.2.rates = s.rates ∧
      run.2.sessions = s.sessions := by
  obtain ⟨⟨l, hended, hlone⟩, -, -⟩ := h
  obtain ⟨result, s'⟩ := run
  have hhead : s.ledger.faults.head? = none := by
    rw [hfaultless]
    rfl
  rcases hended with hother | ⟨-, hfault⟩ | ⟨hposted, -, hreceipt, hresult⟩
  · rw [hplan] at hother
    cases hother
  · rw [hhead] at hfault
    cases hfault
  · rw [hplan] at hposted
    obtain rfl := Except.ok.inj hposted
    rw [hhead] at hresult
    exact ⟨_, hresult, hreceipt, hlone.kept.books, hlone.rates, hlone.sessions⟩

/-- An order with an objection is fulfilled by the objection, if the stores are untouched. -/
theorem Fulfilled.of_objection (h : firstOf (r.objections s) = some e) (hresult : run.1 = .error e)
    (huntouched : run.2.Untouched s) (hunlocked : run.2.ledger.Unlocked) : Fulfilled r s run := by
  refine ⟨fun e' he' => ?_, fun hnone => ?_, hunlocked⟩
  · rw [h] at he'
    obtain rfl := Option.some.inj he'
    exact ⟨hresult, huntouched⟩
  · rw [h] at hnone
    cases hnone

/-- An order without an objection is fulfilled by settling it. -/
theorem Fulfilled.of_settles {source target : Account} {credit : Int} {rate : Option Decimal}
    (h : firstOf (r.objections s) = none) (hresult : run.1 = .ok receipt)
    (hsettles : Settles r s run.2 receipt source target credit rate)
    (hunlocked : run.2.ledger.Unlocked) : Fulfilled r s run := by
  refine ⟨fun e he => ?_, fun _ => ?_, hunlocked⟩
  · rw [h] at he
    cases he
  · exact ⟨receipt, source, target, credit, rate, hresult, hsettles⟩

end Ends

/-- Carrying out an order on stores where no row is locked and no commit is going to fail. -/
theorem fulfilled_carryOut (hsound : s.ledger.Sound)
    (hrange : ∀ a ∈ s.ledger.accounts, a.balance ≤ greatestStored)
    (hfree : s.ledger.Unlocked) (hfaultless : s.ledger.faults = []) (limit : Delay)
    (policy : TransferPolicy) (r : TransferOrder) :
    Fulfilled r s ((r.carryOut .memory limit policy).alone s) := by
  have hinRange : ∀ a ∈ s.ledger.accounts, a.InRange := fun a ha =>
    ⟨hsound.funded a ha, hrange a ha⟩
  have hcases := verdict_cases r hinRange
  unfold TransferOrder.verdict at hcases
  unfold TransferOrder.carryOut
  rcases check_cases r with ⟨e, hcheck⟩ | ⟨hcheck, hne, hpos⟩
  · -- the order is refused before anything is done
    rw [hcheck] at hcases ⊢
    rcases hcases with ⟨e', hobjection, hrefused⟩ | ⟨_, _, _, _, -, hother, -⟩
    · obtain rfl : e = e' := Except.error.inj hrefused
      exact .of_objection hobjection rfl ⟨⟨rfl, rfl, rfl⟩, rfl, rfl, rfl, rfl, rfl⟩ hfree
    · cases hother
  · have hfinishes := finishes_attempt limit hsound hfree hne hpos
    rw [hcheck] at hcases ⊢
    rcases hcases with ⟨e, hobjection, hrefused⟩ |
      ⟨source, target, credit, rate, hnone, -, hsource, htarget, hprice, hplan⟩
    · -- the attempt is refused, and for good
      obtain ⟨hresult, huntouched⟩ := hfinishes.of_refused hrefused
      have hfinal : ∀ left, TransferPolicy.retries
          ((procedure .memory limit r (.calling .begin)).alone s).1 left = false := by
        intro left
        rw [hresult, TransferPolicy.retries, mayRetry_of_objection hobjection, Bool.false_and]
      show Fulfilled r s ((policy.retrying _ policy.maxRetries).alone s)
      rw [alone_retrying_of_final _ _ _ _ hfinal]
      exact .of_objection hobjection hresult huntouched hfinishes.unlocked
    · -- the attempt is the only one
      obtain ⟨receipt, hresult, hreceipt, hbooks, hrates, hsessions⟩ :=
        hfinishes.of_planned hplan hfaultless
      have hfinal : ∀ left, TransferPolicy.retries
          ((procedure .memory limit r (.calling .begin)).alone s).1 left = false := by
        intro left
        rw [hresult]
        rfl
      show Fulfilled r s ((policy.retrying _ policy.maxRetries).alone s)
      rw [alone_retrying_of_final _ _ _ _ hfinal]
      exact .of_settles hnone hresult
        (settles_of_post rfl hsource htarget hne hprice hreceipt hbooks hrates hsessions)
        hfinishes.unlocked

/-- Ten of one currency become 1300 of another on an account with a smaller number, while a unit
is open that has locked nothing. -/
theorem fulfilled_carryOut_across :
    let moves : List Move := [.openEmpty "bob" .kes default, .openFunded "ann" .usd 100 default,
      .begin]
    let rates : RateTable := (RateTable.empty.create ⟨.usd, .kes, by decide⟩
      ⟨false, 1300, 1, by decide, by decide⟩ default).2
    let s : Stores := ⟨default, Ledger.empty.run moves, rates, {}⟩
    let r : TransferOrder := ⟨⟨2⟩, ⟨1⟩, 10, .usd, "ann"⟩
    let run := (r.carryOut .memory .zero {}).alone s
    s.ledger.Sound ∧ (∀ a ∈ s.ledger.accounts, a.balance ≤ greatestStored) ∧ s.ledger.Unlocked ∧
      s.ledger.faults = [] ∧ firstOf (r.objections s) = none ∧
      ∃ receipt, run.1 = .ok receipt ∧ run.2.ledger.transfers = [receipt.transfer] ∧
        run.2.ledger.accounts.map Account.balance = [1300, 90] := by
  intro moves rates s r run
  have hsound : s.ledger.Sound := Ledger.sound_run_empty moves
  have hrange : ∀ a ∈ s.ledger.accounts, a.balance ≤ greatestStored := by decide
  have hfree : s.ledger.Unlocked := ⟨by decide, by decide⟩
  have hfaultless : s.ledger.faults = [] := rfl
  have hnone : firstOf (r.objections s) = none := by decide
  have hfulfilled := fulfilled_carryOut hsound hrange hfree hfaultless .zero {} r
  obtain ⟨receipt, source, target, credit, rate, hresult, hsettles⟩ := hfulfilled.done hnone
  refine ⟨hsound, hrange, hfree, hfaultless, hnone, receipt, hresult, hsettles.transfers, ?_⟩
  -- the rows and the price are functions of the state, so they are the ones written down here
  obtain rfl : (⟨⟨2⟩, "ann", 100, .usd, default⟩ : Account) = source :=
    Option.some.inj hsettles.source_row
  obtain rfl : (⟨⟨1⟩, "bob", 0, .kes, default⟩ : Account) = target :=
    Option.some.inj hsettles.target_row
  have hprice : (r.price s.rates ⟨⟨2⟩, "ann", 100, .usd, default⟩
      ⟨⟨1⟩, "bob", 0, .kes, default⟩).toOption.map Prod.fst = some 1300 := by decide
  rw [hsettles.priced] at hprice
  obtain rfl : credit = 1300 := Option.some.inj hprice
  rw [hsettles.accounts, hsettles.sourceAccount, hsettles.targetAccount]
  rfl

end CountingHouse
