/-
Exactly once, whatever the commits do.

A caller who has the ledger to itself carries out an order under a policy that allows so
many retries, while the commits to come fail as scheduled. `Executed` says what comes of
it, by what `verdict` thinks of the order and by the number of refusals in a row that
stand at the head of the queue of faults.

The proof is an induction on the retries that are left. An attempt ends in one of three
ways (`Attempt.Ended`). If it was refused by contention, it has taken one fault and changed
nothing else, so the rest of the loop runs as if it had begun with one fault and one retry
less (`Executed.retry`). In both other cases the loop is over, because neither a receipt
nor an uncertain outcome is retried: this is where a second debit is ruled out.
-/
import CountingHouse.Proofs.Transfer.Alone

set_option autoImplicit false

namespace CountingHouse

open Attempt

/-! ## The verdict and the outcome -/

/-- The plan of an order that is checked first, or why it is refused. -/
def TransferOrder.verdict (r : TransferOrder) (s : Stores) : Except BankError Plan := do
  let r ← r.check
  planOn r s

/-- The number of commits that are going to be refused one after the other. -/
def Ledger.contentions (l : Ledger) : Nat :=
  (l.faults.takeWhile fun fault => fault = .contention).length

/-- What carrying out an order does to a ledger that nobody else uses. -/
structure Executed (r : TransferOrder) (verdict : Except BankError Plan) (retries : Nat)
    (l : Ledger) (result : Except BankError TransferReceipt) (l' : Ledger) : Prop where
  /-- A plan is one for this order. -/
  serves : ∀ p, verdict = .ok p → p.Suits r
  /-- A refused order consumes no fault and changes nothing. -/
  refused : ∀ e, verdict = .error e →
    result = .error e ∧ l'.faults = l.faults ∧ l'.SameBooks l
  /-- Too many refused commits consume one fault each and change nothing. -/
  exhausted : ∀ p, verdict = .ok p → retries < l.contentions →
    result = .error (.contention .concurrentUpdate) ∧
      l'.faults = l.faults.drop (retries + 1) ∧ l'.SameBooks l
  /-- A lost acknowledgement leaves the outcome open, but the plan is posted, once. -/
  uncertain : ∀ p, verdict = .ok p → l.contentions ≤ retries →
    l.faults[l.contentions]? = some .lostAcknowledgement →
    result = .error (.indeterminate .lostAcknowledgement) ∧
      l'.faults = l.faults.drop (l.contentions + 1) ∧
      ∃ receipt, p.Receipts receipt ∧ l'.SameBooks (p.post receipt l)
  /-- Otherwise the receipt is that of the plan, which is posted once. -/
  done : ∀ p, verdict = .ok p → l.contentions ≤ retries →
    l.faults[l.contentions]? ≠ some .lostAcknowledgement →
    l'.faults = l.faults.drop l.contentions ∧
      ∃ receipt, result = .ok receipt ∧ p.Receipts receipt ∧ l'.SameBooks (p.post receipt l)
  /-- No lock is left and nobody waits. -/
  released : l'.units = [] ∧ l'.queue = []

variable {r : TransferOrder} {s s' : Stores} {l l₁ l' : Ledger} {p : Plan}
variable {verdict : Except BankError Plan} {result : Except BankError TransferReceipt}
variable {retries : Nat}

/-! ## Counting faults -/

/-- A contention that is next is one more than those behind it. -/
theorem contentions_of_head (hf : l.faults = .contention :: l₁.faults) :
    l.contentions = l₁.contentions + 1 := by
  unfold Ledger.contentions
  rw [hf, List.takeWhile_cons_of_pos (by simp), List.length_cons]

/-- If no contention is next, the count is zero, whatever comes later. -/
theorem contentions_eq_zero (hf : l.faults.head? ≠ some .contention) : l.contentions = 0 := by
  unfold Ledger.contentions
  rcases hfaults : l.faults with _ | ⟨fault, faults⟩
  · rfl
  · have hne : fault ≠ .contention := by
      intro heq
      rw [hfaults, heq] at hf
      exact hf rfl
    rw [List.takeWhile_cons_of_neg (by simpa using hne), List.length_nil]

/-! ## One attempt -/

/-- A verdict has one plan. -/
theorem eq_of_verdict {q : Plan} (hv : verdict = .ok p) (hq : verdict = .ok q) : q = p := by
  rw [hv] at hq
  exact (Except.ok.inj hq).symm

/-- A refused order is carried out by leaving everything as it was, with any number of retries. -/
theorem Executed.of_error {e : BankError} (hv : verdict = .error e) (hf : l'.faults = l.faults)
    (hbooks : l'.SameBooks l) (hreleased : l'.units = [] ∧ l'.queue = []) :
    Executed r verdict retries l (.error e) l' := by
  have hno : ∀ p, verdict ≠ .ok p := by
    intro p hp
    rw [hv] at hp
    cases hp
  refine ⟨fun p hp => absurd hp (hno p), ?_, fun p hp => absurd hp (hno p),
    fun p hp => absurd hp (hno p), fun p hp => absurd hp (hno p), hreleased⟩
  intro e' he'
  rw [hv] at he'
  obtain rfl := Except.error.inj he'
  exact ⟨rfl, hf, hbooks⟩

/-- An order that meets contention when no retries are left is exhausted, and has consumed the one
fault. -/
theorem Executed.of_contention (hv : verdict = .ok p) (hsuits : p.Suits r)
    (hf : l.faults = .contention :: l'.faults) (hbooks : l'.SameBooks l)
    (hreleased : l'.units = [] ∧ l'.queue = []) :
    Executed r verdict 0 l (.error (.contention .concurrentUpdate)) l' := by
  have hcount : l.contentions = l'.contentions + 1 := contentions_of_head hf
  -- a fault stands first and no retry is left, so only the clause of exhaustion applies
  refine ⟨?_, ?_, ?_, ?_, ?_, hreleased⟩
  · intro q hq
    rw [eq_of_verdict hv hq]
    exact hsuits
  · intro e he
    rw [hv] at he
    cases he
  · intro q hq hmany
    refine ⟨rfl, ?_, hbooks⟩
    rw [hf]
    rfl
  · intro q hq hfew
    omega
  · intro q hq hfew
    omega

/-- An order that meets no contention is applied at once, whatever the retries, and the fault that
is due decides what is answered. -/
theorem Executed.of_applied {receipt : TransferReceipt} (hv : verdict = .ok p)
    (hsuits : p.Suits r) (hhead : l.faults.head? ≠ some .contention)
    (hreceipt : p.Receipts receipt)
    (hresult : result = (Ledger.acknowledgement l.faults.head?).map fun _ => receipt)
    (hf : l'.faults = l.faults.tail) (hbooks : l'.SameBooks (p.post receipt l))
    (hreleased : l'.units = [] ∧ l'.queue = []) : Executed r verdict retries l result l' := by
  have hcount : l.contentions = 0 := contentions_eq_zero hhead
  have hnext : l.faults[l.contentions]? = l.faults.head? := by
    rw [hcount, List.head?_eq_getElem?]
  refine ⟨?_, ?_, ?_, ?_, ?_, hreleased⟩
  · intro q hq
    rw [eq_of_verdict hv hq]
    exact hsuits
  · intro e he
    rw [hv] at he
    cases he
  · intro q hq hmany
    omega
  · intro q hq hfew hlost
    rw [hnext] at hlost
    rw [eq_of_verdict hv hq, hresult, hlost, hcount, List.drop_one]
    exact ⟨rfl, hf, receipt, hreceipt, hbooks⟩
  · intro q hq hfew hlost
    rw [hnext] at hlost
    -- what stands at the head is neither fault, so there is none
    have hnone : l.faults = [] := by
      rcases hfaults : l.faults with _ | ⟨fault, faults⟩
      · rfl
      · rw [hfaults] at hhead hlost
        rcases fault with _ | _
        · exact absurd rfl hhead
        · exact absurd rfl hlost
    rw [eq_of_verdict hv hq, hcount, List.drop_zero]
    refine ⟨?_, receipt, ?_, hreceipt, hbooks⟩
    · rw [hf, hnone]
      rfl
    · rw [hresult, hnone]
      rfl

/-! ## The loop -/

/-- Posting a plan on the same books gives the same books. -/
theorem sameBooks_post (receipt : TransferReceipt) (h : l₁.SameBooks l) :
    (p.post receipt l₁).SameBooks (p.post receipt l) := by
  obtain ⟨haccounts, htransfers, hentries⟩ := h
  refine ⟨?_, ?_, ?_⟩
  · exact congrArg p.settle haccounts
  · exact congrArg (· ++ [receipt.transfer]) htransfers
  · exact congrArg (· ++ [receipt.sourceEntry, receipt.targetEntry]) hentries

/-- A refused commit before the rest of the loop costs one fault and one retry. -/
theorem Executed.retry (h : Executed r verdict retries l₁ result l') (hv : verdict = .ok p)
    (hf : l.faults = .contention :: l₁.faults) (hbooks : l₁.SameBooks l) :
    Executed r verdict (retries + 1) l result l' := by
  have hcount : l.contentions = l₁.contentions + 1 := contentions_of_head hf
  have hnext : l.faults[l.contentions]? = l₁.faults[l₁.contentions]? := by
    rw [hf, hcount, List.getElem?_cons_succ]
  have hdrop : ∀ k, l.faults.drop (k + 1) = l₁.faults.drop k := by
    intro k
    rw [hf, List.drop_succ_cons]
  -- each clause is that of the later attempts, whose queue is one fault shorter
  refine ⟨h.serves, ?_, ?_, ?_, ?_, h.released⟩
  · intro e he
    rw [hv] at he
    cases he
  · intro q hq hmany
    obtain ⟨hresult, hfaults, hsame⟩ := h.exhausted q hq (by omega)
    rw [hdrop]
    exact ⟨hresult, hfaults, hsame.trans hbooks⟩
  · intro q hq hfew hlost
    rw [hnext] at hlost
    obtain ⟨hresult, hfaults, receipt, hreceipt, hsame⟩ := h.uncertain q hq (by omega) hlost
    rw [hcount, hdrop]
    exact ⟨hresult, hfaults, receipt, hreceipt, hsame.trans (sameBooks_post receipt hbooks)⟩
  · intro q hq hfew hlost
    rw [hnext] at hlost
    obtain ⟨hfaults, receipt, hresult, hreceipt, hsame⟩ := h.done q hq (by omega) hlost
    rw [hcount, hdrop]
    exact ⟨hfaults, receipt, hresult, hreceipt, hsame.trans (sameBooks_post receipt hbooks)⟩

/-- One round of the loop, whatever it is that is tried again. -/
theorem alone_retrying {σ α : Type} (policy : TransferPolicy)
    (attempt : Procedure σ (Except BankError α)) (left : Nat) (s : σ) :
    (policy.retrying attempt (left + 1)).alone s
      = if TransferPolicy.retries (attempt.alone s).1 (left + 1) = true then
          (policy.retrying attempt left).alone (attempt.alone s).2
        else attempt.alone s := by
  rw [TransferPolicy.retrying, Procedure.alone_bind]
  by_cases hretry : TransferPolicy.retries (attempt.alone s).1 (left + 1) = true
  · rw [if_pos hretry, if_pos hretry]
    rfl
  · rw [if_neg hretry, if_neg hretry]
    rfl

/-- A refused commit is tried again while retries are left. -/
theorem retries_of_contention (left : Nat) :
    TransferPolicy.retries (.error (.contention .concurrentUpdate) :
      Except BankError TransferReceipt) (left + 1) = true := by
  simp [TransferPolicy.retries, BankError.mayRetry, BankError.kind]

/-- What has been posted is not tried again, whether or not that was acknowledged. -/
theorem not_retries_of_applied (fault : Option CommitFault) (receipt : TransferReceipt)
    (left : Nat) :
    ¬ TransferPolicy.retries ((Ledger.acknowledgement fault).map fun _ => receipt) left = true := by
  unfold Ledger.acknowledgement
  by_cases hlost : fault = some .lostAcknowledgement
  · rw [if_pos hlost]
    exact Bool.false_ne_true
  · rw [if_neg hlost]
    exact Bool.false_ne_true

/-- Where no other unit was open, none is open, and so nobody waits. -/
theorem released_of_lone {s₀ : Stores} (h : Lone s₀ s []) :
    s.ledger.units = [] ∧ s.ledger.queue = [] := by
  have hidle : s.ledger.units = [] := List.map_eq_nil_iff.mp h.kept.units
  exact ⟨hidle, h.sound.queue_eq_nil hidle⟩

/-- A contention that is next is the head of the schedule. -/
theorem faults_of_contention (hf : l.faults.head? = some .contention) :
    l.faults = .contention :: l.faults.tail := by
  rcases hfaults : l.faults with _ | ⟨fault, faults⟩
  · rw [hfaults] at hf
    cases hf
  · rw [hfaults] at hf
    obtain rfl := Option.some.inj hf
    rfl

/-- A loop that has so many retries left, on stores that nobody else uses. -/
theorem executed_retrying (policy : TransferPolicy) (limit : Delay) (h : s.ledger.Sound)
    (hidle : s.ledger.units = []) (hne : r.source ≠ r.target) (hpos : 1 ≤ r.amount)
    {result : Except BankError TransferReceipt} {s' : Stores}
    (hrun : (policy.retrying (procedure .memory limit r (.calling .begin)) retries).alone s
      = (result, s')) :
    Executed r (planOn r s) retries s.ledger result s'.ledger := by
  -- by induction on the retries; every attempt starts on what the one before has left
  induction retries generalizing s with
  | zero =>
    unfold TransferPolicy.retrying at hrun
    obtain ⟨l₀, hended, hlone⟩ := alone_attempt limit h hidle hne hpos
    rw [hrun] at hended hlone
    have hreleased := released_of_lone hlone
    rcases hended with hplan | ⟨hplan, hf⟩ | ⟨hplan, hf, hreceipt, hresult⟩
    · exact .of_error hplan hlone.kept.faults hlone.kept.books hreleased
    · obtain ⟨-, -, hsuits, -⟩ := suits_of_planOn hne hpos hplan
      refine .of_contention hplan hsuits ?_ hlone.kept.books hreleased
      rw [hlone.kept.faults]
      exact faults_of_contention hf
    · obtain ⟨-, -, hsuits, -⟩ := suits_of_planOn hne hpos hplan
      exact .of_applied hplan hsuits hf hreceipt hresult hlone.kept.faults hlone.kept.books
        hreleased
  | succ left ih =>
    obtain ⟨l₀, hended, hlone⟩ := alone_attempt limit h hidle hne hpos
    rw [alone_retrying] at hrun
    generalize (procedure .memory limit r (.calling .begin)).alone s = first at hended hlone hrun
    obtain ⟨result₁, s₁⟩ := first
    have hreleased := released_of_lone hlone
    have hplan₁ : planOn r s₁ = planOn r { s with ledger := l₀ } := hlone.planOn_eq
    rcases hended with hplan | ⟨hplan, hf⟩ | ⟨hplan, hf, hreceipt, hresult⟩
    · rename_i e
      by_cases hretry :
          TransferPolicy.retries (.error e : Except BankError TransferReceipt) (left + 1) = true
      · rw [if_pos hretry] at hrun
        have hrest := ih hlone.sound hreleased.1 hrun
        -- a refusal stays one, however often the order is tried again
        obtain ⟨rfl, hfaults, hbooks⟩ := hrest.refused e (hplan₁.trans hplan)
        exact .of_error hplan (hfaults.trans hlone.kept.faults) (hbooks.trans hlone.kept.books)
          hrest.released
      · rw [if_neg hretry] at hrun
        obtain ⟨rfl, rfl⟩ := Prod.mk.inj hrun
        exact .of_error hplan hlone.kept.faults hlone.kept.books hreleased
    · -- contention: the rest of the loop has one fault and one retry less
      rw [if_pos (retries_of_contention left)] at hrun
      have hrest := ih hlone.sound hreleased.1 hrun
      rw [hplan₁] at hrest
      refine hrest.retry hplan ?_ hlone.kept.books
      rw [hlone.kept.faults]
      exact faults_of_contention hf
    · -- posted: the loop is over
      obtain ⟨-, -, hsuits, -⟩ := suits_of_planOn hne hpos hplan
      change result₁ = _ at hresult
      have hretry : ¬ TransferPolicy.retries result₁ (left + 1) = true := by
        rw [hresult]
        exact not_retries_of_applied _ _ _
      rw [if_neg hretry] at hrun
      obtain ⟨rfl, rfl⟩ := Prod.mk.inj hrun
      exact .of_applied hplan hsuits hf hreceipt hresult hlone.kept.faults hlone.kept.books
        hreleased

/-! ## Every order -/

/-- Carrying out an order on stores that nobody else uses, whatever was done to them before
and whatever the commits do. -/
theorem carryOut_executes (moves : List Move) (clock : Instant) (rates : RateTable)
    (sessions : SessionTable) (limit : Delay) (policy : TransferPolicy) (r : TransferOrder)
    (hidle : (Ledger.empty.run moves).units = []) :
    let s : Stores := ⟨clock, Ledger.empty.run moves, rates, sessions⟩
    let run := (r.carryOut .memory limit policy).alone s
    Executed r (r.verdict s) policy.maxRetries s.ledger run.1 run.2.ledger := by
  intro s
  have hsound : s.ledger.Sound := Ledger.sound_run_empty moves
  unfold TransferOrder.carryOut TransferOrder.verdict
  rcases check_cases r with ⟨e, hcheck⟩ | ⟨hcheck, hne, hpos⟩
  · rw [hcheck]
    exact .of_error rfl rfl ⟨rfl, rfl, rfl⟩ ⟨hidle, hsound.queue_eq_nil hidle⟩
  · rw [hcheck]
    exact executed_retrying policy limit hsound hidle hne hpos rfl

/-- A refused commit is made up for by the second attempt. -/
theorem carryOut_after_contention :
    let moves : List Move := [.openFunded "ann" .usd 10 default, .openEmpty "bob" .usd default,
      .scheduleFault .contention]
    let s : Stores := ⟨default, Ledger.empty.run moves, {}, {}⟩
    let r : TransferOrder := ⟨⟨1⟩, ⟨2⟩, 7, .usd, "ann"⟩
    let run := (r.carryOut .memory .zero {} ).alone s
    s.ledger.units = [] ∧
      run.2.ledger.faults = [] ∧ run.2.ledger.accounts.map Account.balance = [3, 7] ∧
      ∃ receipt, run.1 = .ok receipt := by
  intro moves s r run
  have hidle : s.ledger.units = [] := rfl
  have h := carryOut_executes moves default {} {} .zero {} r hidle
  obtain ⟨hfaults, receipt, hresult, hreceipt, hbooks⟩ :=
    h.done ⟨⟨⟨1⟩, "ann", 10, .usd, default⟩, ⟨⟨2⟩, "bob", 0, .usd, default⟩, 7, 7, none, 3, 7⟩
      rfl (by decide) (by decide)
  refine ⟨hidle, hfaults, ?_, receipt, hresult⟩
  rw [hbooks.1]
  rfl

end CountingHouse
