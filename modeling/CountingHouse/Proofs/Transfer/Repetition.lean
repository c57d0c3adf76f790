/-
Only what has not been written is tried again.

A storage engine reports its failures in two places. A statement that fails has written nothing,
whatever the reason. When the unit of work is to be committed, the same failures mean something
else: the states in which the database gives way to another unit are reported after it has rolled
back, but behind a connection that breaks down nobody knows whether the unit was committed. So the
two readings of a failure agree on what the database itself says and on nothing else, and the only
failures of a commit that may be tried again are those three states
(`StorageError.mayRetry_atCommit_iff`).

The loop over the attempts asks nothing but whether a result may be tried again. Its law is
therefore about attempts of any kind: the attempts run one on what the other has left, all but the
last of them may be tried again, and the last gives the result (`exists_alone_retrying`). With the
first part this says what a caller wants to know: whenever an order is attempted once more, the
attempt before it has ended in a way that leaves nothing written (`Attempt.Ending.IsUndone`).
-/
import CountingHouse.Proofs.Transfer.Retries

set_option autoImplicit false

namespace CountingHouse

/-! ## What a failure means -/

namespace StorageError

/-- The database has given up the unit of work in favour of another. -/
def GivesWay (e : StorageError) : Prop :=
  ∃ state ∈ ["40001", "40P01", "55P03"], ∃ text constraint,
    e = database (some state) text constraint

/-- The connection to the database broke down. -/
def LosesTouch : StorageError → Prop
  | io _ | tls _ | protocol _ | poolClosed | workerCrashed => True
  | _ => False

variable {code constraint : Option String} {text : String}

/-- The database gives way exactly with one of the three states of contention. -/
theorem givesWay_database : (database code text constraint).GivesWay ↔
    ∃ state, code = some state ∧ state ∈ contentionStates := by
  constructor
  · rintro ⟨state, hstate, text', constraint', heq⟩
    obtain ⟨rfl, -, -⟩ := database.inj heq
    exact ⟨state, rfl, hstate⟩
  · rintro ⟨state, rfl, hstate⟩
    exact ⟨state, hstate, text, constraint, rfl⟩

/-- A failure that is none of the database is none in which it gives way. -/
theorem not_givesWay {e : StorageError}
    (h : ∀ code text constraint, e ≠ database code text constraint) : ¬ e.GivesWay := by
  rintro ⟨state, -, text, constraint, heq⟩
  exact h (some state) text constraint heq

/-- The error of a failed statement: contention, if the database gives way or the pool has no free
connection, and otherwise a duplicate or a fault. -/
theorem toBankError_cases (context : String) (e : StorageError) :
    ((e.GivesWay ∨ e = poolTimedOut) ∧ ∃ what, e.toBankError context = .contention what) ∨
      (¬ (e.GivesWay ∨ e = poolTimedOut) ∧
        ((∃ what, e.toBankError context = .duplicate what) ∨
          ∃ fault, e.toBankError context = .internal fault)) := by
  cases e with
  | database code text constraint =>
    have hpool : database code text constraint ≠ poolTimedOut := by
      intro heq
      cases heq
    rcases code with _ | state
    · exact .inr ⟨by simp [givesWay_database], .inr ⟨_, rfl⟩⟩
    · by_cases hgives : state ∈ contentionStates
      · exact .inl ⟨.inl (givesWay_database.mpr ⟨state, rfl, hgives⟩), _, if_pos hgives⟩
      · refine .inr ⟨by simpa [givesWay_database] using hgives, ?_⟩
        by_cases hunique : state = uniqueViolation
        · exact .inl ⟨_, (if_neg hgives).trans (if_pos hunique)⟩
        · exact .inr ⟨_, (if_neg hgives).trans (if_neg hunique)⟩
  | poolTimedOut => exact .inl ⟨.inr rfl, _, rfl⟩
  | _ => exact .inr ⟨by simp [not_givesWay], .inr ⟨_, rfl⟩⟩

/-- Whether an operation may be tried again one of whose statements failed. -/
theorem mayRetry_toBankError_iff (context : String) (e : StorageError) :
    (e.toBankError context).mayRetry = true ↔ e.GivesWay ∨ e = poolTimedOut := by
  rcases toBankError_cases context e with ⟨hyes, what, heq⟩ | ⟨hno, ⟨what, heq⟩ | ⟨fault, heq⟩⟩
  · simp [BankError.mayRetry_iff, heq, hyes]
  · simp [BankError.mayRetry_iff, heq, hno]
  · simp [BankError.mayRetry_iff, heq, hno]

/-- A statement that failed has written nothing, and that is certain. -/
theorem kind_toBankError_ne (context : String) (e : StorageError) :
    (e.toBankError context).kind ≠ .indeterminate := by
  rcases toBankError_cases context e with ⟨-, what, heq⟩ | ⟨-, ⟨what, heq⟩ | ⟨fault, heq⟩⟩
  all_goals simp [heq, BankError.kind]

/-- A failed commit may be tried again if the database has given way, and for no other reason. -/
theorem mayRetry_atCommit_iff (context : String) (e : StorageError) :
    (e.atCommit context).mayRetry = true ↔ e.GivesWay := by
  cases e with
  | database code text constraint =>
    show ((database code text constraint).toBankError context).mayRetry = true ↔ _
    simp [mayRetry_toBankError_iff]
  | _ => simp [BankError.mayRetry_iff, atCommit, not_givesWay]

/-- Nobody knows what became of a unit when the connection broke down at its commit, and then
only. -/
theorem kind_atCommit_iff (context : String) (e : StorageError) :
    (e.atCommit context).kind = .indeterminate ↔ e.LosesTouch := by
  cases e with
  | database code text constraint =>
    have hknown := kind_toBankError_ne context (database code text constraint)
    exact ⟨fun hkind => absurd hkind hknown, False.elim⟩
  | _ => simp [atCommit, BankError.kind, LosesTouch]

end StorageError

/-! ## One attempt after the other -/

namespace Procedure

variable {σ α β : Type}

/-- The state behind so many runs of a procedure, one on what the other has left. -/
def after (p : Procedure σ α) (n : Nat) (s : σ) : σ := (fun s => (p.alone s).2)^[n] s

/-- The result of the run that follows so many others. -/
def nth (p : Procedure σ α) (n : Nat) (s : σ) : α := (p.alone (p.after n s)).1

variable (p : Procedure σ α) (n : Nat) (s : σ)

/-- The state behind one run more is that behind the others, from what the first one left. -/
theorem after_succ : p.after (n + 1) s = p.after n (p.alone s).2 :=
  Function.iterate_succ_apply _ n s

/-- The result of the run that follows one run more is counted from what the first one left. -/
theorem nth_succ : p.nth (n + 1) s = p.nth n (p.alone s).2 := by
  unfold nth
  rw [after_succ]

/-- A procedure whose results are read in another way. -/
theorem alone_map (f : α → β) :
    (p.bind fun a => .finished (f a)).alone s = (f (p.alone s).1, (p.alone s).2) := by
  rw [alone_bind]
  rfl

/-- Reading the results in another way changes no state. -/
theorem after_map (f : α → β) : (p.bind fun a => .finished (f a)).after n s = p.after n s := by
  unfold after
  congr 1
  funext t
  rw [alone_map]

/-- Reading the results in another way is reading each of them so. -/
theorem nth_map (f : α → β) : (p.bind fun a => .finished (f a)).nth n s = f (p.nth n s) := by
  unfold nth
  rw [after_map, alone_map]

/-- A procedure whose results are known beforehand, on a state that counts its runs. -/
def counted (results : Nat → α) : Procedure Nat α := .step fun i => (results i, i + 1)

/-- The state counts the runs. -/
theorem after_counted (results : Nat → α) : (counted results).after n 0 = n := by
  unfold after
  induction n with
  | zero => rfl
  | succ n ih =>
    rw [Function.iterate_succ_apply', ih]
    rfl

/-- Every sequence of results is that of some procedure. -/
theorem nth_counted (results : Nat → α) : (counted results).nth n 0 = results n := by
  unfold nth
  rw [after_counted]
  rfl

end Procedure

section Loop

variable {σ α : Type}

/-- A result with which the loop goes on as long as it may. -/
def Contends (result : Except BankError α) : Prop := ∃ e, result = .error e ∧ e.mayRetry = true

/-- While retries are left the loop goes on exactly behind a result that may be tried again. -/
theorem retries_iff (result : Except BankError α) (left : Nat) :
    TransferPolicy.retries result (left + 1) = true ↔ Contends result := by
  cases result with
  | ok value => simp [TransferPolicy.retries, Contends]
  | error e => simp [TransferPolicy.retries, Contends]

/-- The loop over any attempts at all. Each runs on what the one before has left, all but the last
may be tried again, and the last gives the result; it is the last because it may not be tried again
or because no retries are left. -/
theorem exists_alone_retrying (policy : TransferPolicy)
    (attempt : Procedure σ (Except BankError α)) (left : Nat) (s : σ) :
    ∃ n ≤ left,
      (policy.retrying attempt left).alone s = (attempt.nth n s, attempt.after (n + 1) s) ∧
      (∀ i < n, Contends (attempt.nth i s)) ∧ (n < left → ¬ Contends (attempt.nth n s)) := by
  -- by induction on the retries; the rest of the loop counts its attempts from the second on
  induction left generalizing s with
  | zero =>
    refine ⟨0, le_rfl, rfl, fun i hi => ?_, fun hmore => ?_⟩
    · exact absurd hi (Nat.not_lt_zero i)
    · exact absurd hmore (lt_irrefl 0)
  | succ left ih =>
    rw [alone_retrying]
    by_cases hretry : TransferPolicy.retries (attempt.alone s).1 (left + 1) = true
    · have hcontends : Contends (attempt.nth 0 s) := (retries_iff _ left).mp hretry
      obtain ⟨n, hn, hrun, hfailed, hfinal⟩ := ih (attempt.alone s).2
      refine ⟨n + 1, by omega, ?_, ?_, fun hmore => ?_⟩
      · rw [if_pos hretry, hrun, Procedure.nth_succ, Procedure.after_succ _ (n + 1)]
      · intro i hi
        cases i with
        | zero => exact hcontends
        | succ i =>
          rw [Procedure.nth_succ]
          exact hfailed i (by omega)
      · rw [Procedure.nth_succ]
        exact hfinal (by omega)
    · have hfinal : ¬ Contends (attempt.nth 0 s) := fun h => hretry ((retries_iff _ left).mpr h)
      refine ⟨0, Nat.zero_le _, ?_, fun i hi => ?_, fun _ => hfinal⟩
      · rw [if_neg hretry]
        rfl
      · exact absurd hi (Nat.not_lt_zero i)

end Loop

/-! ## How attempts end -/

/-- How an attempt at an order ends. -/
inductive Attempt.Ending where
  | committed (receipt : TransferReceipt)
  /-- The bank has refused the order, or has not got what it needs, before the commit. -/
  | refused (e : BankError)
  /-- The storage engine has failed before the commit. -/
  | failed (context : String) (e : StorageError)
  | commitFailed (context : String) (e : StorageError)

namespace Attempt.Ending

/-- What the loop is told of an ending. -/
def result : Ending → Except BankError TransferReceipt
  | committed receipt => .ok receipt
  | refused e => .error e
  | failed context e => .error (e.toBankError context)
  | commitFailed context e => .error (e.atCommit context)

/-- The attempt has failed before its commit, or in a commit that the database has rolled back in
favour of another: in either case nothing is written. -/
def IsUndone : Ending → Prop
  | committed _ => False
  | refused _ | failed _ _ => True
  | commitFailed _ e => e.GivesWay

/-- What may be tried again is undone. -/
theorem isUndone_of_contends {ending : Ending} (h : Contends ending.result) : ending.IsUndone := by
  obtain ⟨e, hresult, hretry⟩ := h
  cases ending with
  | committed receipt => cases hresult
  | refused e => trivial
  | failed context e => trivial
  | commitFailed context failure =>
    obtain rfl : failure.atCommit context = e := Except.error.inj hresult
    exact (StorageError.mayRetry_atCommit_iff context failure).mp hretry

end Attempt.Ending

/-! ## Every order -/

section Orders

variable {σ : Type}

/-- Carries out an order by attempts of any kind. -/
def TransferOrder.carryOutBy (p : TransferPolicy)
    (attempt : TransferOrder → Procedure σ (Except BankError TransferReceipt)) (r : TransferOrder) :
    Procedure σ (Except BankError TransferReceipt) :=
  match r.check with
  | .error e => .finished (.error e)
  | .ok r => p.retrying (attempt r) p.maxRetries

/-- The attempts as the loop sees them. -/
def Attempt.told (attempt : TransferOrder → Procedure σ Attempt.Ending) (r : TransferOrder) :
    Procedure σ (Except BankError TransferReceipt) :=
  (attempt r).bind fun ending => .finished ending.result

/-- A run of `n` attempts and one more, by how each of them ended and what the state was behind so
many of them. -/
structure TransferPolicy.Repeats (p : TransferPolicy) (endings : Nat → Attempt.Ending)
    (states : Nat → σ) (run : Except BankError TransferReceipt × σ) (n : Nat) : Prop where
  /-- There is one attempt, and one more for each retry that the policy allows, at most. -/
  bounded : n ≤ p.maxRetries
  /-- The result is that of the last attempt, which is also the last to touch the state. -/
  last : run = ((endings n).result, states (n + 1))
  /-- An attempt that another one follows has left nothing written. -/
  undone : ∀ i < n, (endings i).IsUndone
  /-- Its result is one that may be tried again. -/
  retried : ∀ i < n, Contends (endings i).result
  /-- As long as there are retries left, nobody gives up on such a result. -/
  final : n < p.maxRetries → ¬ Contends (endings n).result

end Orders

/-- What a policy promises of orders that are tried again, and what that rests on. -/
structure TransferPolicy.RetrySafe (p : TransferPolicy) : Prop where
  /-- A failed commit may be tried again if the database has given way, and for no other reason. -/
  commit_mayRetry : ∀ context e, (StorageError.atCommit context e).mayRetry = true ↔ e.GivesWay
  /-- When the connection breaks down at a commit, nobody knows what became of the unit. -/
  commit_unknown : ∀ context e, e.LosesTouch →
    (StorageError.atCommit context e).kind = .indeterminate
  /-- What became of a statement is always known. -/
  statement_known : ∀ context e, (StorageError.toBankError context e).kind ≠ .indeterminate
  /-- What the database itself says means the same at a commit and before. -/
  agree : ∀ context code text constraint,
    (StorageError.database code text constraint).atCommit context =
      (StorageError.database code text constraint).toBankError context
  /-- An order that does not pass its check is not attempted. -/
  unchecked : ∀ {σ : Type} (attempt : TransferOrder → Procedure σ Attempt.Ending)
    (r : TransferOrder) (s : σ) (e : BankError), r.check = .error e →
    (r.carryOutBy p (Attempt.told attempt)).alone s = (.error e, s)
  /-- All others are, whatever the attempts do. -/
  repeated : ∀ {σ : Type} (attempt : TransferOrder → Procedure σ Attempt.Ending)
    (r checked : TransferOrder) (s : σ), r.check = .ok checked →
    ∃ n, p.Repeats (fun i => (attempt checked).nth i s) (fun i => (attempt checked).after i s)
      ((r.carryOutBy p (Attempt.told attempt)).alone s) n
  /-- With endings that are known beforehand the state counts the attempts that are made. -/
  counted : ∀ (endings : Nat → Attempt.Ending) (r checked : TransferOrder), r.check = .ok checked →
    ∃ n, p.Repeats endings id
      ((r.carryOutBy p (Attempt.told fun _ => .counted endings)).alone 0) n
  /-- This is the loop that carries out the orders of the bank. -/
  carryOut_eq : ∀ (b : Backend) (limit : Delay) (r : TransferOrder), r.carryOut b limit p =
    r.carryOutBy p fun r => Attempt.procedure b limit r (.calling .begin)

namespace TransferPolicy

variable {σ : Type} (p : TransferPolicy)

/-- The law of the loop, for attempts of any kind: the states behind the attempts are those of their
own runs. -/
theorem exists_repeats (attempt : TransferOrder → Procedure σ Attempt.Ending)
    (r checked : TransferOrder) (s : σ) (hcheck : r.check = .ok checked) :
    ∃ n, p.Repeats (fun i => (attempt checked).nth i s) (fun i => (attempt checked).after i s)
      ((r.carryOutBy p (Attempt.told attempt)).alone s) n := by
  obtain ⟨n, hn, hrun, hfailed, hfinal⟩ :=
    exists_alone_retrying p (Attempt.told attempt checked) p.maxRetries s
  have hresult : ∀ i, (Attempt.told attempt checked).nth i s = ((attempt checked).nth i s).result :=
    fun i => Procedure.nth_map _ i s _
  have hstate : (Attempt.told attempt checked).after (n + 1) s
      = (attempt checked).after (n + 1) s := Procedure.after_map _ (n + 1) s _
  have hretried : ∀ i < n, Contends ((attempt checked).nth i s).result := by
    intro i hi
    rw [← hresult]
    exact hfailed i hi
  refine ⟨n, hn, ?_, fun i hi => Attempt.Ending.isUndone_of_contends (hretried i hi), hretried, ?_⟩
  · rw [TransferOrder.carryOutBy, hcheck, ← hresult, ← hstate]
    exact hrun
  · intro hmore
    rw [← hresult]
    exact hfinal hmore

/-- The same for any sequence of endings, whether or not an attempt could end so. -/
theorem exists_repeats_counted (endings : Nat → Attempt.Ending) (r checked : TransferOrder)
    (hcheck : r.check = .ok checked) :
    ∃ n, p.Repeats endings id
      ((r.carryOutBy p (Attempt.told fun _ => .counted endings)).alone 0) n := by
  obtain ⟨n, h⟩ := p.exists_repeats (fun _ => .counted endings) r checked 0 hcheck
  have hendings : (fun i => (Procedure.counted endings).nth i 0) = endings :=
    funext fun i => Procedure.nth_counted i endings
  have hstates : (fun i => (Procedure.counted endings).after i 0) = id :=
    funext fun i => Procedure.after_counted i endings
  rw [hendings, hstates] at h
  exact ⟨n, h⟩

end TransferPolicy

/-- Orders are tried again safely under every policy. -/
theorem TransferPolicy.retrySafe (p : TransferPolicy) : p.RetrySafe where
  commit_mayRetry := StorageError.mayRetry_atCommit_iff
  commit_unknown context e := (StorageError.kind_atCommit_iff context e).mpr
  statement_known := StorageError.kind_toBankError_ne
  agree _ _ _ _ := rfl
  unchecked attempt r s e hcheck := by
    rw [TransferOrder.carryOutBy, hcheck]
    rfl
  repeated := p.exists_repeats
  counted := p.exists_repeats_counted
  carryOut_eq _ _ _ := rfl

/-- A deadlock and a serialization failure are made up for. What follows the broken connection is
not tried, although there is a retry left. -/
example :
    let endings : Nat → Attempt.Ending := fun
      | 0 => .failed "failed to lock account" (.database (some "40P01") "deadlock detected" none)
      | 1 => .commitFailed "failed to commit transfer" (.database (some "40001") "conflict" none)
      | 2 => .commitFailed "failed to commit transfer" (.io "reset")
      | _ => .refused (.sameAccount ⟨1⟩)
    let r : TransferOrder := ⟨⟨1⟩, ⟨2⟩, 7, .usd, "ann"⟩
    let run := (r.carryOutBy {} (Attempt.told fun _ => .counted endings)).alone 0
    run.2 = 3 ∧ run.1.toOption = none := ⟨rfl, rfl⟩

end CountingHouse
