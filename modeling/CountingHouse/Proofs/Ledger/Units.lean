/-
What the calls of a unit of work do, told by what can be looked up afterwards.

A ledger is looked at in two ways. `account?` finds the committed row of an account and
`unit?` finds an open unit, which carries its working copies and its buffers. Both are
first matches in a list, and both behave like maps: a call of a unit changes at most the
entry of that unit, and only a commit and the opening of an account change committed
rows. Every later argument about units goes through the laws of this file and leaves the
lists alone.

The one law that is more than bookkeeping is `lock_cases`: it lists the ways in which a
request for a row can end, with everything that was found out on the way. In particular
a row that is granted anew was held by nobody (`not_holds_of_mayLock`), which is where
the exclusion of two holders comes from.
-/
import CountingHouse.Ledger.UnitOfWork
import Mathlib

set_option autoImplicit false

namespace CountingHouse

/-- Where keys are not repeated, a row is found by its key. -/
theorem find?_key_of_mem {α κ : Type} [DecidableEq κ] (key : α → κ) {rows : List α}
    (hrows : (rows.map key).Nodup) {a : α} (ha : a ∈ rows) :
    rows.find? (fun b => key b == key a) = some a := by
  induction rows with
  | nil => exact absurd ha List.not_mem_nil
  | cons b rows ih =>
    obtain ⟨hfresh, hrest⟩ := List.nodup_cons.mp hrows
    rcases List.mem_cons.mp ha with rfl | ha
    · have hkey : (key a == key a) = true := beq_self_eq_true (key a)
      exact List.find?_cons_of_pos (p := fun b => key b == key a) hkey
    · have hne : key b ≠ key a := by
        intro heq
        rw [heq] at hfresh
        exact hfresh (List.mem_map_of_mem ha)
      rw [List.find?_cons_of_neg (by simpa using hne)]
      exact ih hrest ha

/-- The first match of a key after a change that keeps the keys. -/
theorem find?_key_map {α κ : Type} [DecidableEq κ] (key : α → κ) (change : α → α)
    (hchange : ∀ a, key (change a) = key a) (rows : List α) (k : κ) :
    (rows.map change).find? (fun b => key b == k)
      = (rows.find? fun b => key b == k).map change := by
  rw [List.find?_map]
  have hcomp : ((fun b => key b == k) ∘ change) = fun b => key b == k := by
    funext b
    rw [Function.comp_apply, hchange]
  rw [hcomp]

/-! ## The copies of a unit -/

namespace OpenUnit

variable {u : OpenUnit} {row other : AccountId} {a : Account}

def take (a : Account) (u : OpenUnit) : OpenUnit := { u with held := u.held ++ [a] }

def write (row : AccountId) (a : Account) (u : OpenUnit) : OpenUnit :=
  { u with held := u.held.map fun c => if c.id == row then a else c }

def addTransfer (t : Transfer) (u : OpenUnit) : OpenUnit :=
  { u with transfers := u.transfers ++ [t] }

def addEntry (e : Entry) (u : OpenUnit) : OpenUnit := { u with entries := u.entries ++ [e] }

/-- A copy of a row is among what the unit holds, under the number of the row. -/
theorem copy?_spec (h : u.copy? row = some a) : a ∈ u.held ∧ a.id = row :=
  ⟨List.mem_of_find?_eq_some h, by simpa using List.find?_some h⟩

/-- A unit holds a row exactly if it has a copy of it. -/
theorem holds_eq_isSome (u : OpenUnit) (row : AccountId) :
    u.holds row = (u.copy? row).isSome := by
  rw [Bool.eq_iff_iff, copy?, List.find?_isSome, holds, List.any_eq_true]

/-- A copy that is taken is found behind those that were there before. -/
theorem copy?_take (u : OpenUnit) (a : Account) (other : AccountId) :
    (u.take a).copy? other
      = (u.copy? other).or (if a.id = other then some a else none) := by
  unfold take copy?
  rw [List.find?_append]
  by_cases h : a.id = other
  · rw [if_pos h, List.find?_cons_of_pos (by simpa using h)]
  · rw [if_neg h, List.find?_cons_of_neg (by simpa using h), List.find?_nil]

/-- What was put into a copy is found there; the other copies are as before. -/
theorem copy?_write (u : OpenUnit) (row other : AccountId) (ha : a.id = row) :
    (u.write row a).copy? other
      = if other = row then (u.copy? row).map fun _ => a else u.copy? other := by
  have hkeep : ∀ c : Account, (if c.id == row then a else c).id = c.id := by
    intro c
    split
    · next h => rw [ha, beq_iff_eq.mp h]
    · rfl
  have hmap : (u.write row a).copy? other
      = (u.copy? other).map fun c => if c.id == row then a else c :=
    find?_key_map Account.id _ hkeep u.held other
  -- the copy that is found is the one that was written, or one that was passed over
  rw [hmap]
  cases h : u.copy? other with
  | none =>
    by_cases ho : other = row
    · rw [if_pos ho, ← ho, h, Option.map_none, Option.map_none]
    · rw [if_neg ho, Option.map_none]
  | some c =>
    have hc : c.id = other := (copy?_spec h).2
    by_cases ho : other = row
    · rw [if_pos ho, ← ho, h, Option.map_some, Option.map_some, hc, if_pos (beq_self_eq_true _)]
    · rw [if_neg ho, Option.map_some, hc, if_neg (by simpa using ho)]

end OpenUnit

namespace Ledger

variable {l : Ledger} {n m : UnitId} {u : OpenUnit} {row : AccountId} {a : Account}

/-! ## Units -/

/-- A unit is found under its own number. -/
theorem id_of_unit? (h : l.unit? n = some u) : u.id = n := by
  simpa using List.find?_some h

/-- A unit that is found is open. -/
theorem mem_units_of_unit? (h : l.unit? n = some u) : u ∈ l.units := List.mem_of_find?_eq_some h

/-- A row that is found is committed, under the number that was asked for. -/
theorem account?_spec (h : l.account? row = some a) : a ∈ l.accounts ∧ a.id = row :=
  ⟨List.mem_of_find?_eq_some h, by simpa using List.find?_some h⟩

/-- A row that is found is found under its own number, too. -/
theorem account?_id (h : l.account? row = some a) : l.account? a.id = some a := by
  rw [(account?_spec h).2]
  exact h

/-- A change of one unit shows under the name of that unit and nowhere else. -/
theorem unit?_modifyUnit (l : Ledger) (n m : UnitId) (change : OpenUnit → OpenUnit)
    (hchange : ∀ u, (change u).id = u.id) :
    (l.modifyUnit n change).unit? m = if m = n then (l.unit? n).map change else l.unit? m := by
  have hkeep : ∀ u : OpenUnit, (if u.id == n then change u else u).id = u.id := by
    intro u
    split
    · exact hchange u
    · rfl
  have hmap : (l.modifyUnit n change).unit? m
      = (l.unit? m).map fun u => if u.id == n then change u else u :=
    find?_key_map OpenUnit.id _ hkeep l.units m
  -- the unit that is found is the changed one, or one that was passed over
  rw [hmap]
  cases h : l.unit? m with
  | none =>
    by_cases hm : m = n
    · rw [if_pos hm, ← hm, h, Option.map_none, Option.map_none]
    · rw [if_neg hm, Option.map_none]
  | some u =>
    have hu : u.id = m := id_of_unit? h
    by_cases hm : m = n
    · rw [if_pos hm, ← hm, h, Option.map_some, Option.map_some, hu, if_pos (beq_self_eq_true m)]
    · rw [if_neg hm, Option.map_some, hu, if_neg (by simpa using hm)]

/-- The unit that was begun is open and empty; the others are open as before. -/
theorem unit?_beginUnit (l : Ledger) (m : UnitId) (hfresh : l.unit? ⟨l.nextUnit⟩ = none) :
    l.beginUnit.2.unit? m
      = if m = ⟨l.nextUnit⟩ then some { id := ⟨l.nextUnit⟩ } else l.unit? m := by
  unfold beginUnit
  simp only [unit?] at hfresh ⊢
  rw [List.find?_append]
  by_cases hm : m = ⟨l.nextUnit⟩
  · subst hm
    rw [hfresh, if_pos rfl, Option.none_or, List.find?_cons_of_pos (by simp)]
  · rw [if_neg hm, List.find?_cons_of_neg (by simpa using Ne.symm hm), List.find?_nil,
      Option.or_none]

/-- Who is open after a unit was dropped: everybody else. -/
theorem unit?_dropUnit_eq (l : Ledger) (n m : UnitId) :
    (l.dropUnit n).unit? m = if m = n then none else l.unit? m := by
  by_cases hm : m = n
  · rw [if_pos hm, hm, unit?_dropUnit]
  · rw [if_neg hm]
    simp only [unit?, dropUnit]
    rw [List.find?_filter]
    congr 1
    funext u
    by_cases hu : u.id = m
    · simp [hu, hm]
    · simp [hu]

/-! ## Opening accounts -/

def addRow (a : Account) (l : Ledger) : Ledger :=
  { l with accounts := l.accounts ++ [a], nextAccount := l.nextAccount + 1 }

/-- An account is refused and nothing changes, or its row is added under the next number. -/
theorem addAccount_cases (l : Ledger) (owner : String) (currency : Currency) (balance : Int)
    (now : Instant) :
    l.addAccount owner currency balance now = (.error (.duplicate (.account owner currency)), l) ∨
    ((l.accounts.any fun a => a.owner == owner && a.currency == currency) = false ∧
      l.addAccount owner currency balance now
        = (.ok ⟨⟨l.nextAccount⟩, owner, balance, currency, now⟩,
          l.addRow ⟨⟨l.nextAccount⟩, owner, balance, currency, now⟩)) := by
  unfold addAccount
  split
  · exact .inl rfl
  · next h => exact .inr ⟨by simpa using h, rfl⟩

/-- An opening with a balance is refused if that is negative, and is otherwise like any other
opening. -/
theorem addFundedAccount_cases (l : Ledger) (owner : String) (currency : Currency)
    (balance : Int) (now : Instant) :
    (balance < 0 ∧ l.addFundedAccount owner currency balance now
      = (Violation.negativeOpeningBalance.refuse, l)) ∨
    (0 ≤ balance ∧ l.addFundedAccount owner currency balance now
      = l.addAccount owner currency balance now) := by
  unfold addFundedAccount
  split
  · next h => exact .inl ⟨h, rfl⟩
  · next h => exact .inr ⟨by omega, rfl⟩

/-- A row that is found is found still when another one has been added. -/
theorem account?_addRow (b : Account) (ha : l.account? row = some a) :
    (l.addRow b).account? row = some a := by
  unfold account? at ha ⊢
  rw [addRow, List.find?_append, ha, Option.some_or]

/-! ## Requests for rows -/

/-- Whoever may lock a row finds no other unit holding it. -/
theorem not_holds_of_mayLock (h : l.mayLock n row = true) {v : OpenUnit}
    (hv : l.unit? m = some v) (hm : m ≠ n) : v.holds row = false := by
  unfold mayLock at h
  rw [Bool.and_eq_true, List.all_eq_true] at h
  have hall := h.1 v (mem_units_of_unit? hv)
  have hid : v.id = m := id_of_unit? hv
  rw [hid] at hall
  simpa [hm] using hall

/-- A unit that has a copy of a row is granted that copy, and nothing changes. -/
theorem lock_of_copy (hu : l.unit? n = some u) (hc : u.copy? row = some a) :
    l.lock n row = (.granted a, l) := by
  simp only [lock, hu, hc]

/-- The ledger on which a unit has taken a row: the request has left the queue and the
unit has a copy. -/
def grant (n : UnitId) (a : Account) (row : AccountId) (l : Ledger) : Ledger :=
  { l with queue := l.queue.filter (· != (n, row)) }.modifyUnit n (OpenUnit.take a)

/-- A unit that may have a row is granted the committed one, and has a copy of it from then on. -/
theorem lock_of_mayLock (hu : l.unit? n = some u) (hc : u.copy? row = none)
    (ha : l.account? row = some a) (hm : l.mayLock n row = true) :
    l.lock n row = (.granted a, l.grant n a row) := by
  simp only [lock, hu, hc, ha, hm, if_true]
  rfl

/-- How a request for a row ends: it is answered from the unit's copy; there is no such
unit or no such row; the row is granted as it is committed; or it has to be waited for, and
then at most the queue has changed, by a ticket of the unit. -/
theorem lock_cases (l : Ledger) (n : UnitId) (row : AccountId) :
    (∃ u a, l.unit? n = some u ∧ u.copy? row = some a ∧ l.lock n row = (.granted a, l)) ∨
    ((l.unit? n = none ∨ l.account? row = none) ∧ l.lock n row = (.missing, l)) ∨
    (∃ u a, l.unit? n = some u ∧ u.copy? row = none ∧ l.account? row = some a ∧
      l.mayLock n row = true ∧ l.lock n row = (.granted a, l.grant n a row)) ∨
    (∃ u a queue, l.unit? n = some u ∧ u.copy? row = none ∧ l.account? row = some a ∧
      l.mayLock n row = false ∧ (∀ ticket ∈ queue, ticket ∈ l.queue ∨ ticket = (n, row)) ∧
      l.lock n row = (.waiting, { l with queue })) := by
  cases hu : l.unit? n with
  | none =>
    right; left
    exact ⟨.inl rfl, by simp only [lock, hu]⟩
  | some u =>
    cases hc : u.copy? row with
    | some a => exact .inl ⟨u, a, rfl, hc, lock_of_copy hu hc⟩
    | none =>
      cases ha : l.account? row with
      | none =>
        right; left
        exact ⟨.inr rfl, by simp only [lock, hu, hc, ha]⟩
      | some a =>
        -- the row is there and is new to the unit, so others decide
        right; right
        cases hm : l.mayLock n row with
        | true => exact .inl ⟨u, a, rfl, hc, rfl, rfl, lock_of_mayLock hu hc ha hm⟩
        | false =>
          -- who waits already keeps the place in the queue
          by_cases hq : (n, row) ∈ l.queue
          · refine .inr ⟨u, a, l.queue, rfl, hc, rfl, rfl, fun t ht => .inl ht, ?_⟩
            simp only [lock, hu, hc, ha, hm, Bool.false_eq_true, if_false, if_pos hq]
          · refine .inr ⟨u, a, l.queue ++ [(n, row)], rfl, hc, rfl, rfl, ?_, ?_⟩
            · intro ticket ht
              rcases List.mem_append.mp ht with h | h
              · exact .inl h
              · exact .inr (List.mem_singleton.mp h)
            · simp only [lock, hu, hc, ha, hm, Bool.false_eq_true, if_false, if_neg hq]

/-- Who is open after a grant: everybody, and the unit that asked has one copy more. -/
theorem unit?_grant (l : Ledger) (n m : UnitId) (a : Account) (row : AccountId) :
    (l.grant n a row).unit? m
      = if m = n then (l.unit? n).map (OpenUnit.take a) else l.unit? m :=
  unit?_modifyUnit _ n m _ fun _ => rfl

/-! ## Recording and writing -/

/-- Who is open after a transfer was recorded: everybody, and the unit has it in its buffer under
the next number. -/
theorem unit?_recordTransfer (l : Ledger) (n m : UnitId) (source target : AccountId)
    (amount sourceAmount : Int) (exchangeRate : Option Decimal) (now : Instant) :
    (l.recordTransfer n source target amount sourceAmount exchangeRate now).2.unit? m
      = if m = n then (l.unit? n).map (OpenUnit.addTransfer
          ⟨⟨l.nextTransfer⟩, source, target, amount, sourceAmount, exchangeRate, now⟩)
        else l.unit? m :=
  unit?_modifyUnit _ n m _ fun _ => rfl

/-- Who is open after an entry was recorded: everybody, and the unit has it in its buffer under the
next number. -/
theorem unit?_recordEntry (l : Ledger) (n m : UnitId) (account : AccountId)
    (transfer : TransferId) (amount : Int) (now : Instant) :
    (l.recordEntry n account transfer amount now).2.unit? m
      = if m = n then
          (l.unit? n).map (OpenUnit.addEntry ⟨⟨l.nextEntry⟩, account, transfer, amount, now⟩)
        else l.unit? m :=
  unit?_modifyUnit _ n m _ fun _ => rfl

/-- A unit that has a copy of a row writes any balance on it that is not negative. -/
theorem setBalance_of_copy {balance : Int} (hu : l.unit? n = some u) (hc : u.copy? row = some a)
    (hb : 0 ≤ balance) :
    l.setBalance n row balance
      = (.ok { a with balance }, l.modifyUnit n (OpenUnit.write row { a with balance })) := by
  have hneg : ¬ balance < 0 := by omega
  simp only [setBalance, hu, Option.bind_some, hc, if_neg hneg]
  rfl

/-- Setting a balance fails and changes nothing, or writes the balance into the unit's copy
of the row. -/
theorem setBalance_cases (l : Ledger) (n : UnitId) (row : AccountId) (balance : Int) :
    (∃ e, l.setBalance n row balance = (.error e, l)) ∨
    (∃ u a, l.unit? n = some u ∧ u.copy? row = some a ∧ 0 ≤ balance ∧
      l.setBalance n row balance
        = (.ok { a with balance }, l.modifyUnit n (OpenUnit.write row { a with balance }))) := by
  cases hu : l.unit? n with
  | none => exact .inl ⟨_, by simp only [setBalance, hu, Option.bind_none]; rfl⟩
  | some u =>
    cases hc : u.copy? row with
    | none => exact .inl ⟨_, by simp only [setBalance, hu, Option.bind_some, hc]; rfl⟩
    | some a =>
      by_cases hb : balance < 0
      · exact .inl ⟨_, by simp only [setBalance, hu, Option.bind_some, hc, if_pos hb]; rfl⟩
      · have hnonneg : 0 ≤ balance := by omega
        exact .inr ⟨u, a, rfl, hc, hnonneg, setBalance_of_copy hu hc hnonneg⟩

/-- Who is open after a write: everybody, and the unit has written its copy of one row. -/
theorem unit?_write (l : Ledger) (n m : UnitId) (row : AccountId) (a : Account) :
    (l.modifyUnit n (OpenUnit.write row a)).unit? m
      = if m = n then (l.unit? n).map (OpenUnit.write row a) else l.unit? m :=
  unit?_modifyUnit l n m _ fun _ => rfl

/-! ## Ending -/

/-- The rows after the rows of a unit have replaced those that it holds. -/
theorem account?_apply (l : Ledger) (u : OpenUnit) (row : AccountId) :
    (l.apply u).account? row = (l.account? row).map fun a => (u.copy? row).getD a := by
  have hkeep : ∀ a : Account, ((u.copy? a.id).getD a).id = a.id := by
    intro a
    cases h : u.copy? a.id with
    | none => rw [Option.getD_none]
    | some c => rw [Option.getD_some, (OpenUnit.copy?_spec h).2]
  have hmap : (l.apply u).account? row
      = (l.account? row).map fun a => (u.copy? a.id).getD a :=
    find?_key_map Account.id _ hkeep l.accounts row
  rw [hmap]
  cases h : l.account? row with
  | none => rw [Option.map_none, Option.map_none]
  | some a => rw [Option.map_some, Option.map_some, (account?_spec h).2]

/-- A scheduled contention refuses a commit, takes the fault off the schedule and drops the unit. -/
theorem commit_of_contention (n : UnitId) (hf : l.faults.head? = some .contention) :
    l.commit n = (.error (.contention .concurrentUpdate),
      ({ l with faults := l.faults.tail } : Ledger).dropUnit n) := by
  simp only [commit, if_pos hf]

/-- What is said about a commit that is carried out. -/
def acknowledgement (fault : Option CommitFault) : Except BankError Unit :=
  if fault = some .lostAcknowledgement then .error (.indeterminate .lostAcknowledgement)
  else .ok ()

/-- A commit of an open unit is carried out unless contention is scheduled, and the fault that is
due decides what is answered. -/
theorem commit_of_open (hu : l.unit? n = some u) (hf : l.faults.head? ≠ some .contention) :
    l.commit n = (acknowledgement l.faults.head?,
      (({ l with faults := l.faults.tail } : Ledger).apply u).dropUnit n) := by
  have hu' : ({ l with faults := l.faults.tail } : Ledger).unit? n = some u := hu
  simp only [commit, if_neg hf, hu', acknowledgement]

/-- How a commit ends: it is refused, it applies the unit, or there is no such unit. -/
theorem commit_cases (l : Ledger) (n : UnitId) :
    (l.faults.head? = some .contention ∧
      (l.commit n).2 = ({ l with faults := l.faults.tail } : Ledger).dropUnit n) ∨
    (∃ u, l.unit? n = some u ∧ l.faults.head? ≠ some .contention ∧
      (l.commit n).2 = (({ l with faults := l.faults.tail } : Ledger).apply u).dropUnit n) ∨
    (l.unit? n = none ∧ l.faults.head? ≠ some .contention ∧
      (l.commit n).2 = ({ l with faults := l.faults.tail } : Ledger).dropUnit n) := by
  by_cases hf : l.faults.head? = some .contention
  · exact .inl ⟨hf, by rw [commit_of_contention n hf]⟩
  · cases hu : l.unit? n with
    | some u => exact .inr (.inl ⟨u, rfl, hf, by rw [commit_of_open hu hf]⟩)
    | none =>
      have hu' : ({ l with faults := l.faults.tail } : Ledger).unit? n = none := hu
      exact .inr (.inr ⟨rfl, hf, by simp only [commit, if_neg hf, hu']⟩)

end Ledger

end CountingHouse
