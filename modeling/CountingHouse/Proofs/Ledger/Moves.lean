/-
Everything that can be done to a ledger, in any order, and what always holds.

A `Move` is one call: an account is opened, a fault is scheduled, or some unit of work is
begun, asks for a row, records, writes, or ends. Nothing is assumed about who makes the
calls. A unit may lock rows in any order, write any balance, ask again for what it was
refused and end whenever it likes, so a list of moves is an interleaving of any number of
units, and `Ledger.run` is what becomes of a ledger. `Effect` lists the ways in which a call
can end; every law about all moves is a case analysis of it.

`Sound` is what every such ledger satisfies. Its heart is `ProperCopy`: a unit's copy of a
row is the committed row but for the balance, its balance is not negative, and nobody else
has a copy of that row. A request is granted only if nobody else holds the row, and then
the copy is the committed row, so the three hold when a copy is made. They survive because
the rows that a commit replaces are those that the committing unit holds, and by the third
of them no other unit has a copy of any of those.
-/
import CountingHouse.Proofs.Ledger.Units

set_option autoImplicit false

namespace CountingHouse

/-! ## Moves -/

/-- A call on a ledger. Rolling a unit back and dropping it are the same. -/
inductive Move where
  | openFunded (owner : String) (currency : Currency) (balance : Int) (now : Instant)
  | openEmpty (owner : String) (currency : Currency) (now : Instant)
  | scheduleFault (fault : CommitFault)
  | begin
  | lock (unit : UnitId) (row : AccountId)
  | leaveQueue (unit : UnitId) (row : AccountId)
  | recordTransfer (unit : UnitId) (source target : AccountId) (amount sourceAmount : Int)
      (exchangeRate : Option Decimal) (now : Instant)
  | recordEntry (unit : UnitId) (account : AccountId) (transfer : TransferId) (amount : Int)
      (now : Instant)
  | setBalance (unit : UnitId) (row : AccountId) (balance : Int)
  | commit (unit : UnitId)
  | drop (unit : UnitId)

namespace Move

def unit? : Move → Option UnitId
  | openFunded .. | openEmpty .. | scheduleFault _ | begin => none
  | lock n _ | leaveQueue n _ | recordTransfer n .. | recordEntry n .. | setBalance n ..
  | commit n | drop n => some n

/-- Whether the call ends a unit. -/
def Ends (n : UnitId) (m : Move) : Prop := m = commit n ∨ m = drop n

/-- Whether the call writes a unit's copy of a row. -/
def Writes (n : UnitId) (row : AccountId) (m : Move) : Prop :=
  ∃ balance, m = setBalance n row balance

def Publishes : Move → Prop
  | openFunded .. | openEmpty .. | commit _ => True
  | _ => False

/-- Whether the call opens an account. -/
def Opens : Move → Prop
  | openFunded .. | openEmpty .. => True
  | _ => False

/-- An opening publishes a row, and no unit makes it. -/
theorem Opens.publishes_outside {move : Move} (h : move.Opens) :
    move.Publishes ∧ move.unit? = none := by
  cases move with
  | openFunded owner currency balance now => exact ⟨trivial, rfl⟩
  | openEmpty owner currency now => exact ⟨trivial, rfl⟩
  | _ => exact absurd h not_false

end Move

namespace Ledger

def make (m : Move) (l : Ledger) : Ledger :=
  match m with
  | .openFunded owner currency balance now => (l.addFundedAccount owner currency balance now).2
  | .openEmpty owner currency now => (l.addAccount owner currency 0 now).2
  | .scheduleFault fault => l.scheduleFault fault
  | .begin => l.beginUnit.2
  | .lock n row => (l.lock n row).2
  | .leaveQueue n row => l.leaveQueue n row
  | .recordTransfer n source target amount sourceAmount exchangeRate now =>
    (l.recordTransfer n source target amount sourceAmount exchangeRate now).2
  | .recordEntry n account transfer amount now =>
    (l.recordEntry n account transfer amount now).2
  | .setBalance n row balance => (l.setBalance n row balance).2
  | .commit n => (l.commit n).2
  | .drop n => l.dropUnit n

def run (moves : List Move) (l : Ledger) : Ledger := moves.foldl (fun l m => l.make m) l

@[simp] theorem run_nil (l : Ledger) : l.run [] = l := rfl

@[simp] theorem run_cons (m : Move) (moves : List Move) (l : Ledger) :
    l.run (m :: moves) = (l.make m).run moves := rfl

/-- Moves are made one list after the other. -/
theorem run_append (before later : List Move) (l : Ledger) :
    l.run (before ++ later) = (l.run before).run later := by
  rw [run, List.foldl_append]
  rfl

/-! ## What a move does -/

/-- What a move makes of a ledger: every way in which a call can end, by what the ledger shows of
it. The error of a call that fails is not among that. -/
inductive Effect (l : Ledger) : Move → Ledger → Prop where
  | declined {move : Move} (hmove : move.Opens) : Effect l move l
  | opened {move : Move} {a : Account} (hmove : move.Opens) (hid : a.id = ⟨l.nextAccount⟩)
      (hfunded : 0 ≤ a.balance)
      (hnew : (l.accounts.any fun b => b.owner == a.owner && b.currency == a.currency) = false) :
      Effect l move (l.addRow a)
  | scheduled (fault : CommitFault) : Effect l (.scheduleFault fault) (l.scheduleFault fault)
  | begun : Effect l .begin l.beginUnit.2
  | answered (n : UnitId) (row : AccountId) : Effect l (.lock n row) l
  | granted {n : UnitId} {row : AccountId} {u : OpenUnit} {a : Account}
      (hu : l.unit? n = some u) (hc : u.copy? row = none) (ha : l.account? row = some a)
      (hmay : l.mayLock n row = true) : Effect l (.lock n row) (l.grant n a row)
  | waits {n : UnitId} {row : AccountId} {u : OpenUnit} {a : Account}
      {queue : List (UnitId × AccountId)} (hu : l.unit? n = some u)
      (ha : l.account? row = some a) (hanswer : (l.lock n row).1 = .waiting)
      (hqueue : ∀ ticket ∈ queue, ticket ∈ l.queue ∨ ticket = (n, row)) :
      Effect l (.lock n row) { l with queue }
  | left (n : UnitId) (row : AccountId) : Effect l (.leaveQueue n row) (l.leaveQueue n row)
  | recordedTransfer (n : UnitId) (source target : AccountId) (amount sourceAmount : Int)
      (exchangeRate : Option Decimal) (now : Instant) :
      Effect l (.recordTransfer n source target amount sourceAmount exchangeRate now)
        (l.recordTransfer n source target amount sourceAmount exchangeRate now).2
  | recordedEntry (n : UnitId) (account : AccountId) (transfer : TransferId) (amount : Int)
      (now : Instant) :
      Effect l (.recordEntry n account transfer amount now)
        (l.recordEntry n account transfer amount now).2
  | unwritten (n : UnitId) (row : AccountId) (balance : Int) :
      Effect l (.setBalance n row balance) l
  | written {n : UnitId} {row : AccountId} {balance : Int} {u : OpenUnit} {a : Account}
      (hu : l.unit? n = some u) (hc : u.copy? row = some a) (hb : 0 ≤ balance) :
      Effect l (.setBalance n row balance)
        (l.modifyUnit n (OpenUnit.write row { a with balance }))
  | applied {n : UnitId} {u : OpenUnit} (hu : l.unit? n = some u)
      (hf : l.faults.head? ≠ some .contention) :
      Effect l (.commit n) ((({ l with faults := l.faults.tail } : Ledger).apply u).dropUnit n)
  | refused (n : UnitId) :
      Effect l (.commit n) (({ l with faults := l.faults.tail } : Ledger).dropUnit n)
  | dropped (n : UnitId) : Effect l (.drop n) (l.dropUnit n)

/-- An account is opened under the next number, unless its holder has one. -/
theorem effect_addAccount (l : Ledger) {move : Move} (hmove : move.Opens) (owner : String)
    (currency : Currency) {balance : Int} (hb : 0 ≤ balance) (now : Instant) :
    Effect l move (l.addAccount owner currency balance now).2 := by
  rcases addAccount_cases l owner currency balance now with hadd | ⟨hnew, hadd⟩
  · rw [hadd]
    exact .declined hmove
  · rw [hadd]
    exact .opened hmove rfl hb hnew

/-- Every move has one of these effects. What is proved of moves is proved for each of them. -/
theorem effect_make (l : Ledger) (move : Move) : Effect l move (l.make move) := by
  cases move with
  | openFunded owner currency balance now =>
    rw [make]
    rcases addFundedAccount_cases l owner currency balance now with ⟨-, hadd⟩ | ⟨hb, hadd⟩
    · rw [hadd]
      exact .declined trivial
    · have hmove : (Move.openFunded owner currency balance now).Opens := trivial
      rw [hadd]
      exact effect_addAccount l hmove owner currency hb now
  | openEmpty owner currency now =>
    have hmove : (Move.openEmpty owner currency now).Opens := trivial
    exact effect_addAccount l hmove owner currency (Int.le_refl 0) now
  | scheduleFault fault => exact .scheduled fault
  | begin => exact .begun
  | lock n row =>
    rw [make]
    rcases lock_cases l n row with ⟨u, a, -, -, hlock⟩ | ⟨-, hlock⟩ |
      ⟨u, a, hu, hc, ha, hmay, hlock⟩ | ⟨u, a, queue, hu, -, ha, -, hqueue, hlock⟩
    · rw [hlock]
      exact .answered n row
    · rw [hlock]
      exact .answered n row
    · rw [hlock]
      exact .granted hu hc ha hmay
    · have hanswer : (l.lock n row).1 = .waiting := by rw [hlock]
      rw [hlock]
      exact .waits hu ha hanswer hqueue
  | leaveQueue n row => exact .left n row
  | recordTransfer n source target amount sourceAmount exchangeRate now =>
    exact .recordedTransfer n source target amount sourceAmount exchangeRate now
  | recordEntry n account transfer amount now =>
    exact .recordedEntry n account transfer amount now
  | setBalance n row balance =>
    rw [make]
    rcases setBalance_cases l n row balance with ⟨e, hset⟩ | ⟨u, a, hu, hc, hb, hset⟩
    · rw [hset]
      exact .unwritten n row balance
    · rw [hset]
      exact .written hu hc hb
  | commit n =>
    rw [make]
    rcases commit_cases l n with ⟨-, hcommit⟩ | ⟨u, hu, hf, hcommit⟩ | ⟨-, -, hcommit⟩
    · rw [hcommit]
      exact .refused n
    · rw [hcommit]
      exact .applied hu hf
    · -- nobody has this unit open, and nothing is there to be applied
      rw [hcommit]
      exact .refused n
  | drop n => exact .dropped n

/-! ## What always holds -/

variable {l l' : Ledger} {n m : UnitId} {u : OpenUnit} {row : AccountId} {a c : Account}

/-- A copy that a unit may have: the committed row with another balance, which is not
negative, and nobody else has one of that row. -/
structure ProperCopy (l : Ledger) (n : UnitId) (row : AccountId) (c : Account) : Prop where
  committed : ∃ a, l.account? row = some a ∧ c = { a with balance := c.balance }
  funded : 0 ≤ c.balance
  alone : ∀ m v, l.unit? m = some v → m ≠ n → v.copy? row = none

/-- What holds of every ledger, whatever was done to it. -/
structure Sound (l : Ledger) : Prop where
  ascending : l.accounts.Pairwise fun a b => a.id.number < b.id.number
  account_lt : ∀ a ∈ l.accounts, a.id.number < l.nextAccount
  funded : ∀ a ∈ l.accounts, 0 ≤ a.balance
  unit_lt : ∀ n u, l.unit? n = some u → n.number < l.nextUnit
  copies : ∀ n u row c, l.unit? n = some u → u.copy? row = some c → l.ProperCopy n row c
  queued : ∀ ticket ∈ l.queue, ∃ u, l.unit? ticket.1 = some u

/-- The next number for a unit is nobody's yet. -/
theorem Sound.unit?_next (h : l.Sound) : l.unit? ⟨l.nextUnit⟩ = none := by
  cases hu : l.unit? ⟨l.nextUnit⟩ with
  | none => rfl
  | some u =>
    have hlt := h.unit_lt _ u hu
    exact absurd hlt (Nat.lt_irrefl _)

/-- Rows in ascending order have no number twice. -/
theorem ids_nodup_of_ascending (h : l.accounts.Pairwise fun a b => a.id.number < b.id.number) :
    (l.accounts.map Account.id).Nodup := by
  rw [List.Nodup, List.pairwise_map]
  refine h.imp ?_
  intro b c hbc heq
  rw [heq] at hbc
  exact absurd hbc (Int.lt_irrefl _)

/-- No account number is there twice. -/
theorem Sound.ids_nodup (h : l.Sound) : (l.accounts.map Account.id).Nodup :=
  ids_nodup_of_ascending h.ascending

/-- A row is found under its number. -/
theorem Sound.account?_of_mem (h : l.Sound) (ha : a ∈ l.accounts) : l.account? a.id = some a :=
  find?_key_of_mem Account.id h.ids_nodup ha

/-- Behind every copy there is a committed row. -/
theorem Sound.committed_of_copy (h : l.Sound) (hu : l.unit? n = some u)
    (hc : u.copy? row = some c) : ∃ a, l.account? row = some a := by
  obtain ⟨a, ha, -⟩ := (h.copies n u row c hu hc).committed
  exact ⟨a, ha⟩

/-- Two units with a copy of the same row are one unit. -/
theorem Sound.unit_eq (h : l.Sound) {v : OpenUnit} {d : Account} (hu : l.unit? n = some u)
    (hv : l.unit? m = some v) (hc : u.copy? row = some c) (hd : v.copy? row = some d) :
    m = n := by
  by_cases hmn : m = n
  · exact hmn
  · have hnone := (h.copies n u row c hu hc).alone m v hv hmn
    rw [hd] at hnone
    cases hnone

/-- A ledger starts sound, since there is nothing in it. -/
theorem sound_empty : empty.Sound where
  ascending := List.Pairwise.nil
  account_lt := by intro a ha; cases ha
  funded := by intro a ha; cases ha
  unit_lt := by intro n u hu; cases hu
  copies := by intro n u row c hu; cases hu
  queued := by intro ticket ht; cases ht

/-! ## Calls of one unit

A call that does not end its unit changes that unit only, and leaves the rows alone. Such
a call keeps the ledger sound as soon as the copies of the changed unit are proper. -/

/-- A copy stays proper if the rows stay and the other units get no copy of the row. -/
theorem ProperCopy.transfer (h : l.ProperCopy n row c) (haccount : l'.account? row = l.account? row)
    (halone : ∀ m v, l'.unit? m = some v → m ≠ n → v.copy? row = none) :
    l'.ProperCopy n row c := by
  refine ⟨?_, h.funded, halone⟩
  rw [haccount]
  exact h.committed

/-- A change of one unit keeps a ledger sound if the unit ends up with proper copies. -/
theorem Sound.of_change (h : l.Sound) (change : OpenUnit → OpenUnit)
    (haccounts : l'.accounts = l.accounts) (hnext : l'.nextAccount = l.nextAccount)
    (hunit : l'.nextUnit = l.nextUnit)
    (hunits : ∀ m, l'.unit? m = if m = n then (l.unit? n).map change else l.unit? m)
    (hcopies : ∀ u row c, l.unit? n = some u → (change u).copy? row = some c →
      l.ProperCopy n row c)
    (hqueue : ∀ ticket ∈ l'.queue, ∃ u, l.unit? ticket.1 = some u) : l'.Sound := by
  have haccount : ∀ row, l'.account? row = l.account? row := by
    intro row
    rw [account?, haccounts, ← account?]
  -- whoever is open now is the unit that was changed, or was open as it is
  have hfound : ∀ m v, l'.unit? m = some v →
      (m = n ∧ ∃ u, l.unit? n = some u ∧ v = change u) ∨ (m ≠ n ∧ l.unit? m = some v) := by
    intro m v hv
    rw [hunits] at hv
    by_cases hm : m = n
    · rw [if_pos hm] at hv
      obtain ⟨u, hu, rfl⟩ := Option.map_eq_some_iff.mp hv
      exact .inl ⟨hm, u, hu, rfl⟩
    · rw [if_neg hm] at hv
      exact .inr ⟨hm, hv⟩
  refine ⟨?_, ?_, ?_, ?_, ?_, ?_⟩
  · rw [haccounts]
    exact h.ascending
  · rw [haccounts, hnext]
    exact h.account_lt
  · rw [haccounts]
    exact h.funded
  · intro m v hv
    rw [hunit]
    rcases hfound m v hv with ⟨rfl, u, hu, -⟩ | ⟨-, hv⟩
    · exact h.unit_lt _ u hu
    · exact h.unit_lt m v hv
  · -- copies are proper: those of the changed unit, then those of another one
    intro m v row c hv hc
    rcases hfound m v hv with ⟨rfl, u, hu, rfl⟩ | ⟨hm, hv⟩
    · have hproper := hcopies u row c hu hc
      refine hproper.transfer (haccount row) ?_
      intro k w hw hk
      rcases hfound k w hw with ⟨hkm, -⟩ | ⟨-, hw⟩
      · exact absurd hkm hk
      · exact hproper.alone k w hw hk
    · have hproper := h.copies m v row c hv hc
      refine hproper.transfer (haccount row) ?_
      intro k w hw hk
      rcases hfound k w hw with ⟨rfl, u, hu, rfl⟩ | ⟨-, hw⟩
      · -- a copy here would be proper, and then `m` could not have one
        cases hcopy : (change u).copy? row with
        | none => rfl
        | some d =>
          have hnone := (hcopies u row d hu hcopy).alone m v hv hm
          rw [hc] at hnone
          cases hnone
      · exact hproper.alone k w hw hk
  · intro ticket ht
    obtain ⟨u, hu⟩ := hqueue ticket ht
    rw [hunits]
    by_cases hm : ticket.1 = n
    · rw [if_pos hm, ← hm, hu]
      exact ⟨_, rfl⟩
    · rw [if_neg hm]
      exact ⟨u, hu⟩

/-- What a unit records changes none of its copies, so it keeps a ledger sound. -/
theorem Sound.of_record (h : l.Sound) (change : OpenUnit → OpenUnit)
    (hheld : ∀ u, (change u).held = u.held) (haccounts : l'.accounts = l.accounts)
    (hnext : l'.nextAccount = l.nextAccount) (hunit : l'.nextUnit = l.nextUnit)
    (hunits : ∀ m, l'.unit? m = if m = n then (l.unit? n).map change else l.unit? m)
    (hqueue : l'.queue = l.queue) : l'.Sound := by
  refine h.of_change change haccounts hnext hunit hunits ?_ ?_
  · intro u row c hu hc
    rw [OpenUnit.copy?, hheld, ← OpenUnit.copy?] at hc
    exact h.copies n u row c hu hc
  · rw [hqueue]
    exact h.queued

/-- Queue and faults are no part of a copy, so another schedule and another queue will do, as long
as every place in it is that of an open unit. -/
theorem Sound.of_queue (h : l.Sound) (queue : List (UnitId × AccountId)) (faults : List CommitFault)
    (hqueue : ∀ ticket ∈ queue, ∃ u, l.unit? ticket.1 = some u) :
    ({ l with queue, faults } : Ledger).Sound := by
  refine ⟨h.ascending, h.account_lt, h.funded, h.unit_lt, ?_, hqueue⟩
  intro n u row c hu hc
  have hproper := h.copies n u row c hu hc
  exact hproper.transfer rfl hproper.alone

/-- Once a row is granted, all copies of the unit are proper: those that it had, and the new one,
which is the committed row and the only copy of it. -/
theorem Sound.properCopy_take (h : l.Sound) (hu : l.unit? n = some u) (ha : l.account? row = some a)
    (hmay : l.mayLock n row = true) {other : AccountId} (hcopy : (u.take a).copy? other = some c) :
    l.ProperCopy n other c := by
  obtain ⟨hmem, hid⟩ := account?_spec ha
  rw [OpenUnit.copy?_take] at hcopy
  rcases hother : u.copy? other with _ | d
  · -- the unit had no copy of this row, so it is the one that was granted
    rw [hother, Option.none_or] at hcopy
    obtain ⟨hrow, rfl⟩ : a.id = other ∧ a = c := by simpa using hcopy
    obtain rfl : row = other := hid.symm.trans hrow
    refine ⟨⟨a, ha, rfl⟩, h.funded a hmem, ?_⟩
    intro m v hv hm
    have hfree := not_holds_of_mayLock hmay hv hm
    rw [OpenUnit.holds_eq_isSome, Option.isSome_eq_false_iff, Option.isNone_iff_eq_none] at hfree
    exact hfree
  · rw [hother, Option.some_or] at hcopy
    obtain rfl := Option.some.inj hcopy
    exact h.copies n u other d hu hother

/-- A row that is granted keeps a ledger sound. Whoever has waited for it in this unit leaves the
queue. -/
theorem Sound.grant (h : l.Sound) (ha : l.account? row = some a) (hmay : l.mayLock n row = true) :
    (l.grant n a row).Sound := by
  refine h.of_change (OpenUnit.take a) rfl rfl rfl (fun m => unit?_grant l n m a row) ?_ ?_
  · intro u other c hu hcopy
    exact h.properCopy_take hu ha hmay hcopy
  · intro ticket ht
    exact h.queued ticket (List.mem_filter.mp ht).1

/-- Writing a balance that is not negative keeps a ledger sound: the copy of one row changes, and in
nothing but its balance. -/
theorem Sound.write (h : l.Sound) {balance : Int} (hu : l.unit? n = some u)
    (hc : u.copy? row = some a) (hb : 0 ≤ balance) :
    (l.modifyUnit n (OpenUnit.write row { a with balance })).Sound := by
  have haid : a.id = row := (OpenUnit.copy?_spec hc).2
  refine h.of_change (OpenUnit.write row { a with balance }) rfl rfl rfl
    (fun m => unit?_write l n m row _) ?_ h.queued
  intro v other c hv hcopy
  rw [hu] at hv
  cases hv
  rw [OpenUnit.copy?_write u row other (a := { a with balance }) haid] at hcopy
  by_cases ho : other = row
  · -- the copy that was written differs from the old one in its balance
    rw [if_pos ho, hc, Option.map_some] at hcopy
    cases hcopy
    obtain ⟨⟨b, hb', hab⟩, -, halone⟩ := h.copies n u row a hu hc
    rw [ho]
    refine ⟨⟨b, hb', ?_⟩, hb, halone⟩
    rw [hab]
  · rw [if_neg ho] at hcopy
    exact h.copies n u other c hu hcopy

/-! ## Beginning, ending, opening -/

/-- A new unit has no copies and a number above all others, so nothing that holds of the old ones is
touched. -/
theorem Sound.beginUnit (h : l.Sound) : l.beginUnit.2.Sound := by
  have hfresh := h.unit?_next
  have hnone : ∀ row : AccountId, ({ id := ⟨l.nextUnit⟩ } : OpenUnit).copy? row = none :=
    fun row => rfl
  -- whoever is open now is the new unit, or was open before
  have hfound : ∀ m v, l.beginUnit.2.unit? m = some v →
      (m = ⟨l.nextUnit⟩ ∧ v = { id := ⟨l.nextUnit⟩ }) ∨ l.unit? m = some v := by
    intro m v hv
    rw [unit?_beginUnit l m hfresh] at hv
    by_cases hm : m = ⟨l.nextUnit⟩
    · rw [if_pos hm] at hv
      exact .inl ⟨hm, (Option.some.inj hv).symm⟩
    · rw [if_neg hm] at hv
      exact .inr hv
  refine ⟨h.ascending, h.account_lt, h.funded, ?_, ?_, ?_⟩
  · intro m v hv
    rcases hfound m v hv with ⟨rfl, -⟩ | hold
    · exact Nat.lt_succ_self _
    · exact Nat.lt_succ_of_lt (h.unit_lt m v hold)
  · intro m v row c hv hc
    rcases hfound m v hv with ⟨-, rfl⟩ | hold
    · rw [hnone row] at hc
      cases hc
    · have hproper := h.copies m v row c hold hc
      refine hproper.transfer rfl ?_
      intro k w hw hk
      rcases hfound k w hw with ⟨-, rfl⟩ | hold'
      · exact hnone row
      · exact hproper.alone k w hold' hk
  · -- a place in the queue is that of an old unit, which is open still
    intro ticket ht
    obtain ⟨u, hu⟩ := h.queued ticket ht
    have hne : ticket.1 ≠ ⟨l.nextUnit⟩ := by
      intro heq
      rw [heq, hfresh] at hu
      cases hu
    refine ⟨u, ?_⟩
    rw [unit?_beginUnit l _ hfresh, if_neg hne]
    exact hu

/-- A unit that ends leaves a sound ledger, if the rows that change are among those of
which it had a copy. -/
theorem Sound.of_end (h : l.Sound) (hnext : l'.nextAccount = l.nextAccount)
    (hunit : l'.nextUnit = l.nextUnit)
    (hunits : ∀ m, l'.unit? m = if m = n then none else l.unit? m)
    (hascending : l'.accounts.Pairwise fun a b => a.id.number < b.id.number)
    (hlt : ∀ a ∈ l'.accounts, a.id.number < l.nextAccount)
    (hfunded : ∀ a ∈ l'.accounts, 0 ≤ a.balance)
    (hothers : ∀ m v row c, m ≠ n → l.unit? m = some v → v.copy? row = some c →
      l'.account? row = l.account? row)
    (hqueue : l'.queue = l.queue.filter fun ticket => ticket.1 != n) : l'.Sound := by
  -- whoever is open now is somebody else, and was open before
  have hfound : ∀ m v, l'.unit? m = some v → m ≠ n ∧ l.unit? m = some v := by
    intro m v hv
    rw [hunits] at hv
    by_cases hm : m = n
    · rw [if_pos hm] at hv
      cases hv
    · rw [if_neg hm] at hv
      exact ⟨hm, hv⟩
  refine ⟨hascending, ?_, hfunded, ?_, ?_, ?_⟩
  · rw [hnext]
    exact hlt
  · intro m v hv
    rw [hunit]
    exact h.unit_lt m v (hfound m v hv).2
  · -- a copy of somebody else is one of a row that has not changed
    intro m v row c hv hc
    obtain ⟨hm, hv⟩ := hfound m v hv
    have hproper := h.copies m v row c hv hc
    refine hproper.transfer (hothers m v row c hm hv hc) ?_
    intro k w hw hk
    exact hproper.alone k w (hfound k w hw).2 hk
  · intro ticket ht
    rw [hqueue] at ht
    obtain ⟨hold, hne⟩ := List.mem_filter.mp ht
    obtain ⟨u, hu⟩ := h.queued ticket hold
    refine ⟨u, ?_⟩
    rw [hunits, if_neg (by simpa using hne)]
    exact hu

/-- Dropping a unit changes no row. -/
theorem Sound.dropUnit (h : l.Sound) (n : UnitId) : (l.dropUnit n).Sound :=
  h.of_end rfl rfl (unit?_dropUnit_eq l n) h.ascending h.account_lt h.funded
    (fun _ _ _ _ _ _ _ => rfl) rfl

/-- A copy has the number of the row that it replaces. -/
theorem Sound.id_getD_copy? (u : OpenUnit) (a : Account) :
    ((u.copy? a.id).getD a).id = a.id := by
  cases h : u.copy? a.id with
  | none => rw [Option.getD_none]
  | some c => rw [Option.getD_some, (OpenUnit.copy?_spec h).2]

/-- Putting the copies of a unit in the place of the rows and dropping the unit keeps a ledger
sound. The copies are the rows but for balances that are not negative, and no other unit has a copy
of any of them. -/
theorem Sound.applyUnit (h : l.Sound) (hu : l.unit? n = some u) :
    ((l.apply u).dropUnit n).Sound := by
  have haccounts : ((l.apply u).dropUnit n).accounts
      = l.accounts.map fun a => (u.copy? a.id).getD a := rfl
  refine Sound.of_end h rfl rfl ?_ ?_ ?_ ?_ ?_ rfl
  · intro m
    exact unit?_dropUnit_eq (l.apply u) n m
  · -- a copy has the number of its row, so the order of the rows is as it was
    rw [haccounts, List.pairwise_map]
    refine h.ascending.imp ?_
    intro a b hab
    rw [Sound.id_getD_copy?, Sound.id_getD_copy?]
    exact hab
  · intro b hb
    rw [haccounts] at hb
    obtain ⟨a, ha, rfl⟩ := List.mem_map.mp hb
    rw [Sound.id_getD_copy?]
    exact h.account_lt a ha
  · intro b hb
    rw [haccounts] at hb
    obtain ⟨a, ha, rfl⟩ := List.mem_map.mp hb
    cases hc : u.copy? a.id with
    | none => exact h.funded a ha
    | some c => exact (h.copies n u a.id c hu hc).funded
  · -- a row of which another unit has a copy is not among those that are replaced
    intro m v row c hm hv hc
    have hnone := (h.copies m v row c hv hc).alone n u hu (Ne.symm hm)
    have happly := account?_apply l u row
    rw [hnone] at happly
    calc ((l.apply u).dropUnit n).account? row
        = (l.apply u).account? row := rfl
      _ = (l.account? row).map fun a => (none : Option Account).getD a := happly
      _ = l.account? row := by
          simp only [Option.getD_none, Option.map_id']

/-- Taking a fault from the schedule touches nothing else. -/
theorem Sound.takeFault (h : l.Sound) : ({ l with faults := l.faults.tail } : Ledger).Sound :=
  h.of_queue l.queue l.faults.tail h.queued

/-- A row with the next number goes behind all others, and no unit has a copy of it. -/
theorem Sound.addRow (h : l.Sound) (hid : a.id = ⟨l.nextAccount⟩) (ha : 0 ≤ a.balance) :
    (l.addRow a).Sound := by
  refine ⟨?_, ?_, ?_, h.unit_lt, ?_, h.queued⟩
  · -- the new number is above all numbers that are in use
    refine List.pairwise_append.mpr ⟨h.ascending, List.pairwise_singleton _ _, ?_⟩
    intro b hb c hc
    rw [List.mem_singleton.mp hc, hid]
    exact h.account_lt b hb
  · intro b hb
    rcases List.mem_append.mp hb with hb | hb
    · exact Int.lt_trans (h.account_lt b hb) (Int.lt_succ _)
    · rw [List.mem_singleton.mp hb, hid]
      exact Int.lt_succ _
  · intro b hb
    rcases List.mem_append.mp hb with hb | hb
    · exact h.funded b hb
    · rw [List.mem_singleton.mp hb]
      exact ha
  · -- copies are of old rows, which are found as before
    intro n u row c hu hc
    have hproper := h.copies n u row c hu hc
    obtain ⟨b, hb⟩ := h.committed_of_copy hu hc
    refine hproper.transfer ?_ hproper.alone
    rw [hb]
    exact account?_addRow a hb

/-! ## Every ledger -/

/-- No call makes a sound ledger unsound, however it ends. -/
theorem Sound.make (h : l.Sound) (move : Move) : (l.make move).Sound := by
  have heffect := l.effect_make move
  generalize l.make move = l' at heffect ⊢
  -- all that matters is how units, rows and queue change
  cases heffect with
  | declined hmove => exact h
  | opened hmove hid hfunded hnew => exact h.addRow hid hfunded
  | scheduled fault => exact h.of_queue l.queue _ h.queued
  | begun => exact h.beginUnit
  | answered n row => exact h
  | granted hu hc ha hmay => exact h.grant ha hmay
  | waits hu ha hanswer hqueue =>
    -- all that can be new is the unit's own place in the queue
    refine h.of_queue _ l.faults fun ticket ht => ?_
    rcases hqueue ticket ht with hold | rfl
    · exact h.queued ticket hold
    · exact ⟨_, hu⟩
  | left n row =>
    exact h.of_queue _ l.faults fun ticket ht => h.queued ticket (List.mem_filter.mp ht).1
  | recordedTransfer n source target amount sourceAmount exchangeRate now =>
    exact h.of_record (OpenUnit.addTransfer _) (fun _ => rfl) rfl rfl rfl
      (fun m => unit?_recordTransfer l n m source target amount sourceAmount exchangeRate now) rfl
  | recordedEntry n account transfer amount now =>
    exact h.of_record (OpenUnit.addEntry _) (fun _ => rfl) rfl rfl rfl
      (fun m => unit?_recordEntry l n m account transfer amount now) rfl
  | unwritten n row balance => exact h
  | written hu hc hb => exact h.write hu hc hb
  | applied hu hf => exact h.takeFault.applyUnit hu
  | refused n => exact h.takeFault.dropUnit n
  | dropped n => exact h.dropUnit n

/-- Moves keep a ledger sound. -/
theorem Sound.run (h : l.Sound) (moves : List Move) : (l.run moves).Sound := by
  induction moves generalizing l with
  | nil => exact h
  | cons move moves ih => exact ih (h.make move)

/-- Whatever is done to an empty ledger, it is sound. -/
theorem sound_run_empty (moves : List Move) : (empty.run moves).Sound := sound_empty.run moves

end Ledger

end CountingHouse
