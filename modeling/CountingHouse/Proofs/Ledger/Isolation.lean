/-
Units of work do not see and do not disturb each other.

`Isolated` collects what a caller may rely on who shares a ledger with others: who holds a
row, what is read from outside and from inside a unit, and what each way of ending a unit
does to rows, journal and locks. The last theorem says that it holds of every ledger,
whatever units did to it and in whatever order.

Most of it looks one move ahead and is read off the laws of the calls. Three statements look
further: the row behind a lock stays as it was read until the unit ends, what a unit has
read or written is what it reads again, and therefore a commit replaces the very balances
that the unit has read. They are about all moves `later` that do not end the unit, and rest
on one induction, `run_keeps_copy`, whose step is that a move of somebody else changes
neither a unit (`unit?_make`) nor the rows behind its copies (`account?_make`).
-/
import CountingHouse.Proofs.Ledger.Moves

set_option autoImplicit false

namespace CountingHouse.Ledger

variable {l : Ledger} {n m : UnitId} {u : OpenUnit} {row : AccountId} {a c : Account}

/-! ## One move of somebody else -/

/-- Two ledgers with the same committed rows and the same journal. -/
def SameBooks (l' l : Ledger) : Prop :=
  l'.accounts = l.accounts ∧ l'.transfers = l.transfers ∧ l'.entries = l.entries

/-- Leaving the books as they are composes. -/
theorem SameBooks.trans {l₁ l₂ : Ledger} (h : l₂.SameBooks l₁) (h₁ : l₁.SameBooks l) :
    l₂.SameBooks l :=
  ⟨h.1.trans h₁.1, h.2.1.trans h₁.2.1, h.2.2.trans h₁.2.2⟩

/-- Whatever is read from outside is read off the committed rows and the journal. -/
theorem SameBooks.reads {l' : Ledger} (h : l'.SameBooks l) :
    (∀ row, l'.account? row = l.account? row) ∧
    (∀ owner limit offset, l'.accountsOf owner limit offset = l.accountsOf owner limit offset) ∧
    (∀ selection, l'.transfersOf selection = l.transfersOf selection) ∧
    (∀ transfer, l'.entriesOf transfer = l.entriesOf transfer) := by
  obtain ⟨haccounts, htransfers, hentries⟩ := h
  refine ⟨?_, ?_, ?_, ?_⟩
  · intro row
    rw [account?, haccounts, ← account?]
  · intro owner limit offset
    rw [accountsOf, haccounts, ← accountsOf]
  · intro selection
    rw [transfersOf, htransfers, ← transfersOf]
  · intro transfer
    rw [entriesOf, hentries, ← entriesOf]

/-- Only the opening of an account and a commit touch the books. -/
theorem sameBooks_make (l : Ledger) (move : Move) (hmove : ¬ move.Publishes) :
    (l.make move).SameBooks l := by
  have heffect := l.effect_make move
  generalize l.make move = l' at heffect ⊢
  cases heffect with
  | opened hopens => exact absurd hopens.publishes_outside.1 hmove
  | applied hu hf => exact absurd trivial hmove
  | refused n => exact absurd trivial hmove
  | _ => exact ⟨rfl, rfl, rfl⟩

/-- Only the opening of an account draws a number for one. -/
theorem nextAccount_make (l : Ledger) (move : Move) (hmove : ¬ move.Publishes) :
    (l.make move).nextAccount = l.nextAccount := by
  have heffect := l.effect_make move
  generalize l.make move = l' at heffect ⊢
  -- what does not publish touches units, queue, faults and the other two counters
  cases heffect with
  | opened hopens => exact absurd hopens.publishes_outside.1 hmove
  | _ => rfl

/-- A call of a unit that does not end it publishes nothing. -/
theorem not_publishes {move : Move} (hown : move.unit? = some n) (hends : ¬ move.Ends n) :
    ¬ move.Publishes := by
  intro hpublishes
  cases move with
  | openFunded owner currency balance now => cases hown
  | openEmpty owner currency now => cases hown
  | commit k => exact hends (.inl (by rw [Option.some.inj hown]))
  | _ => exact hpublishes

/-- A call of somebody else leaves a unit as it is. -/
theorem unit?_make (h : l.Sound) (hu : l.unit? n = some u) (move : Move)
    (hmove : move.unit? ≠ some n) : (l.make move).unit? n = some u := by
  have heffect := l.effect_make move
  generalize l.make move = l' at heffect ⊢
  -- a call that changes units reaches the one that it names, which is another one
  cases heffect with
  | begun =>
    -- the unit is open already, so its name is not the next one
    have hne : n ≠ ⟨l.nextUnit⟩ := by
      intro heq
      rw [heq, h.unit?_next] at hu
      cases hu
    rw [unit?_beginUnit l n h.unit?_next, if_neg hne]
    exact hu
  | granted _ _ _ _ =>
    rw [unit?_grant, if_neg fun heq => hmove (congrArg some heq.symm)]
    exact hu
  | recordedTransfer k source target amount sourceAmount exchangeRate now =>
    rw [unit?_recordTransfer, if_neg fun heq => hmove (congrArg some heq.symm)]
    exact hu
  | recordedEntry k account transfer amount now =>
    rw [unit?_recordEntry, if_neg fun heq => hmove (congrArg some heq.symm)]
    exact hu
  | written _ _ _ =>
    rw [unit?_write, if_neg fun heq => hmove (congrArg some heq.symm)]
    exact hu
  | applied _ _ =>
    rw [unit?_dropUnit_eq, if_neg fun heq => hmove (congrArg some heq.symm)]
    exact hu
  | refused k =>
    rw [unit?_dropUnit_eq, if_neg fun heq => hmove (congrArg some heq.symm)]
    exact hu
  | dropped k =>
    rw [unit?_dropUnit_eq, if_neg fun heq => hmove (congrArg some heq.symm)]
    exact hu
  | _ => exact hu

/-- What is under a row after a commit: the copy of the unit if it has one, and otherwise the row as
it was. -/
theorem account?_commit (hu : l.unit? n = some u) (hf : l.faults.head? ≠ some .contention)
    (row : AccountId) :
    (l.commit n).2.account? row = (l.account? row).map fun a => (u.copy? row).getD a := by
  rw [commit_of_open hu hf]
  exact account?_apply _ u row

/-- The row behind a unit's copy is as it was, unless it is that unit that commits. -/
theorem account?_make (h : l.Sound) (hu : l.unit? n = some u) (hc : u.copy? row = some c)
    (move : Move) (hmove : move ≠ .commit n) :
    (l.make move).account? row = l.account? row := by
  obtain ⟨a, ha⟩ := h.committed_of_copy hu hc
  have heffect := l.effect_make move
  generalize l.make move = l' at heffect ⊢
  -- only an opening and a commit can touch the rows at all
  cases heffect with
  | opened _ _ _ _ =>
    rw [ha]
    exact account?_addRow _ ha
  | @applied k v hv hf =>
    -- the unit that commits has no copy of this row
    have hne : k ≠ n := fun heq => hmove (congrArg Move.commit heq)
    have happly := account?_apply { l with faults := l.faults.tail } v row
    rw [(h.copies n u row c hu hc).alone k v hv hne] at happly
    simp only [Option.getD_none, Option.map_id'] at happly
    exact happly
  | _ => rfl

/-! ## Endings -/

/-- A commit that is carried out: the buffers come behind the journal, and the copies replace
the rows of which they are copies. -/
theorem commit_applies (h : l.Sound) (hu : l.unit? n = some u)
    (hf : l.faults.head? ≠ some .contention) :
    (l.commit n).2.transfers = l.transfers ++ u.transfers ∧
    (l.commit n).2.entries = l.entries ++ u.entries ∧
    (l.commit n).2.accounts.map Account.id = l.accounts.map Account.id ∧
    (∀ row c, u.copy? row = some c → (l.commit n).2.account? row = some c) ∧
    (∀ row, u.holds row = false → (l.commit n).2.account? row = l.account? row) := by
  have hcommit := commit_of_open hu hf
  refine ⟨?_, ?_, ?_, ?_, ?_⟩
  · rw [hcommit]
    rfl
  · rw [hcommit]
    rfl
  · rw [hcommit]
    exact (List.map_map ..).trans (List.map_congr_left fun a _ => Sound.id_getD_copy? u a)
  · intro row c hc
    -- a copy is one of a committed row, so there is a row for it to replace
    obtain ⟨a, ha⟩ := h.committed_of_copy hu hc
    rw [account?_commit hu hf, ha, hc, Option.map_some, Option.getD_some]
  · intro row hfree
    rw [OpenUnit.holds_eq_isSome, Option.isSome_eq_false_iff, Option.isNone_iff_eq_none] at hfree
    rw [account?_commit hu hf, hfree]
    simp only [Option.getD_none, Option.map_id']

/-- Every end of a unit drops it, whatever else it does to rows and journal. -/
theorem end_releases (l : Ledger) {move : Move} (hends : move.Ends n) :
    (l.make move).unit? n = none ∧
    (∀ m, m ≠ n → (l.make move).unit? m = l.unit? m) ∧
    (l.make move).queue = l.queue.filter fun ticket => ticket.1 != n := by
  -- the end is the dropping of the unit, from a ledger with the same units and the same queue
  have hend : ∀ l₀ : Ledger, l₀.units = l.units → l₀.queue = l.queue →
      (l₀.dropUnit n).unit? n = none ∧
      (∀ m, m ≠ n → (l₀.dropUnit n).unit? m = l.unit? m) ∧
      (l₀.dropUnit n).queue = l.queue.filter fun ticket => ticket.1 != n := by
    intro l₀ hunits hqueue
    refine ⟨unit?_dropUnit n l₀, ?_, ?_⟩
    · intro m hm
      rw [unit?_dropUnit_eq, if_neg hm, unit?, hunits, ← unit?]
    · rw [← hqueue]
      rfl
  rcases hends with rfl | rfl
  · rw [make]
    rcases commit_cases l n with ⟨-, hcommit⟩ | ⟨u, -, -, hcommit⟩ | ⟨-, -, hcommit⟩
    all_goals
      rw [hcommit]
      exact hend _ rfl rfl
  · exact hend l rfl rfl

/-! ## One move of its own -/

def transfersBy (n : UnitId) (move : Move) (l : Ledger) : List Transfer :=
  match move with
  | .recordTransfer k source target amount sourceAmount exchangeRate now =>
    if k = n then [(l.recordTransfer k source target amount sourceAmount exchangeRate now).1]
    else []
  | _ => []

def entriesBy (n : UnitId) (move : Move) (l : Ledger) : List Entry :=
  match move with
  | .recordEntry k account transfer amount now =>
    if k = n then [(l.recordEntry k account transfer amount now).1] else []
  | _ => []

/-- What a call that does not end its unit makes of the unit: nothing is left in the buffers
but what it records, and at most one copy is new, either taken from a committed row or
written by the call. -/
theorem unit?_make_own (hu : l.unit? n = some u) (move : Move) (hown : move.unit? = some n)
    (hends : ¬ move.Ends n) :
    ∃ v, (l.make move).unit? n = some v ∧
      v.transfers = u.transfers ++ l.transfersBy n move ∧
      v.entries = u.entries ++ l.entriesBy n move ∧
      (v.held = u.held ∨
        (∃ row a, u.copy? row = none ∧ l.account? row = some a ∧ v = u.take a) ∨
        (∃ row a balance, move = .setBalance n row balance ∧ u.copy? row = some a ∧
          v = u.write row { a with balance })) := by
  -- most calls leave the unit as it is
  have hsame : ∀ l' : Ledger, l'.unit? n = some u → l.transfersBy n move = [] →
      l.entriesBy n move = [] → ∃ v, l'.unit? n = some v ∧
        v.transfers = u.transfers ++ l.transfersBy n move ∧
        v.entries = u.entries ++ l.entriesBy n move ∧
        (v.held = u.held ∨
          (∃ row a, u.copy? row = none ∧ l.account? row = some a ∧ v = u.take a) ∨
          (∃ row a balance, move = .setBalance n row balance ∧ u.copy? row = some a ∧
            v = u.write row { a with balance })) := by
    intro l' hl' ht he
    refine ⟨u, hl', ?_, ?_, .inl rfl⟩
    · rw [ht, List.append_nil]
    · rw [he, List.append_nil]
  have heffect := l.effect_make move
  generalize l.make move = l' at heffect ⊢
  cases heffect with
  | declined hopens => exact absurd (hopens.publishes_outside.2.symm.trans hown) nofun
  | opened hopens => exact absurd (hopens.publishes_outside.2.symm.trans hown) nofun
  | scheduled fault => cases hown
  | begun => cases hown
  | applied _ _ => exact absurd (.inl (by rw [Option.some.inj hown])) hends
  | refused k => exact absurd (.inl (by rw [Option.some.inj hown])) hends
  | dropped k => exact absurd (.inr (by rw [Option.some.inj hown])) hends
  | answered k row => exact hsame l hu rfl rfl
  | waits _ _ _ _ => exact hsame _ hu rfl rfl
  | left k row => exact hsame (l.leaveQueue k row) hu rfl rfl
  | unwritten k row balance => exact hsame l hu rfl rfl
  | @granted k row v a hv hc ha _ =>
    obtain rfl : k = n := Option.some.inj hown
    rw [hu] at hv
    obtain rfl := Option.some.inj hv
    rw [unit?_grant, if_pos rfl, hu]
    refine ⟨u.take a, rfl, (List.append_nil _).symm, (List.append_nil _).symm, .inr (.inl ?_)⟩
    exact ⟨row, a, hc, ha, rfl⟩
  | recordedTransfer k source target amount sourceAmount exchangeRate now =>
    obtain rfl : k = n := Option.some.inj hown
    rw [unit?_recordTransfer, if_pos rfl, hu, transfersBy, if_pos rfl]
    exact ⟨_, rfl, rfl, (List.append_nil _).symm, .inl rfl⟩
  | recordedEntry k account transfer amount now =>
    obtain rfl : k = n := Option.some.inj hown
    rw [unit?_recordEntry, if_pos rfl, hu, entriesBy, if_pos rfl]
    exact ⟨_, rfl, (List.append_nil _).symm, rfl, .inl rfl⟩
  | @written k row balance v a hv hc _ =>
    obtain rfl : k = n := Option.some.inj hown
    rw [hu] at hv
    obtain rfl := Option.some.inj hv
    rw [unit?_write, if_pos rfl, hu]
    refine ⟨u.write row { a with balance }, rfl, (List.append_nil _).symm,
      (List.append_nil _).symm, .inr (.inr ?_)⟩
    exact ⟨row, a, balance, rfl, hc, rfl⟩

/-- What a call adds to the buffers of a unit that stays open, whoever makes it. -/
theorem buffers_make (h : l.Sound) (hu : l.unit? n = some u) (move : Move) {v : OpenUnit}
    (hv : (l.make move).unit? n = some v) :
    v.transfers = u.transfers ++ l.transfersBy n move ∧
      v.entries = u.entries ++ l.entriesBy n move := by
  by_cases hown : move.unit? = some n
  · by_cases hends : move.Ends n
    · -- an ended unit is not found any more
      have hgone : (l.make move).unit? n = none := (end_releases l hends).1
      rw [hgone] at hv
      exact absurd hv (by simp)
    · obtain ⟨w, hw, ht, he, -⟩ := unit?_make_own hu move hown hends
      rw [hw] at hv
      obtain rfl := Option.some.inj hv
      exact ⟨ht, he⟩
  · rw [unit?_make h hu move hown] at hv
    obtain rfl := Option.some.inj hv
    -- a call of somebody else records nothing here
    have hother : ∀ k, move.unit? = some k → k ≠ n := by
      rintro k hk rfl
      exact hown hk
    have ht : l.transfersBy n move = [] := by
      unfold transfersBy
      split
      · next k _ _ _ _ _ _ => rw [if_neg (hother k rfl)]
      · rfl
    have he : l.entriesBy n move = [] := by
      unfold entriesBy
      split
      · next k _ _ _ _ => rw [if_neg (hother k rfl)]
      · rfl
    rw [ht, he, List.append_nil, List.append_nil]
    exact ⟨rfl, rfl⟩

/-! ## Until the unit ends -/

/-- A unit that does not end keeps the rows that it holds, and it keeps its copy of a row
until it writes it. -/
theorem copy_make (h : l.Sound) (hu : l.unit? n = some u) (hc : u.copy? row = some c)
    (move : Move) (hends : ¬ move.Ends n) :
    ∃ v d, (l.make move).unit? n = some v ∧ v.copy? row = some d ∧
      (¬ move.Writes n row → d = c) := by
  by_cases hown : move.unit? = some n
  · obtain ⟨v, hv, -, -, hheld⟩ := unit?_make_own hu move hown hends
    rcases hheld with hheld | ⟨other, a, -, -, rfl⟩ | ⟨other, a, balance, rfl, ha, rfl⟩
    · -- nothing that it holds has changed
      refine ⟨v, c, hv, ?_, fun _ => rfl⟩
      rw [OpenUnit.copy?, hheld]
      exact hc
    · -- a new copy is found behind this one
      refine ⟨u.take a, c, hv, ?_, fun _ => rfl⟩
      rw [OpenUnit.copy?_take, hc, Option.some_or]
    · have hcopy := OpenUnit.copy?_write u other row (a := { a with balance })
        (OpenUnit.copy?_spec ha).2
      by_cases hrow : row = other
      · -- this copy was written, which is the exception
        refine ⟨_, { a with balance }, hv, ?_, ?_⟩
        · rw [hcopy, if_pos hrow, ha, Option.map_some]
        · intro hwrites
          exact absurd ⟨balance, by rw [hrow]⟩ hwrites
      · refine ⟨_, c, hv, ?_, fun _ => rfl⟩
        rw [hcopy, if_neg hrow, hc]
  · exact ⟨u, c, unit?_make h hu move hown, hc, fun _ => rfl⟩

/-- Until a unit ends, the row behind its copy stays committed as it is; the unit keeps the
row, and keeps its copy unless it writes it. -/
theorem run_keeps_copy (h : l.Sound) (hu : l.unit? n = some u) (hc : u.copy? row = some c)
    (later : List Move) (hlater : ∀ move ∈ later, ¬ move.Ends n) :
    (l.run later).account? row = l.account? row ∧
      ∃ v d, (l.run later).unit? n = some v ∧ v.copy? row = some d ∧
        ((∀ move ∈ later, ¬ move.Writes n row) → d = c) := by
  -- by induction on the moves; the unit and its copy may be others after each of them
  induction later generalizing l u c with
  | nil => exact ⟨rfl, u, c, hu, hc, fun _ => rfl⟩
  | cons move later ih =>
    have hends : ¬ move.Ends n := hlater move List.mem_cons_self
    obtain ⟨v, d, hv, hd, hcopy⟩ := copy_make h hu hc move hends
    have haccount : (l.make move).account? row = l.account? row :=
      account?_make h hu hc move fun heq => hends (.inl heq)
    obtain ⟨hrow, w, e, hw, he, hcopy'⟩ := ih (h.make move) hv hd fun move' hmove' =>
      hlater move' (List.mem_cons_of_mem _ hmove')
    refine ⟨hrow.trans haccount, w, e, hw, he, ?_⟩
    intro hwrites
    have hfirst : d = c := hcopy (hwrites move List.mem_cons_self)
    have hrest : e = d := hcopy' fun move' hmove' =>
      hwrites move' (List.mem_cons_of_mem _ hmove')
    exact hrest.trans hfirst

/-- What is granted is the copy that the unit has from then on, whether or not it had it before. -/
theorem copy_of_granted (hgrant : (l.lock n row).1 = .granted a) :
    ∃ v, (l.lock n row).2.unit? n = some v ∧ v.copy? row = some a := by
  rcases lock_cases l n row with ⟨u, b, hu, hc, hlock⟩ | ⟨-, hlock⟩ |
    ⟨u, b, hu, hc, hb, -, hlock⟩ | ⟨u, b, queue, -, -, -, -, -, hlock⟩
  · rw [hlock] at hgrant ⊢
    cases hgrant
    exact ⟨u, hu, hc⟩
  · rw [hlock] at hgrant
    cases hgrant
  · rw [hlock] at hgrant ⊢
    cases hgrant
    refine ⟨u.take a, ?_, ?_⟩
    · rw [unit?_grant, if_pos rfl, hu, Option.map_some]
    · rw [OpenUnit.copy?_take, hc, Option.none_or, if_pos (account?_spec hb).2]
  · rw [hlock] at hgrant
    cases hgrant

/-- What a unit was granted stays committed, and stays its own. -/
theorem run_keeps_granted (h : l.Sound) (hgrant : (l.lock n row).1 = .granted a)
    (later : List Move) (hlater : ∀ move ∈ later, ¬ move.Ends n) :
    ((l.lock n row).2.run later).account? row = (l.lock n row).2.account? row ∧
      ∃ v d, ((l.lock n row).2.run later).unit? n = some v ∧ v.copy? row = some d ∧
        ((∀ move ∈ later, ¬ move.Writes n row) → d = a) := by
  obtain ⟨v, hv, hcopy⟩ := copy_of_granted hgrant
  exact run_keeps_copy (h.make (.lock n row)) hv hcopy later hlater

/-- A row that a unit did not hold is granted as it is committed. -/
theorem account?_of_granted (hgrant : (l.lock n row).1 = .granted a)
    (hnew : ∀ u, l.unit? n = some u → u.holds row = false) :
    (l.lock n row).2.account? row = some a := by
  have hbooks : (l.lock n row).2.account? row = l.account? row := by
    rw [account?, (committed_lock n row l).1, ← account?]
  rw [hbooks]
  rcases lock_cases l n row with ⟨u, b, hu, hc, -⟩ | ⟨-, hlock⟩ |
    ⟨u, b, -, -, hb, -, hlock⟩ | ⟨u, b, queue, -, -, -, -, -, hlock⟩
  · -- the unit had a copy already, which is excluded
    have hfree := hnew u hu
    rw [OpenUnit.holds_eq_isSome, hc] at hfree
    cases hfree
  · rw [hlock] at hgrant
    cases hgrant
  · rw [hlock] at hgrant
    cases hgrant
    exact hb
  · rw [hlock] at hgrant
    cases hgrant

/-- What is answered to a write is the copy that the unit has from then on, with the balance that
was written. -/
theorem copy_of_setBalance {balance : Int} (hset : (l.setBalance n row balance).1 = .ok a) :
    a.balance = balance ∧
      ∃ v, (l.setBalance n row balance).2.unit? n = some v ∧ v.copy? row = some a := by
  rcases setBalance_cases l n row balance with ⟨e, hcase⟩ | ⟨u, b, hu, hc, -, hcase⟩
  · rw [hcase] at hset
    cases hset
  · rw [hcase] at hset ⊢
    cases hset
    refine ⟨rfl, u.write row { b with balance }, ?_, ?_⟩
    · rw [unit?_write, if_pos rfl, hu, Option.map_some]
    · rw [OpenUnit.copy?_write u row row (a := { b with balance }) (OpenUnit.copy?_spec hc).2,
        if_pos rfl, hc, Option.map_some]

/-! ## The promise -/

/-- What those who share a ledger may rely on. A unit *ends* with a commit, whatever comes
of it, and when it is rolled back or dropped. -/
structure Isolated (l : Ledger) : Prop where
  /-- No row is locked by two units. -/
  exclusive : ∀ n m u v row, l.unit? n = some u → l.unit? m = some v → u.holds row = true →
    v.holds row = true → n = m
  /-- What a unit reads under a new lock is committed, and stays so until the unit ends. -/
  stable : ∀ n row a later, (l.lock n row).1 = .granted a →
    (∀ u, l.unit? n = some u → u.holds row = false) → (∀ move ∈ later, ¬ move.Ends n) →
    ((l.lock n row).2.run later).account? row = some a
  /-- So a commit replaces the row that the unit has read, and changes its balance only. -/
  noLostUpdate : ∀ n row a later, (l.lock n row).1 = .granted a →
    (∀ u, l.unit? n = some u → u.holds row = false) → (∀ move ∈ later, ¬ move.Ends n) →
    ∃ u c, ((l.lock n row).2.run later).unit? n = some u ∧ u.copy? row = some c ∧
      c = { a with balance := c.balance } ∧
      (((l.lock n row).2.run later).faults.head? ≠ some .contention →
        (((l.lock n row).2.run later).commit n).2.account? row = some c)
  /-- A unit reads again what it has read, until it writes it. -/
  ownReads : ∀ n row a later, (l.lock n row).1 = .granted a →
    (∀ move ∈ later, ¬ move.Ends n ∧ ¬ move.Writes n row) →
    (((l.lock n row).2.run later).lock n row).1 = .granted a
  /-- A unit reads what it has written last. -/
  ownWrites : ∀ n row balance a later, (l.setBalance n row balance).1 = .ok a →
    (∀ move ∈ later, ¬ move.Ends n ∧ ¬ move.Writes n row) →
    a.balance = balance ∧
      (((l.setBalance n row balance).2.run later).lock n row).1 = .granted a
  /-- A call of somebody else changes nothing about a unit: neither its locks nor its copies
  nor its buffers. -/
  undisturbed : ∀ n u move, l.unit? n = some u → move.unit? ≠ some n →
    (l.make move).unit? n = some u
  /-- Reading from outside depends on the committed rows and the journal only. -/
  reads : ∀ l' : Ledger, l'.SameBooks l →
    (∀ row, l'.account? row = l.account? row) ∧
    (∀ owner limit offset, l'.accountsOf owner limit offset = l.accountsOf owner limit offset) ∧
    (∀ selection, l'.transfersOf selection = l.transfersOf selection) ∧
    (∀ transfer, l'.entriesOf transfer = l.entriesOf transfer)
  /-- What a unit does before its commit shows nowhere outside. -/
  invisible : ∀ move, ¬ move.Publishes → (l.make move).SameBooks l
  /-- Rolling back, dropping and a refused commit leave no trace in the books. -/
  traceless : ∀ n, (l.dropUnit n).SameBooks l ∧
    (l.faults.head? = some .contention → (l.commit n).2.SameBooks l)
  /-- A unit begins without locks and with empty buffers, under a name that nobody has. -/
  begun : l.unit? l.beginUnit.1 = none ∧
    l.beginUnit.2.unit? l.beginUnit.1 = some { id := l.beginUnit.1 }
  /-- Its buffers hold what it records, in the order in which it is recorded. -/
  buffered : ∀ n u v move, l.unit? n = some u → (l.make move).unit? n = some v →
    v.transfers = u.transfers ++ l.transfersBy n move ∧
      v.entries = u.entries ++ l.entriesBy n move
  /-- A commit that is carried out replaces the rows that the unit holds by its copies, leaves
  the others, and puts the buffers behind the journal. -/
  applied : ∀ n u, l.unit? n = some u → l.faults.head? ≠ some .contention →
    (l.commit n).2.transfers = l.transfers ++ u.transfers ∧
    (l.commit n).2.entries = l.entries ++ u.entries ∧
    (l.commit n).2.accounts.map Account.id = l.accounts.map Account.id ∧
    (∀ row c, u.copy? row = some c → (l.commit n).2.account? row = some c) ∧
    (∀ row, u.holds row = false → (l.commit n).2.account? row = l.account? row)
  /-- A unit that ends gives up its locks and its places in the queue, and no others. -/
  released : ∀ n move, move.Ends n → (l.make move).unit? n = none ∧
    (∀ m, m ≠ n → (l.make move).unit? m = l.unit? m) ∧
    (l.make move).queue = l.queue.filter fun ticket => ticket.1 != n
  /-- No committed balance is negative. -/
  funded : ∀ a ∈ l.accounts, 0 ≤ a.balance

/-- Whatever units of work do to a ledger, and in whatever order, they are isolated. -/
theorem isolated_run_empty (moves : List Move) : (empty.run moves).Isolated := by
  have h : (empty.run moves).Sound := sound_run_empty moves
  generalize empty.run moves = l at h
  refine ⟨?_, ?_, ?_, ?_, ?_, ?_, ?_, sameBooks_make l, ?_, ?_, ?_, ?_, ?_, h.funded⟩
  · intro n m u v row hu hv hholds hholds'
    rw [OpenUnit.holds_eq_isSome] at hholds hholds'
    obtain ⟨c, hc⟩ := Option.isSome_iff_exists.mp hholds
    obtain ⟨d, hd⟩ := Option.isSome_iff_exists.mp hholds'
    exact (h.unit_eq hu hv hc hd).symm
  · intro n row a later hgrant hnew hlater
    rw [(run_keeps_granted h hgrant later hlater).1]
    exact account?_of_granted hgrant hnew
  · intro n row a later hgrant hnew hlater
    -- the copy differs from the committed row in its balance only, and that row is what was read
    obtain ⟨haccount, v, d, hv, hd, -⟩ := run_keeps_granted h hgrant later hlater
    rw [account?_of_granted hgrant hnew] at haccount
    have hsound : ((l.lock n row).2.run later).Sound := (h.make (.lock n row)).run later
    obtain ⟨b, hb, hdb⟩ := (hsound.copies n v row d hv hd).committed
    rw [haccount] at hb
    cases hb
    refine ⟨v, d, hv, hd, hdb, ?_⟩
    intro hf
    rw [account?_commit hv hf, haccount, hd, Option.map_some, Option.getD_some]
  · intro n row a later hgrant hlater
    obtain ⟨-, v, d, hv, hd, hsame⟩ :=
      run_keeps_granted h hgrant later fun move hmove => (hlater move hmove).1
    rw [lock_of_copy hv hd, hsame fun move hmove => (hlater move hmove).2]
  · intro n row balance a later hset hlater
    obtain ⟨hbalance, v, hv, hcopy⟩ := copy_of_setBalance hset
    have hwritten : (l.setBalance n row balance).2.Sound := h.make (.setBalance n row balance)
    obtain ⟨-, w, d, hw, hd, hsame⟩ := run_keeps_copy hwritten hv hcopy later
      fun move hmove => (hlater move hmove).1
    refine ⟨hbalance, ?_⟩
    rw [lock_of_copy hw hd, hsame fun move hmove => (hlater move hmove).2]
  · intro n u move hu hmove
    exact unit?_make h hu move hmove
  · intro l' hbooks
    exact hbooks.reads
  · intro n
    refine ⟨committed_dropUnit n l, ?_⟩
    intro hf
    rw [commit_of_contention n hf]
    exact ⟨rfl, rfl, rfl⟩
  · refine ⟨h.unit?_next, ?_⟩
    have hbegin := unit?_beginUnit l ⟨l.nextUnit⟩ h.unit?_next
    rw [if_pos rfl] at hbegin
    exact hbegin
  · intro n u v move hu hv
    exact buffers_make h hu move hv
  · intro n u hu hf
    exact commit_applies h hu hf
  · intro n move hends
    exact end_releases l hends

end CountingHouse.Ledger
