/-
No number is drawn twice.

Transfers and entries are numbered when they are recorded, long before they are committed,
and a unit that ends without effect takes its numbers with it. So it is not enough to look
at the journal: `Numbered` speaks of the committed rows and of the buffers of all open units
at once, of which any two are disjoint, all of them below the next number.

Both series of numbers obey the same law, and `Series` says which of them is meant.
`Redraws` lists what a move can do to a series, and `redraws_make` finds every move in that list;
the invariant follows from the list without another look at the moves.

The counters are integers and go on for ever. Of stored numbers, which have 64 bits, all of this
is true for as long as fewer than 2 ^ 63 of a series have been drawn.
-/
import CountingHouse.Proofs.Ledger.Moves

set_option autoImplicit false

namespace CountingHouse

/-- The two series of numbers in the journal. -/
inductive Series where
  | transfers
  | entries

namespace Series

def committed (k : Series) (l : Ledger) : List Int :=
  match k with
  | transfers => l.transfers.map fun t => t.id.number
  | entries => l.entries.map fun e => e.id.number

def buffered (k : Series) (u : OpenUnit) : List Int :=
  match k with
  | transfers => u.transfers.map fun t => t.id.number
  | entries => u.entries.map fun e => e.id.number

/-- The numbers of the series in the buffer of whatever unit has that name. -/
def buffer (k : Series) (l : Ledger) (n : UnitId) : List Int :=
  ((l.unit? n).map k.buffered).getD []

def next (k : Series) (l : Ledger) : Int :=
  match k with
  | transfers => l.nextTransfer
  | entries => l.nextEntry

end Series

/-- The numbers of a series that are in use are different, and less than the next one. -/
structure Numbered (k : Series) (l : Ledger) : Prop where
  committed_nodup : (k.committed l).Nodup
  committed_lt : ∀ i ∈ k.committed l, i < k.next l
  buffer_nodup : ∀ n, (k.buffer l n).Nodup
  buffer_lt : ∀ n, ∀ i ∈ k.buffer l n, i < k.next l
  fresh : ∀ n, ∀ i ∈ k.buffer l n, i ∉ k.committed l
  apart : ∀ n m, n ≠ m → ∀ i ∈ k.buffer l n, i ∉ k.buffer l m

variable {k : Series} {l l' : Ledger} {n : UnitId}

/-! ## What a move does to a series -/

/-- The three ways in which a move can touch a series: hardly at all, by drawing the next
number into a buffer, or by emptying a buffer, perhaps into the journal. -/
inductive Redraws (k : Series) (l l' : Ledger) : Prop where
  | keeps (hbuffer : ∀ m, k.buffer l' m = k.buffer l m)
      (hcommitted : k.committed l' = k.committed l)
      (hnext : k.next l ≤ k.next l')
  | draws (n : UnitId)
      (hbuffer : ∀ m, k.buffer l' m = if m = n then k.buffer l n ++ [k.next l] else k.buffer l m)
      (hcommitted : k.committed l' = k.committed l) (hnext : k.next l' = k.next l + 1)
  | empties (n : UnitId) (hbuffer : ∀ m, k.buffer l' m = if m = n then [] else k.buffer l m)
      (hcommitted : k.committed l' = k.committed l ∨
        k.committed l' = k.committed l ++ k.buffer l n)
      (hnext : k.next l' = k.next l)

/-- What is committed of a series is part of the journal. -/
theorem Series.committed_congr (k : Series) (ht : l'.transfers = l.transfers)
    (he : l'.entries = l.entries) : k.committed l' = k.committed l := by
  unfold committed
  rw [ht, he]

/-- The next number of a series is one of the two counters. -/
theorem Series.next_congr (k : Series) (ht : l'.nextTransfer = l.nextTransfer)
    (he : l'.nextEntry = l.nextEntry) : k.next l' = k.next l := by
  unfold next
  rw [ht, he]

/-- What a unit has buffered of a series is part of its buffers. -/
theorem Series.buffered_congr (k : Series) {u v : OpenUnit} (ht : v.transfers = u.transfers)
    (he : v.entries = u.entries) : k.buffered v = k.buffered u := by
  unfold buffered
  rw [ht, he]

/-- A unit that is as it was has buffered what it had. -/
theorem buffer_of_unit? (hunit : l'.unit? n = l.unit? n) : k.buffer l' n = k.buffer l n := by
  unfold Series.buffer
  rw [hunit]

/-- A change of one unit that leaves its buffers alone leaves all buffers alone. -/
theorem buffer_of_change {change : OpenUnit → OpenUnit}
    (hunits : ∀ m, l'.unit? m = if m = n then (l.unit? n).map change else l.unit? m)
    (hchange : ∀ u, k.buffered (change u) = k.buffered u) (m : UnitId) :
    k.buffer l' m = k.buffer l m := by
  unfold Series.buffer
  rw [hunits]
  by_cases hm : m = n
  · rw [if_pos hm, hm, Option.map_map]
    have hsame : k.buffered ∘ change = k.buffered := funext hchange
    rw [hsame]
  · rw [if_neg hm]

/-- A move that leaves buffers, journal and counters alone draws no number and moves none. -/
theorem redraws_of_same (hbuffer : ∀ m, k.buffer l' m = k.buffer l m)
    (ht : l'.transfers = l.transfers) (he : l'.entries = l.entries)
    (hnt : l'.nextTransfer = l.nextTransfer) (hne : l'.nextEntry = l.nextEntry) :
    Redraws k l l' :=
  .keeps hbuffer (k.committed_congr ht he) (Int.le_of_eq (k.next_congr hnt hne).symm)

/-- A row recorded in a unit: its number is drawn, even if nobody has that unit open. -/
theorem redraws_of_record {change : OpenUnit → OpenUnit}
    (hunits : ∀ m, l'.unit? m = if m = n then (l.unit? n).map change else l.unit? m)
    (hchange : ∀ u, k.buffered (change u) = k.buffered u ++ [k.next l])
    (hcommitted : k.committed l' = k.committed l) (hnext : k.next l' = k.next l + 1) :
    Redraws k l l' := by
  rcases hn : l.unit? n with _ | u
  · -- nobody keeps the number, and it is gone all the same
    refine .keeps ?_ hcommitted (by omega)
    intro m
    refine buffer_of_unit? ?_
    rw [hunits]
    by_cases hm : m = n
    · rw [if_pos hm, hm, hn, Option.map_none]
    · rw [if_neg hm]
  · refine .draws n ?_ hcommitted hnext
    intro m
    by_cases hm : m = n
    · rw [if_pos hm]
      unfold Series.buffer
      rw [hunits, if_pos hm, hn, Option.map_some, Option.map_some, Option.map_some,
        Option.getD_some, Option.getD_some, hchange]
    · rw [if_neg hm]
      refine buffer_of_unit? ?_
      rw [hunits, if_neg hm]

/-- A unit that ends takes its buffer with it or leaves it behind the journal, and no number is
drawn. -/
theorem redraws_of_end (hunits : ∀ m, l'.unit? m = if m = n then none else l.unit? m)
    (hcommitted : k.committed l' = k.committed l ∨
      k.committed l' = k.committed l ++ k.buffer l n)
    (hnext : k.next l' = k.next l) : Redraws k l l' := by
  refine .empties n ?_ hcommitted hnext
  intro m
  by_cases hm : m = n
  · rw [if_pos hm]
    unfold Series.buffer
    rw [hunits, if_pos hm]
    rfl
  · rw [if_neg hm]
    refine buffer_of_unit? ?_
    rw [hunits, if_neg hm]

/-! ## What each call does to a series

One lemma for each effect that concerns a unit; `redraws_make` puts them together. -/

/-- Calls that leave units, journal and counters alone leave both series alone. Such are those that
touch the rows of accounts, the faults or the queue only. -/
theorem redraws_of_untouched (hunits : ∀ m, l'.unit? m = l.unit? m)
    (ht : l'.transfers = l.transfers) (he : l'.entries = l.entries)
    (hnt : l'.nextTransfer = l.nextTransfer) (hne : l'.nextEntry = l.nextEntry) :
    Redraws k l l' :=
  redraws_of_same (fun m => buffer_of_unit? (hunits m)) ht he hnt hne

/-- A new unit has nothing in its buffers, and neither had its name before. -/
theorem redraws_beginUnit (h : l.Sound) (k : Series) : Redraws k l l.beginUnit.2 := by
  refine redraws_of_same ?_ rfl rfl rfl rfl
  intro m
  unfold Series.buffer
  rw [Ledger.unit?_beginUnit l m h.unit?_next]
  by_cases hm : m = ⟨l.nextUnit⟩
  · rw [if_pos hm, hm, h.unit?_next]
    cases k with
    | transfers => rfl
    | entries => rfl
  · rw [if_neg hm]

/-- A row that is granted leaves the buffers alone: the unit has one more copy. -/
theorem redraws_grant (k : Series) (n : UnitId) (a : Account) (row : AccountId) :
    Redraws k l (l.grant n a row) := by
  refine redraws_of_same (buffer_of_change (fun m => Ledger.unit?_grant l n m a row) ?_)
    rfl rfl rfl rfl
  intro u
  exact k.buffered_congr rfl rfl

/-- A recorded transfer draws a number of its own series and leaves the other one alone. -/
theorem redraws_recordTransfer (k : Series) (n : UnitId) (source target : AccountId)
    (amount sourceAmount : Int) (exchangeRate : Option Decimal) (now : Instant) :
    Redraws k l (l.recordTransfer n source target amount sourceAmount exchangeRate now).2 := by
  have hunits := fun m =>
    Ledger.unit?_recordTransfer l n m source target amount sourceAmount exchangeRate now
  cases k with
  | transfers =>
    refine redraws_of_record hunits ?_ rfl rfl
    intro u
    exact List.map_append
  | entries => exact .keeps (buffer_of_change hunits fun _ => rfl) rfl (Int.le_refl _)

/-- A recorded entry does the same, with the series exchanged. -/
theorem redraws_recordEntry (k : Series) (n : UnitId) (account : AccountId) (transfer : TransferId)
    (amount : Int) (now : Instant) :
    Redraws k l (l.recordEntry n account transfer amount now).2 := by
  have hunits := fun m => Ledger.unit?_recordEntry l n m account transfer amount now
  cases k with
  | transfers => exact .keeps (buffer_of_change hunits fun _ => rfl) rfl (Int.le_refl _)
  | entries =>
    refine redraws_of_record hunits ?_ rfl rfl
    intro u
    exact List.map_append

/-- A balance is written into a copy of a row, and copies are not in the buffers. -/
theorem redraws_write (k : Series) (n : UnitId) (row : AccountId) (a : Account) :
    Redraws k l (l.modifyUnit n (OpenUnit.write row a)) := by
  refine redraws_of_same (buffer_of_change (fun m => Ledger.unit?_write l n m row a) ?_)
    rfl rfl rfl rfl
  intro u
  exact k.buffered_congr rfl rfl

/-- A unit that is dropped takes its numbers with it, whatever is left of the schedule. -/
theorem redraws_dropUnit (k : Series) (n : UnitId) (faults : List CommitFault) :
    Redraws k l (({ l with faults } : Ledger).dropUnit n) :=
  redraws_of_end (fun m => Ledger.unit?_dropUnit_eq _ n m)
    (.inl (k.committed_congr rfl rfl)) (k.next_congr rfl rfl)

/-- A commit that is carried out empties the buffers of its unit into the journal, whether or not it
is acknowledged. -/
theorem redraws_applyUnit (k : Series) {u : OpenUnit} (hu : l.unit? n = some u)
    (faults : List CommitFault) :
    Redraws k l ((({ l with faults } : Ledger).apply u).dropUnit n) := by
  refine redraws_of_end (fun m => Ledger.unit?_dropUnit_eq _ n m) (.inr ?_) (k.next_congr rfl rfl)
  unfold Series.buffer
  rw [hu]
  cases k with
  | transfers => exact List.map_append
  | entries => exact List.map_append

/-- Every call touches a series in one of the three ways. -/
theorem redraws_make (h : l.Sound) (k : Series) (move : Move) : Redraws k l (l.make move) := by
  have heffect := l.effect_make move
  generalize l.make move = l' at heffect ⊢
  cases heffect with
  | begun => exact redraws_beginUnit h k
  | granted _ _ _ _ => exact redraws_grant k _ _ _
  | recordedTransfer n source target amount sourceAmount exchangeRate now =>
    exact redraws_recordTransfer k n source target amount sourceAmount exchangeRate now
  | recordedEntry n account transfer amount now =>
    exact redraws_recordEntry k n account transfer amount now
  | written _ _ _ => exact redraws_write k _ _ _
  | applied hu _ => exact redraws_applyUnit k hu _
  | refused n => exact redraws_dropUnit k n _
  | dropped n => exact redraws_dropUnit k n l.faults
  | _ => exact redraws_of_untouched (fun _ => rfl) rfl rfl rfl rfl

/-! ## The invariant -/

/-- In a new ledger there is no number that could be there twice. -/
theorem numbered_empty (k : Series) : Numbered k Ledger.empty := by
  have hcommitted : k.committed Ledger.empty = [] := by
    rcases k with _ | _
    all_goals rfl
  have hnone : ∀ n i, i ∉ k.buffer Ledger.empty n := fun n i => List.not_mem_nil
  have hnone' : ∀ i, i ∉ k.committed Ledger.empty := by
    rw [hcommitted]
    exact fun i => List.not_mem_nil
  refine ⟨?_, fun i hi => absurd hi (hnone' i), fun n => List.nodup_nil,
    fun n i hi => absurd hi (hnone n i), fun n i hi => absurd hi (hnone n i),
    fun n m hnm i hi => absurd hi (hnone n i)⟩
  rw [hcommitted]
  exact List.nodup_nil

/-- Where buffers and journal are as they were, numbers stay in order even if some are skipped. -/
theorem Numbered.keeps (h : Numbered k l) (hbuffer : ∀ m, k.buffer l' m = k.buffer l m)
    (hcommitted : k.committed l' = k.committed l) (hnext : k.next l ≤ k.next l') :
    Numbered k l' := by
  refine ⟨?_, ?_, ?_, ?_, ?_, ?_⟩
  · rw [hcommitted]
    exact h.committed_nodup
  · rw [hcommitted]
    intro i hi
    exact Int.lt_of_lt_of_le (h.committed_lt i hi) hnext
  · intro n
    rw [hbuffer]
    exact h.buffer_nodup n
  · -- numbers below the old next one are below the new one
    intro n i hi
    rw [hbuffer] at hi
    exact Int.lt_of_lt_of_le (h.buffer_lt n i hi) hnext
  · intro n i hi
    rw [hbuffer] at hi
    rw [hcommitted]
    exact h.fresh n i hi
  · intro n m hnm i hi
    rw [hbuffer] at hi ⊢
    exact h.apart n m hnm i hi

/-- The number that is drawn is greater than all that are in use. -/
theorem Numbered.draws (h : Numbered k l)
    (hbuffer : ∀ m, k.buffer l' m
      = if m = n then k.buffer l n ++ [k.next l] else k.buffer l m)
    (hcommitted : k.committed l' = k.committed l) (hnext : k.next l' = k.next l + 1) :
    Numbered k l' := by
  -- what is in a buffer was there before, or is the number that was drawn
  have hin : ∀ m i, i ∈ k.buffer l' m → i ∈ k.buffer l m ∨ (m = n ∧ i = k.next l) := by
    intro m i hi
    rw [hbuffer] at hi
    by_cases hm : m = n
    · rw [if_pos hm] at hi
      rcases List.mem_append.mp hi with hold | hnew
      · exact .inl (hm ▸ hold)
      · exact .inr ⟨hm, List.mem_singleton.mp hnew⟩
    · rw [if_neg hm] at hi
      exact .inl hi
  have hnotin : ∀ m, k.next l ∉ k.buffer l m := by
    intro m hi
    exact absurd (h.buffer_lt m _ hi) (Int.lt_irrefl _)
  refine ⟨?_, ?_, ?_, ?_, ?_, ?_⟩
  · rw [hcommitted]
    exact h.committed_nodup
  · rw [hcommitted]
    intro i hi
    have hlt := h.committed_lt i hi
    omega
  · intro m
    rw [hbuffer]
    by_cases hm : m = n
    · rw [if_pos hm]
      refine List.nodup_append.mpr ⟨h.buffer_nodup n, List.pairwise_singleton .., ?_⟩
      intro i hi j hj heq
      rw [heq, List.mem_singleton.mp hj] at hi
      exact hnotin n hi
    · rw [if_neg hm]
      exact h.buffer_nodup m
  · intro m i hi
    rcases hin m i hi with hold | ⟨-, rfl⟩
    · have hlt := h.buffer_lt m i hold
      omega
    · omega
  · intro m i hi
    rw [hcommitted]
    rcases hin m i hi with hold | ⟨-, rfl⟩
    · exact h.fresh m i hold
    · intro hc
      exact absurd (h.committed_lt _ hc) (Int.lt_irrefl _)
  · intro m m' hm i hi hi'
    rcases hin m i hi with hold | ⟨rfl, rfl⟩
    · rcases hin m' i hi' with hold' | ⟨rfl, rfl⟩
      · exact h.apart m m' hm i hold hold'
      · exact hnotin m hold
    · rcases hin m' _ hi' with hold' | ⟨rfl, -⟩
      · exact hnotin m' hold'
      · exact hm rfl

/-- A unit that ends takes its numbers along, or they are committed, and then they are nowhere
else. -/
theorem Numbered.ends (h : Numbered k l)
    (hbuffer : ∀ m, k.buffer l' m = if m = n then [] else k.buffer l m)
    (hcommitted : k.committed l' = k.committed l ∨
      k.committed l' = k.committed l ++ k.buffer l n)
    (hnext : k.next l' = k.next l) : Numbered k l' := by
  -- the buffers that are left are those of the others
  have hin : ∀ m i, i ∈ k.buffer l' m → m ≠ n ∧ i ∈ k.buffer l m := by
    intro m i hi
    rw [hbuffer] at hi
    by_cases hm : m = n
    · rw [if_pos hm] at hi
      exact absurd hi List.not_mem_nil
    · rw [if_neg hm] at hi
      exact ⟨hm, hi⟩
  -- what is committed now was committed or stood in the buffer of the unit that ends
  have hold : ∀ i, i ∈ k.committed l' → i ∈ k.committed l ∨ i ∈ k.buffer l n := by
    intro i hi
    rcases hcommitted with hc | hc
    · rw [hc] at hi
      exact .inl hi
    · rw [hc] at hi
      exact List.mem_append.mp hi
  refine ⟨?_, ?_, ?_, ?_, ?_, ?_⟩
  · rcases hcommitted with hc | hc
    · rw [hc]
      exact h.committed_nodup
    · rw [hc]
      refine List.nodup_append.mpr ⟨h.committed_nodup, h.buffer_nodup n, ?_⟩
      -- the buffer has come behind the journal, and they had no number in common
      intro i hi j hj heq
      rw [heq] at hi
      exact h.fresh n j hj hi
  · intro i hi
    rw [hnext]
    rcases hold i hi with hc | hbuf
    · exact h.committed_lt i hc
    · exact h.buffer_lt n i hbuf
  · intro m
    rw [hbuffer]
    by_cases hm : m = n
    · rw [if_pos hm]
      exact List.nodup_nil
    · rw [if_neg hm]
      exact h.buffer_nodup m
  · intro m i hi
    rw [hnext]
    exact h.buffer_lt m i (hin m i hi).2
  · intro m i hi hc
    -- a number in another buffer is neither in the old journal nor in the buffer of that unit
    obtain ⟨hm, hi⟩ := hin m i hi
    rcases hold i hc with hc | hbuf
    · exact h.fresh m i hi hc
    · exact h.apart m n hm i hi hbuf
  · intro m m' hm i hi hi'
    exact h.apart m m' hm i (hin m i hi).2 (hin m' i hi').2

/-- Whatever a single move may do to a series keeps its numbers in order. -/
theorem Numbered.redraws (h : Numbered k l) (hmove : Redraws k l l') : Numbered k l' := by
  rcases hmove with ⟨hbuffer, hcommitted, hnext⟩ | ⟨n, hbuffer, hcommitted, hnext⟩ |
    ⟨n, hbuffer, hcommitted, hnext⟩
  · exact h.keeps hbuffer hcommitted hnext
  · exact h.draws hbuffer hcommitted hnext
  · exact h.ends hbuffer hcommitted hnext

/-- Numbers stay in order over any list of moves. -/
theorem Numbered.run (h : Numbered k l) (hsound : l.Sound) (moves : List Move) :
    Numbered k (l.run moves) := by
  induction moves generalizing l with
  | nil => exact h
  | cons move moves ih =>
    have hmove : Numbered k (l.make move) := h.redraws (redraws_make hsound k move)
    exact ih hmove (hsound.make move)

/-- Whatever is done to a ledger, its numbers are drawn once. -/
theorem numbered_run_empty (k : Series) (moves : List Move) :
    Numbered k (Ledger.empty.run moves) :=
  (numbered_empty k).run Ledger.sound_empty moves

/-! ## Transfers and entries by their numbers -/

/-- No transfer number is in the journal twice. -/
theorem Numbered.transfers_nodup (h : Numbered .transfers l) :
    (l.transfers.map Transfer.id).Nodup := by
  refine List.Nodup.of_map TransferId.number ?_
  rw [List.map_map]
  exact h.committed_nodup

/-- No entry number is in the journal twice. -/
theorem Numbered.entries_nodup (h : Numbered .entries l) : (l.entries.map Entry.id).Nodup := by
  refine List.Nodup.of_map EntryId.number ?_
  rw [List.map_map]
  exact h.committed_nodup

/-- What is committed is in no buffer any more. -/
theorem Numbered.not_buffered (h : Numbered k l) {u : OpenUnit} (hu : l.unit? n = some u)
    {i : Int} (hi : i ∈ k.buffered u) : i ∉ k.committed l := by
  refine h.fresh n i ?_
  unfold Series.buffer
  rw [hu]
  exact hi

end CountingHouse
