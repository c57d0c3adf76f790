/-
What is written in the journal stays there.

`Continues` compares the ledgers of two moments. The later journal goes on where the earlier
one ended: no row has been changed, removed or moved. Its numbers are different from each
other, from all numbers that are still to be drawn, and from those in the buffers of the units
that are open at the later moment, so no commit to come can repeat one.

The entries of a transfer follow from that. The books are in order at both moments, so the
transfer has its debit and its credit at each of them, and the earlier two are among the
later two.
-/
import CountingHouse.Proofs.Transfer.Books

set_option autoImplicit false

namespace CountingHouse

open Attempt

/-- The ledger `l'` of a later moment, whose journal goes on from that of the ledger `l`. -/
structure Ledger.Continues (l' l : Ledger) : Prop where
  /-- What was committed is committed still, in its place. -/
  transfers : l.transfers <+: l'.transfers
  entries : l.entries <+: l'.entries
  /-- No number occurs twice in the journal. -/
  transfers_nodup : (l'.transfers.map Transfer.id).Nodup
  entries_nodup : (l'.entries.map Entry.id).Nodup
  /-- No number of the journal is drawn again. -/
  transfer_new : ∀ t ∈ l'.transfers, ∀ n source target amount sourceAmount rate now,
    (l'.recordTransfer n source target amount sourceAmount rate now).1.id ≠ t.id
  entry_new : ∀ e ∈ l'.entries, ∀ n account transfer amount now,
    (l'.recordEntry n account transfer amount now).1.id ≠ e.id
  /-- No number of the journal waits in a unit for a commit. -/
  transfer_apart : ∀ u ∈ l'.units, ∀ t ∈ u.transfers, t.id ∉ l'.transfers.map Transfer.id
  entry_apart : ∀ u ∈ l'.units, ∀ e ∈ u.entries, e.id ∉ l'.entries.map Entry.id
  /-- A transfer has the entries that it had, the debit before the credit. -/
  pairs : ∀ t ∈ l.transfers, ∃ debit credit, l.entriesOf t.id = [debit, credit] ∧
    l'.entriesOf t.id = [debit, credit] ∧ debit.account = t.source ∧
    debit.amount = -t.sourceAmount ∧ credit.account = t.target ∧ credit.amount = t.amount

namespace Floor

variable {f f' : Floor} {t : Transfer}

/-- An event appends to the journal. -/
theorem Evolves.journal (h : f.Evolves f') :
    f.stores.ledger.transfers <+: f'.stores.ledger.transfers ∧
      f.stores.ledger.entries <+: f'.stores.ledger.entries := by
  rcases h with ⟨⟨-, htransfers, hentries⟩, -, -, -, -⟩ | ⟨request, now, hledger, -, -, -⟩ |
    ⟨request, now, hledger, -, -, -⟩ | ⟨-, -, -, -, ⟨-, htransfers, hentries⟩, -, -, -, -⟩
  · rw [htransfers, hentries]
    exact ⟨List.prefix_rfl, List.prefix_rfl⟩
  · rw [hledger]
    rcases request.apply_congr now (l := f.stores.ledger) rfl (fun _ _ => rfl) with
      ⟨e, happly, -⟩ | ⟨a, -, -, happly, -⟩
    all_goals
      rw [happly]
      exact ⟨List.prefix_rfl, List.prefix_rfl⟩
  · rw [hledger]
    exact ⟨List.prefix_rfl, List.prefix_rfl⟩
  · rw [htransfers, hentries]
    exact ⟨List.prefix_append _ _, List.prefix_append _ _⟩

/-- Where the journal has only grown, a transfer still has its two entries. -/
theorem pairs_of_prefix {l l' : Ledger} {opened opened' : List Account} (h : l.Balanced opened)
    (h' : l'.Balanced opened') (htransfers : l.transfers <+: l'.transfers)
    (hentries : l.entries <+: l'.entries) (ht : t ∈ l.transfers) :
    ∃ debit credit, l.entriesOf t.id = [debit, credit] ∧ l'.entriesOf t.id = [debit, credit] ∧
      debit.account = t.source ∧ debit.amount = -t.sourceAmount ∧
      credit.account = t.target ∧ credit.amount = t.amount := by
  obtain ⟨debit, credit, hpair, hdebit⟩ := (h.vouched t ht).entries
  obtain ⟨debit', credit', hpair', -⟩ := (h'.vouched t (htransfers.subset ht)).entries
  -- two entries at the head of two entries
  have hsame : l.entriesOf t.id = l'.entriesOf t.id := by
    have hgrown : l.entriesOf t.id <+: l'.entriesOf t.id := hentries.filter _
    refine hgrown.eq_of_length ?_
    rw [hpair, hpair']
    rfl
  exact ⟨debit, credit, hpair, hsame.symm.trans hpair, hdebit⟩

/-- What happens later only adds to the journal. -/
theorem journal_run (clock : Instant) (before later : List Event) :
    (((Floor.empty clock).run before).run later).stores.ledger.Continues
      ((Floor.empty clock).run before).stores.ledger := by
  obtain ⟨horderly, hbooked⟩ := run_induction clock (booked_empty clock)
    (fun f f' h _ hevolves hf => hf.evolves h hevolves) before
  -- what the first run has left is all that is used of it; the second starts from there
  generalize (Floor.empty clock).run before = f at horderly hbooked
  obtain ⟨horderly', hbooked', htransfers, hentries⟩ := horderly.run_induction
    (P := fun g => g.Booked ∧ f.stores.ledger.transfers <+: g.stores.ledger.transfers ∧
      f.stores.ledger.entries <+: g.stores.ledger.entries)
    ⟨hbooked, List.prefix_rfl, List.prefix_rfl⟩
    (fun g g' h _ hevolves hg => ⟨hg.1.evolves h hevolves, hg.2.1.trans hevolves.journal.1,
      hg.2.2.trans hevolves.journal.2⟩) later
  generalize f.run later = g at horderly' hbooked' htransfers hentries
  -- a number that is drawn next is above every committed one, and a buffered one is not among them
  have htransferNumbers := horderly'.numbered .transfers
  have hentryNumbers := horderly'.numbered .entries
  refine ⟨htransfers, hentries, htransferNumbers.transfers_nodup, hentryNumbers.entries_nodup,
    ?_, ?_, ?_, ?_, ?_⟩
  · intro t ht n source target amount sourceAmount rate now hid
    have hlt := htransferNumbers.committed_lt t.id.number (List.mem_map.mpr ⟨t, ht, rfl⟩)
    rw [← hid] at hlt
    exact absurd hlt (Int.lt_irrefl _)
  · intro e he n account transfer amount now hid
    have hlt := hentryNumbers.committed_lt e.id.number (List.mem_map.mpr ⟨e, he, rfl⟩)
    rw [← hid] at hlt
    exact absurd hlt (Int.lt_irrefl _)
  · intro u hu t ht hmem
    obtain ⟨t', ht', hid⟩ := List.mem_map.mp hmem
    refine htransferNumbers.not_buffered (horderly'.tidy.unit?_of_mem hu)
      (List.mem_map.mpr ⟨t, ht, rfl⟩) (List.mem_map.mpr ⟨t', ht', ?_⟩)
    rw [hid]
  · intro u hu e he hmem
    obtain ⟨e', he', hid⟩ := List.mem_map.mp hmem
    refine hentryNumbers.not_buffered (horderly'.tidy.unit?_of_mem hu)
      (List.mem_map.mpr ⟨e, he, rfl⟩) (List.mem_map.mpr ⟨e', he', ?_⟩)
    rw [hid]
  · intro t ht
    exact pairs_of_prefix (hbooked.balanced horderly) (hbooked'.balanced horderly') htransfers
      hentries ht

end Floor

end CountingHouse
