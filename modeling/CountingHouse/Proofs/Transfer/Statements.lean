/-
A statement reconciles with the entries and with the balance.

A statement is made of transfers: those that touch the account, in the order of their numbers,
each with what it says it did to the account. Balances move with entries. That the two agree is
due to how transfers come about: every transfer has a debit of its source and a credit of its
target, so the line of a transfer carries the amount of its entry on that account
(`signedAmount_eq_entry`), and the lines of an account add up to its entries (`sum_lines`).

Numbers are drawn before transfers are committed, so the journal is not in the order of the
numbers, but its numbers are different from each other, and sorting lists it.

The amount of a line is negated among the stored integers, where the least one stays as it is.
Orders do not get there, as long as their amounts can be stored at all (`Event.Stored`).
-/
import CountingHouse.Proofs.Ledger.Holders
import CountingHouse.Proofs.Ledger.Listings
import CountingHouse.Proofs.Transfer.Books

set_option autoImplicit false

namespace CountingHouse

open Attempt

/-! ## Lines -/

namespace Ledger

variable {l : Ledger} {row : AccountId} {t : Transfer}

/-- The transfers that touch an account, in the order of their numbers. -/
def transfersOn (l : Ledger) (row : AccountId) : List Transfer :=
  (l.transfers.filter fun t => t.touches row).mergeSort fun a b => a.id.number ≤ b.id.number

def linesOn (l : Ledger) (row : AccountId) : List StatementLine :=
  (l.transfersOn row).map (lineOn row)

/-- The transfers on an account are those of the journal that touch it. -/
theorem perm_transfersOn (l : Ledger) (row : AccountId) :
    (l.transfersOn row).Perm (l.transfers.filter fun t => t.touches row) :=
  List.mergeSort_perm _ _

/-- A transfer is on an account exactly if it is in the journal and touches the account. -/
theorem mem_transfersOn : t ∈ l.transfersOn row ↔ t ∈ l.transfers ∧ t.touches row = true := by
  rw [(l.perm_transfersOn row).mem_iff, List.mem_filter]

/-- The lines of an account show the transfers on it. -/
theorem transfer_linesOn (l : Ledger) (row : AccountId) :
    (l.linesOn row).map StatementLine.transfer = l.transfersOn row :=
  transfer_lineOn row _

/-- Different numbers in their order rise. -/
theorem ascending_linesOn (hnodup : (l.transfers.map Transfer.id).Nodup) (row : AccountId) :
    (l.linesOn row).Pairwise fun x y => x.transfer.id.number < y.transfer.id.number := by
  have hlisting := isListing_transfers hnodup fun t => t.touches row
  unfold linesOn
  rw [List.pairwise_map]
  exact hlisting.ascending

/-- What is asked of an account's statement: a page of its lines. -/
theorem statement_eq {s : Stores} {a : Account} (hsound : s.ledger.Sound)
    (ha : a ∈ s.ledger.accounts) (p : Page) :
    AccountDesk.statement .memory a.owner ⟨a.id, p, none, none⟩ s
      = (.ok (Page.select p.limit p.offset (s.ledger.linesOn a.id)), s) := by
  have hfound := hsound.account?_of_mem ha
  have hadmits : (TransferSelection.admits ⟨a.id, none, none, p.limit, p.offset⟩)
      = fun t => t.touches a.id := by
    funext t
    simp only [TransferSelection.admits, Option.all_none, Bool.and_true]
  have hselected : s.ledger.transfersOf ⟨a.id, none, none, p.limit, p.offset⟩
      = Page.select p.limit p.offset (s.ledger.transfersOn a.id) := by
    unfold transfersOf transfersOn
    rw [hadmits]
  -- each transfer of the page touches the account, so each of them becomes a line and none is lost
  have hlines : (Page.select p.limit p.offset (s.ledger.transfersOn a.id)).filterMap
        (StatementLine.of? a.id)
      = Page.select p.limit p.offset (s.ledger.linesOn a.id) := by
    have hall : ∀ t ∈ Page.select p.limit p.offset (s.ledger.transfersOn a.id),
        t.touches a.id = true := by
      intro t ht
      have hmem : t ∈ s.ledger.transfersOn a.id := List.mem_of_mem_drop (List.mem_of_mem_take ht)
      exact (mem_transfersOn.mp hmem).2
    rw [lines_of_touching hall]
    unfold Page.select linesOn
    rw [List.map_take, List.map_drop]
  rw [AccountDesk.statement_of_owner hfound rfl, hselected, hlines]

/-! ## Lines and entries -/

/-- Where the amount can be stored, its opposite can be, too. -/
theorem signedAmount?_eq (hpos : 1 ≤ t.sourceAmount) (hstored : IsStored t.sourceAmount)
    (row : AccountId) :
    t.signedAmount? row = if row = t.source then some (-t.sourceAmount)
      else if row = t.target then some t.amount else none := by
  have hbmod : (-t.sourceAmount).bmod (1 <<< 64) = -t.sourceAmount := by
    obtain ⟨-, hgreatest⟩ := hstored
    have hbound : t.sourceAmount ≤ 9223372036854775807 := hgreatest
    have hsize : (1 <<< 64 : Nat) = 18446744073709551616 := by decide
    rw [hsize]
    apply Int.bmod_eq_of_le
    · omega
    · omega
  unfold Transfer.signedAmount?
  rw [hbmod]

/-- The line of a transfer carries the amount of its entry on the account. -/
theorem signedAmount_eq_entry (h : l.Vouched t) (hstored : IsStored t.sourceAmount)
    (ht : t.touches row = true) :
    ∃ e, ((l.entriesOf t.id).filter fun e => e.account == row) = [e] ∧
      (lineOn row t).signedAmount = e.amount := by
  obtain ⟨debit, credit, hentries, hdebit, hdebited, hcredit, hcredited⟩ := h.entries
  have hsigned := signedAmount?_eq h.debit_pos hstored row
  unfold lineOn
  rw [hentries, hsigned]
  by_cases hsource : row = t.source
  · -- the account is debited
    have htarget : row ≠ t.target := by
      rw [hsource]
      exact h.distinct
    refine ⟨debit, ?_, ?_⟩
    · rw [List.filter_cons_of_pos (by simp only [hdebit, hsource, beq_self_eq_true]),
        List.filter_cons_of_neg (by simpa [hcredit] using htarget.symm), List.filter_nil]
    · rw [if_pos hsource, hdebited]
      rfl
  · have htarget : row = t.target := by
      unfold Transfer.touches at ht
      rcases (Bool.or_eq_true _ _).mp ht with hs | ht
      · exact absurd (beq_iff_eq.mp hs).symm hsource
      · exact (beq_iff_eq.mp ht).symm
    refine ⟨credit, ?_, ?_⟩
    · rw [List.filter_cons_of_neg (by simpa [hdebit] using Ne.symm hsource),
        List.filter_cons_of_pos (by simp only [hcredit, htarget, beq_self_eq_true]),
        List.filter_nil]
    · rw [if_neg hsource, if_pos htarget, hcredited]
      rfl

/-- The two entries of a receipt move on an account what the line of the transfer says. -/
theorem moved_receipt {r : TransferOrder} {p : Plan} {x : TransferReceipt}
    (h : Floor.Backs l x r p) (hstored : IsStored x.transfer.sourceAmount) (row : AccountId) :
    moved [x.sourceEntry, x.targetEntry] row
      = if x.transfer.touches row then (lineOn row x.transfer).signedAmount else 0 := by
  have hsuits := h.plan.suits
  have hmoved : moved [x.sourceEntry, x.targetEntry] row
      = (if p.source.id = row then -p.sourceAmount else 0)
        + (if p.target.id = row then p.amount else 0) := by
    rw [Floor.moved_cons, Floor.moved_cons, h.receipt.debit, h.receipt.credit]
    exact congrArg _ (Int.add_zero _)
  have hpos : 1 ≤ x.transfer.sourceAmount := by
    rw [h.receipt.transfer]
    exact hsuits.debit_pos
  unfold lineOn
  rw [hmoved, signedAmount?_eq hpos hstored]
  have hne := hsuits.distinct
  have hsource : x.transfer.source = p.source.id := by rw [h.receipt.transfer]
  have htarget : x.transfer.target = p.target.id := by rw [h.receipt.transfer]
  have hdebit : x.transfer.sourceAmount = p.sourceAmount := by rw [h.receipt.transfer]
  have hcredit : x.transfer.amount = p.amount := by rw [h.receipt.transfer]
  unfold Transfer.touches
  rw [hsource, htarget, hdebit, hcredit]
  -- the row is the source, the target, or neither
  by_cases hs : p.source.id = row
  · have ht : p.target.id ≠ row := by
      rw [← hs]
      exact hne.symm
    simp [hs, ht]
  · by_cases ht : p.target.id = row
    · simp [hs, ht, Ne.symm hs]
    · simp [hs, ht]

/-- The lines of an account add up to its entries. -/
theorem moved_receipts (row : AccountId) (receipts : List TransferReceipt)
    (hbacked : ∀ x ∈ receipts, ∃ r p, Floor.Backs l x r p)
    (hstored : ∀ x ∈ receipts, IsStored x.transfer.sourceAmount) :
    moved (receipts.flatMap fun x => [x.sourceEntry, x.targetEntry]) row
      = ((((receipts.map TransferReceipt.transfer).filter fun t => t.touches row).map
          (lineOn row)).map StatementLine.signedAmount).sum := by
  induction receipts with
  | nil => rfl
  | cons x receipts ih =>
    obtain ⟨r, p, hx⟩ := hbacked x List.mem_cons_self
    have hrest := ih (fun y hy => hbacked y (List.mem_cons_of_mem _ hy))
      fun y hy => hstored y (List.mem_cons_of_mem _ hy)
    rw [List.flatMap_cons, Floor.moved_append, hrest,
      moved_receipt hx (hstored x List.mem_cons_self),
      List.map_cons, List.filter_cons]
    by_cases ht : x.transfer.touches row = true
    · rw [if_pos ht, if_pos ht, List.map_cons, List.map_cons, List.sum_cons]
    · rw [if_neg ht, if_neg ht, Int.zero_add]

end Ledger

/-! ## What a statement is worth -/

/-- Whether a page of an account's statement, without dates, shows some lines to the owner. -/
def Stores.Shows (s : Stores) (a : Account) (p : Page) (lines : List StatementLine) : Prop :=
  AccountDesk.statement .memory a.owner ⟨a.id, p, none, none⟩ s = (.ok lines, s)

/-- The lines of an account that was opened with so much, and how they agree with the books. -/
structure Stores.Reconciles (s : Stores) (a : Account) (opening : Int)
    (lines : List StatementLine) : Prop where
  /-- Whoever turns the pages until one is empty has seen these lines. -/
  turned : ∀ size pages, Page.Turned size (s.Shows a) pages → pages.flatten = lines
  /-- There is an empty page, for every size that is allowed, unless there are so many lines that
  its offset cannot be stored. -/
  ends : ∀ size, Page.leastSize ≤ size → size ≤ Page.greatestSize →
    IsStored (lines.length + size) → ∃ pages, Page.Turned size (s.Shows a) pages
  /-- There is one line for each transfer that touches the account. -/
  complete : (lines.map StatementLine.transfer).Perm
    (s.ledger.transfers.filter fun t => t.touches a.id)
  ascending : lines.Pairwise fun x y => x.transfer.id.number < y.transfer.id.number
  /-- A line carries the amount of the entry that its transfer has on the account. -/
  signed : ∀ x ∈ lines, ∃ e,
    ((s.ledger.entriesOf x.transfer.id).filter fun e => e.account == a.id) = [e] ∧
      x.signedAmount = e.amount
  /-- The amounts of the lines make the balance out of what the account was opened with. -/
  balanced : (lines.map StatementLine.signedAmount).sum = a.balance - opening

/-! ## Amounts that can be stored -/

/-- Whether the amount of an order that is started fits a row. -/
def Event.Stored : Event → Prop
  | .start _ order => IsStored order.amount
  | _ => True

namespace Floor

variable {f f' : Floor} {i : Nat} {a : Pending}

/-- A floor on which all amounts that are debited can be stored. -/
structure Storable (f : Floor) : Prop where
  orders : ∀ i a, f.attempts i = some a → IsStored a.order.amount
  transfers : ∀ t ∈ f.stores.ledger.transfers, IsStored t.sourceAmount

/-- An attempt behind a replacement is the new one or an old one. -/
theorem attempts_setAttempt {j : Nat} {x : Option Pending}
    (h : (f.setAttempt j x).attempts i = some a) : x = some a ∨ f.attempts i = some a := by
  by_cases hi : i = j
  · exact .inl ((if_pos hi).symm.trans h)
  · exact .inr ((if_neg hi).symm.trans h)

/-- An attempt that has been moved on keeps its order, and the others are old ones. -/
theorem attempts_follow {j bound : Nat} {r : TransferOrder} {outcome : Option (Outcome bound)}
    (h : (f.follow j r outcome).attempts i = some a) : a.order = r ∨ f.attempts i = some a := by
  unfold follow at h
  split at h
  · exact .inr h
  · rcases attempts_setAttempt h with hnew | hold
    · exact .inl (by rw [← Option.some.inj hnew])
    · exact .inr hold
  · rcases attempts_setAttempt h with hnew | hold
    · cases hnew
    · exact .inr hold

/-- An attempt keeps its order, and a new one has the order with which it was started. -/
theorem order_step (e : Event) (ha : (f.step e).attempts i = some a) :
    (∃ j b, f.attempts j = some b ∧ b.order = a.order) ∨ ∃ j, e = .start j a.order := by
  have hold : ∀ {g : Floor}, g.attempts = f.attempts → g.attempts i = some a →
      ∃ j b, f.attempts j = some b ∧ b.order = a.order := by
    intro g hg hi
    exact ⟨i, a, (congrFun hg i).symm.trans hi, rfl⟩
  rcases f.step_eq_or_enabled e with hidle | henabled
  · rw [hidle] at ha
    exact .inl (hold rfl ha)
  · cases henabled with
    | setClock now => exact .inl (hold rfl ha)
    | opening request => exact .inl (hold rfl ha)
    | rateChange request => exact .inl (hold rfl ha)
    | scheduleFault fault => exact .inl (hold rfl ha)
    | @start j r hfree hr =>
      rw [step_start_eq hfree hr] at ha
      rcases attempts_setAttempt ha with hnew | hi
      · obtain rfl := Option.some.inj hnew
        exact .inr ⟨j, rfl⟩
      · exact .inl (hold rfl hi)
    | @advance j b hj =>
      rw [step_advance_eq hj] at ha
      rcases attempts_follow ha with horder | hi
      · exact .inl ⟨j, b, hj, horder.symm⟩
      · exact .inl (hold rfl hi)
    | @giveUp j b n row hj hrequest =>
      -- the attempt goes on to its rollback, with the order it had
      rw [step_giveUp_eq hj hrequest] at ha
      rcases attempts_setAttempt ha with hnew | hi
      · obtain rfl := Option.some.inj hnew
        exact .inl ⟨j, b, hj, rfl⟩
      · exact .inl (hold rfl hi)
    | @abandon j b hj =>
      rcases hunit : b.stage.unit? with _ | n
      · rw [step_abandon_eq hj hunit] at ha
        exact .inl (hold rfl ((attempts_setAttempt ha).resolve_left nofun))
      · rw [step_abandon_eq_drop hj hunit] at ha
        exact .inl (hold rfl ((attempts_setAttempt ha).resolve_left nofun))

/-- What is debited in the end is the amount of an order. -/
theorem Storable.evolves (h : f.Storable) (hevolves : f.Evolves f') {t : Transfer}
    (ht : t ∈ f'.stores.ledger.transfers) : IsStored t.sourceAmount := by
  -- only a completed attempt adds a transfer
  rcases hevolves with ⟨⟨-, htransfers, -⟩, -, -, -, -⟩ | ⟨request, now, hledger, -, -, -⟩ |
    ⟨request, now, hledger, -, -, -⟩ |
    ⟨hi, hp, hreceipt, -, ⟨-, htransfers, -⟩, -, -, -, -⟩
  · rw [htransfers] at ht
    exact h.transfers t ht
  · rw [hledger] at ht
    rcases request.apply_congr now (l := f.stores.ledger) rfl (fun _ _ => rfl) with
      ⟨e, happly, -⟩ | ⟨b, -, -, happly, -⟩
    all_goals
      rw [happly] at ht
      exact h.transfers t ht
  · rw [hledger] at ht
    exact h.transfers t ht
  · rw [htransfers] at ht
    rcases List.mem_append.mp ht with hold | hnew
    · exact h.transfers t hold
    · -- the amount taken is the amount that was asked for
      have horder := h.orders _ _ hi
      rw [List.mem_singleton.mp hnew, hreceipt.transfer]
      rw [← hp.suits.debited] at horder
      exact horder

/-- No event brings an amount that cannot be stored: an order keeps its amount for as long as it is
attempted, and a receipt has the amount of its order. -/
theorem storable_step (h : f.Storable) (horderly : f.Orderly) {e : Event} (he : e.Stored) :
    (f.step e).Storable := by
  constructor
  · intro i a ha
    rcases order_step e ha with ⟨j, b, hb, horder⟩ | ⟨j, rfl⟩
    · rw [← horder]
      exact h.orders j b hb
    · exact he
  · intro t ht
    exact h.evolves (step_orderly horderly e).2 ht

/-- If all amounts of orders can be stored, then so can those in the books and in the attempts under
way. -/
theorem storable_run (clock : Instant) (events : List Event) (hstored : ∀ e ∈ events, e.Stored) :
    ((Floor.empty clock).run events).Storable := by
  have hrun : ∀ f : Floor, f.Orderly → f.Storable → (f.run events).Storable := by
    induction events with
    | nil => exact fun _ _ h => h
    | cons e events ih =>
      intro f horderly h
      have hfirst := storable_step h horderly (hstored e List.mem_cons_self)
      exact ih (fun e' he' => hstored e' (List.mem_cons_of_mem _ he')) _
        (step_orderly horderly e).1 hfirst
  refine hrun _ (orderly_empty clock) ⟨?_, ?_⟩
  · rintro i a ⟨⟩
  · intro t ht
    exact absurd ht List.not_mem_nil

/-! ## Every statement -/

/-- The lines of an account, against the books. -/
theorem reconciles_of_booked (horderly : f.Orderly) (hbooked : f.Booked) (hstorable : f.Storable)
    {a : Account} (ha : a ∈ f.stores.ledger.accounts) :
    ∃ o ∈ f.opened, o.particulars = a.particulars ∧
      f.stores.Reconciles a o.balance (f.stores.ledger.linesOn a.id) := by
  have hbalanced := hbooked.balanced horderly
  have hshows : ∀ p lines, f.stores.Shows a p lines ↔
      lines = Page.select p.limit p.offset (f.stores.ledger.linesOn a.id) := by
    intro p lines
    unfold Stores.Shows
    rw [Ledger.statement_eq horderly.sound ha p]
    constructor
    · intro h
      exact (Except.ok.inj (congrArg Prod.fst h)).symm
    · rintro rfl
      rfl
  have hsum : ((f.stores.ledger.linesOn a.id).map StatementLine.signedAmount).sum
      = moved f.stores.ledger.entries a.id := by
    have hreceipts : ∀ x ∈ f.receipts, IsStored x.transfer.sourceAmount := by
      intro x hx
      refine hstorable.transfers x.transfer ?_
      rw [hbooked.transfers]
      exact List.mem_map_of_mem hx
    rw [hbooked.entries, Ledger.moved_receipts a.id f.receipts hbooked.backed hreceipts,
      ← hbooked.transfers]
    exact ((f.stores.ledger.perm_transfersOn a.id).map _ |>.map _).sum_eq
  -- the account as it was opened
  rw [hbalanced.balances] at ha
  obtain ⟨o, ho, hoa⟩ := List.mem_map.mp ha
  have hparticulars : o.particulars = a.particulars := by
    rw [← hoa]
    rfl
  have hbalance : a.balance = o.balance + moved f.stores.ledger.entries a.id := by
    rw [← hoa]
  refine ⟨o, ho, hparticulars, ?_, ?_, ?_, ?_, ?_, ?_⟩
  · intro size pages h
    exact h.flatten_eq fun number p shown _ hshown => (hshows p shown).mp hshown
  · intro size hleast hgreatest hroom
    exact Page.exists_turned hleast hgreatest hroom fun number p _ => (hshows p _).mpr rfl
  · rw [Ledger.transfer_linesOn]
    exact f.stores.ledger.perm_transfersOn a.id
  · exact Ledger.ascending_linesOn hbalanced.numbered a.id
  · intro x hx
    obtain ⟨t, ht, rfl⟩ := List.mem_map.mp hx
    obtain ⟨hmem, htouches⟩ := Ledger.mem_transfersOn.mp ht
    exact Ledger.signedAmount_eq_entry (hbalanced.vouched t hmem) (hstorable.transfers t hmem)
      htouches
  · rw [hsum, hbalance]
    omega

/-- Whatever happens, statements reconcile with the entries and the balances. -/
theorem reconciled_run (clock : Instant) (events : List Event)
    (hstored : ∀ e ∈ events, e.Stored) :
    ∀ a ∈ ((Floor.empty clock).run events).stores.ledger.accounts,
      ∃ o ∈ ((Floor.empty clock).run events).opened, o.particulars = a.particulars ∧
        ∃ lines, ((Floor.empty clock).run events).stores.Reconciles a o.balance lines := by
  obtain ⟨horderly, hbooked⟩ := run_induction clock (booked_empty clock)
    (fun f f' h _ hevolves hf => hf.evolves h hevolves) events
  have hstorable := storable_run clock events hstored
  intro a ha
  obtain ⟨o, ho, hparticulars, hreconciles⟩ :=
    reconciles_of_booked horderly hbooked hstorable ha
  exact ⟨o, ho, hparticulars, _, hreconciles⟩

/-- A transfer of seven out of ten is one line of the statement. -/
theorem reconciled_after_transfer :
    let events : List Event := [.opening (.funded "ann" .usd 10), .opening (.empty "bob" .usd),
      .start 0 ⟨⟨1⟩, ⟨2⟩, 7, .usd, "ann"⟩] ++ List.replicate 10 (.advance 0)
    let f := (Floor.empty default).run events
    (∀ e ∈ events, e.Stored) ∧ ⟨⟨1⟩, "ann", 3, .usd, default⟩ ∈ f.stores.ledger.accounts ∧
      ∃ opening lines, f.stores.Reconciles ⟨⟨1⟩, "ann", 3, .usd, default⟩ opening lines ∧
        lines.length = 1 := by
  intro events f
  have hstored : ∀ e ∈ events, e.Stored := by
    intro e he
    simp only [events, List.mem_append, List.mem_cons, List.not_mem_nil, or_false,
      List.mem_replicate] at he
    rcases he with (rfl | rfl | rfl) | ⟨-, rfl⟩
    · exact trivial
    · exact trivial
    · exact ⟨by decide, by decide⟩
    · exact trivial
  have ha : ⟨⟨1⟩, "ann", 3, .usd, default⟩ ∈ f.stores.ledger.accounts := List.mem_cons_self
  obtain ⟨o, -, -, lines, h⟩ := reconciled_run default events hstored _ ha
  -- as many lines as transfers on the account, and one was committed
  have hlength := h.complete.length_eq
  rw [List.length_map] at hlength
  exact ⟨hstored, ha, o.balance, lines, h, hlength⟩

end Floor

end CountingHouse
