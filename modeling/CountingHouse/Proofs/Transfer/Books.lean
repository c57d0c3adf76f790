/-
The books are always in order.

`Balanced` is what an auditor would check who knows only the ledger and with how much each
account was opened: the transfers join accounts that exist, each of them owns one debit and
one credit and there are no other entries, every balance is what the account was opened with
plus its entries, and there is as much money in every currency as there was, except for what
was exchanged.

The proof keeps the history next to the books (`Booked`). The journal is the list of the
receipts in the history, two entries for each, and a commit adds one receipt to both. That the
balances agree with the entries rests on one fact about a commit: the rows that a plan
replaces are still the rows on which it was made, so replacing them by constants is the same
as adding the two entries (`rowAfter_eq`).
-/
import CountingHouse.Proofs.Ledger.Numbers
import CountingHouse.Proofs.Transfer.Orderly

set_option autoImplicit false

namespace CountingHouse

open Attempt

/-! ## What an auditor checks -/

def moved (entries : List Entry) (account : AccountId) : Int :=
  ((entries.filter fun e => e.account == account).map Entry.amount).sum

/-- A transfer that is in order: what it joins, how it is priced, and its two entries. -/
structure Ledger.Vouched (l : Ledger) (t : Transfer) : Prop where
  distinct : t.source ≠ t.target
  debit_pos : 1 ≤ t.sourceAmount
  credit_pos : 1 ≤ t.amount
  joins : ∃ source target, l.account? t.source = some source ∧
    l.account? t.target = some target ∧
    (t.exchangeRate = none ↔ source.currency = target.currency)
  unpriced : t.exchangeRate = none → t.amount = t.sourceAmount
  priced : ∀ rate, t.exchangeRate = some rate → rate.isPositive = true ∧
    ∀ row : ExchangeRate, row.rate = rate →
      convert t.sourceAmount row = .ok ⟨t.sourceAmount, t.amount, rate⟩
  entries : ∃ debit credit, l.entriesOf t.id = [debit, credit] ∧
    debit.account = t.source ∧ debit.amount = -t.sourceAmount ∧
    credit.account = t.target ∧ credit.amount = t.amount

/-- How much money of a currency there is in some accounts. -/
def total (accounts : List Account) (currency : Currency) : Int :=
  ((accounts.filter fun a => a.currency == currency).map Account.balance).sum

def Ledger.isIn (l : Ledger) (currency : Currency) (row : AccountId) : Bool :=
  (l.account? row).any fun a => a.currency == currency

/-- What an entry brings into a currency. -/
def Ledger.share (l : Ledger) (currency : Currency) (e : Entry) : Int :=
  if l.isIn currency e.account then e.amount else 0

/-- What a transfer brings into a currency, less what it takes out of it. -/
def Ledger.gain (l : Ledger) (currency : Currency) (t : Transfer) : Int :=
  (if l.isIn currency t.target then t.amount else 0)
    - (if l.isIn currency t.source then t.sourceAmount else 0)

/-- What the transfers that were exchanged bring into a currency. -/
def Ledger.exchanged (l : Ledger) (currency : Currency) : Int :=
  ((l.transfers.filter fun t => t.exchangeRate.isSome).map (l.gain currency)).sum

/-- Books that are in order, of accounts that were opened like this. -/
structure Ledger.Balanced (l : Ledger) (opened : List Account) : Prop where
  funded : ∀ a ∈ l.accounts, 0 ≤ a.balance
  numbered : (l.transfers.map Transfer.id).Nodup
  vouched : ∀ t ∈ l.transfers, l.Vouched t
  owned : ∀ e ∈ l.entries, ∃ t ∈ l.transfers, t.id = e.transfer
  balances : l.accounts = opened.map fun a => { a with balance := a.balance + moved l.entries a.id }
  conserved : ∀ currency, total l.accounts currency = total opened currency + l.exchanged currency

/-! ## Books and history -/

def Deed.receipt? : Deed → Option TransferReceipt
  | transfer _ receipt => some receipt
  | opening .. | rateChange .. => none

def Deed.opened? : Deed → Option Account
  | opening _ _ (.ok account) => some account
  | opening _ _ (.error _) | rateChange .. | transfer .. => none

namespace Floor

/-- The receipts of all transfers, in the order of their commits. -/
def receipts (f : Floor) : List TransferReceipt := f.history.filterMap Deed.receipt?

/-- The accounts as they were opened. -/
def opened (f : Floor) : List Account := f.history.filterMap Deed.opened?

/-- A receipt of a plan for an order, between two accounts of the ledger. -/
structure Backs (l : Ledger) (x : TransferReceipt) (r : TransferOrder) (p : Plan) : Prop where
  plan : p.Sealed r
  receipt : p.Receipts x
  source : ∃ a, l.account? p.source.id = some a ∧ a.currency = p.source.currency
  target : ∃ a, l.account? p.target.id = some a ∧ a.currency = p.target.currency

/-- The books as they follow from the history. -/
structure Booked (f : Floor) : Prop where
  transfers : f.stores.ledger.transfers = f.receipts.map TransferReceipt.transfer
  entries : f.stores.ledger.entries
    = f.receipts.flatMap fun x => [x.sourceEntry, x.targetEntry]
  accounts : f.stores.ledger.accounts
    = f.opened.map fun a => { a with balance := a.balance + moved f.stores.ledger.entries a.id }
  backed : ∀ x ∈ f.receipts, ∃ r p, Backs f.stores.ledger x r p

variable {f f' : Floor} {p : Plan} {r : TransferOrder} {x : TransferReceipt} {l l' : Ledger}

/-! ## Entries and balances -/

/-- What some entries move is what their parts move. -/
theorem moved_append (before later : List Entry) (account : AccountId) :
    moved (before ++ later) account = moved before account + moved later account := by
  unfold moved
  rw [List.filter_append, List.map_append, List.sum_append]

/-- An entry moves its amount on its own account, and nothing on another. -/
theorem moved_cons (e : Entry) (entries : List Entry) (account : AccountId) :
    moved (e :: entries) account
      = (if e.account = account then e.amount else 0) + moved entries account := by
  unfold moved
  by_cases h : e.account = account
  · rw [List.filter_cons_of_pos (by simpa using h), if_pos h, List.map_cons, List.sum_cons]
  · rw [List.filter_cons_of_neg (by simpa using h), if_neg h, Int.zero_add]

/-- Entries of other accounts move nothing. -/
theorem moved_eq_zero {entries : List Entry} {account : AccountId}
    (h : ∀ e ∈ entries, e.account ≠ account) : moved entries account = 0 := by
  induction entries with
  | nil => rfl
  | cons e entries ih =>
    rw [moved_cons, if_neg (h e List.mem_cons_self),
      ih fun e' he' => h e' (List.mem_cons_of_mem _ he')]
    rfl

/-- Replacing the rows of a plan is the same as adding its entries. -/
theorem rowAfter_eq (hp : p.Sealed r) (hreceipt : p.Receipts x) (hcurrent : p.Current l)
    (hsound : l.Sound) {a : Account} (ha : a ∈ l.accounts) :
    p.rowAfter a
      = { a with balance := a.balance + moved [x.sourceEntry, x.targetEntry] a.id } := by
  have hmoved : moved [x.sourceEntry, x.targetEntry] a.id
      = (if p.source.id = a.id then -p.sourceAmount else 0)
        + (if p.target.id = a.id then p.amount else 0) := by
    rw [moved_cons, moved_cons, hreceipt.debit, hreceipt.credit]
    exact congrArg _ (Int.add_zero _)
  rw [hmoved]
  rcases hcurrent.rowAfter_cases hp.suits (hsound.account?_of_mem ha) with
    ⟨rfl, hrow⟩ | ⟨rfl, hrow⟩ | ⟨hs, ht, hrow⟩
  · rw [hrow, if_pos rfl, if_neg hp.suits.distinct.symm, Int.add_zero, Int.sub_eq_add_neg]
  · rw [hrow, if_neg hp.suits.distinct, if_pos rfl, Int.zero_add]
  · rw [hrow, if_neg (Ne.symm hs), if_neg (Ne.symm ht), Int.add_zero, Int.add_zero]

/-! ## The history of a floor -/

/-- New deeds bring their receipts, behind the old ones. -/
theorem receipts_append {deeds : List Deed} (h : f'.history = f.history ++ deeds) :
    f'.receipts = f.receipts ++ deeds.filterMap Deed.receipt? := by
  unfold receipts
  rw [h, List.filterMap_append]

/-- New deeds bring the accounts that they open, behind the old ones. -/
theorem opened_append {deeds : List Deed} (h : f'.history = f.history ++ deeds) :
    f'.opened = f.opened ++ deeds.filterMap Deed.opened? := by
  unfold opened
  rw [h, List.filterMap_append]

/-- Books that are not touched stay as they follow from the history. -/
theorem Booked.of_same (h : f.Booked) (hbooks : f'.stores.ledger.SameBooks f.stores.ledger)
    (hreceipts : f'.receipts = f.receipts) (hopened : f'.opened = f.opened) : f'.Booked := by
  have haccount : ∀ row, f'.stores.ledger.account? row = f.stores.ledger.account? row :=
    hbooks.reads.1
  obtain ⟨haccounts, htransfers, hentries⟩ := hbooks
  refine ⟨?_, ?_, ?_, ?_⟩
  · rw [htransfers, hreceipts]
    exact h.transfers
  · rw [hentries, hreceipts]
    exact h.entries
  · rw [haccounts, hentries, hopened]
    exact h.accounts
  · rw [hreceipts]
    intro x hx
    obtain ⟨r, p, hplan, hreceipt, ⟨a, ha, hac⟩, b, hb, hbc⟩ := h.backed x hx
    refine ⟨r, p, hplan, hreceipt, ⟨a, ?_, hac⟩, b, ?_, hbc⟩
    · rw [haccount]
      exact ha
    · rw [haccount]
      exact hb

/-- No entry belongs to an account that is yet to be opened. -/
theorem Booked.moved_next (h : f.Booked) (hsound : f.stores.ledger.Sound) :
    moved f.stores.ledger.entries ⟨f.stores.ledger.nextAccount⟩ = 0 := by
  refine moved_eq_zero ?_
  intro e he heq
  rw [h.entries] at he
  obtain ⟨x, hx, hentry⟩ := List.mem_flatMap.mp he
  obtain ⟨r, p, -, hreceipt, ⟨a, ha, -⟩, b, hb, -⟩ := h.backed x hx
  -- the accounts of a receipt exist, so their numbers have been used up
  have hold : ∀ {row : AccountId} {c : Account}, f.stores.ledger.account? row = some c →
      row ≠ ⟨f.stores.ledger.nextAccount⟩ := by
    intro row c hc hrow
    obtain ⟨hmem, hid⟩ := Ledger.account?_spec hc
    have hlt := hsound.account_lt c hmem
    rw [hid, hrow] at hlt
    exact absurd hlt (Int.lt_irrefl _)
  rcases List.mem_cons.mp hentry with rfl | hentry
  · rw [hreceipt.debit] at heq
    exact hold ha heq
  · rw [List.mem_singleton.mp hentry, hreceipt.credit] at heq
    exact hold hb heq

/-- A receipt is backed still when an account has been added. -/
theorem Backs.addRow (h : Backs l x r p) (a : Account) : Backs (l.addRow a) x r p := by
  obtain ⟨hplan, hreceipt, ⟨b, hb, hbc⟩, c, hc, hcc⟩ := h
  exact ⟨hplan, hreceipt, ⟨b, Ledger.account?_addRow a hb, hbc⟩,
    c, Ledger.account?_addRow a hc, hcc⟩

/-- A new account starts with what it is opened with, for it has no entries yet. -/
theorem Booked.opens (h : f.Booked) (hsound : f.stores.ledger.Sound) {a : Account}
    (hid : a.id = ⟨f.stores.ledger.nextAccount⟩)
    (hledger : f'.stores.ledger = f.stores.ledger.addRow a)
    (hreceipts : f'.receipts = f.receipts) (hopened : f'.opened = f.opened ++ [a]) :
    f'.Booked := by
  have hentries : f'.stores.ledger.entries = f.stores.ledger.entries := by
    rw [hledger]
    rfl
  refine ⟨?_, ?_, ?_, ?_⟩
  · rw [hledger, hreceipts]
    exact h.transfers
  · rw [hentries, hreceipts]
    exact h.entries
  · -- the new row's identifier has not been drawn before, so no entry is on it and its balance is
    -- the opening one
    have hnew : ({ a with balance := a.balance + moved f.stores.ledger.entries a.id } : Account)
        = a := by
      rw [hid, h.moved_next hsound, Int.add_zero, ← hid]
    have haccounts : f'.stores.ledger.accounts = f.stores.ledger.accounts ++ [a] := by
      rw [hledger]
      rfl
    rw [haccounts, hentries, hopened, List.map_append, ← h.accounts, List.map_singleton, hnew]
  · rw [hreceipts, hledger]
    intro y hy
    obtain ⟨r, p, hbacks⟩ := h.backed y hy
    exact ⟨r, p, hbacks.addRow a⟩

/-- A receipt is backed still when another plan is settled, for a plan changes balances and never
currencies. -/
theorem Backs.settle (h : Backs l x r p) {q : Plan} (hq : q.Current l)
    (haccounts : l'.accounts = q.settle l.accounts) : Backs l' x r p := by
  have hcurrency : ∀ {row : AccountId} {a : Account}, l.account? row = some a →
      ∃ b, l'.account? row = some b ∧ b.currency = a.currency := by
    intro row a ha
    refine ⟨q.rowAfter a, ?_, ?_⟩
    · rw [q.account?_settle haccounts, ha, Option.map_some]
    · rw [hq.rowAfter_eq (Ledger.account?_id ha)]
  obtain ⟨hplan, hreceipt, ⟨a, ha, hac⟩, b, hb, hbc⟩ := h
  obtain ⟨a', ha', hac'⟩ := hcurrency ha
  obtain ⟨b', hb', hbc'⟩ := hcurrency hb
  exact ⟨hplan, hreceipt, ⟨a', ha', hac'.trans hac⟩, b', hb', hbc'.trans hbc⟩

/-- The rows that a plan leaves are those of before with the two entries of its receipt added. -/
theorem settle_eq (hp : p.Sealed r) (hreceipt : p.Receipts x) (hcurrent : p.Current l)
    (hsound : l.Sound) : p.settle l.accounts
      = l.accounts.map fun a =>
        { a with balance := a.balance + moved [x.sourceEntry, x.targetEntry] a.id } :=
  List.map_congr_left fun _ ha => rowAfter_eq hp hreceipt hcurrent hsound ha

/-- A commit brings one receipt into the history, and into the books its transfer, its two entries
and their effect on two balances. -/
theorem Booked.posts (h : f.Booked) (hsound : f.stores.ledger.Sound) (hp : p.Sealed r)
    (hreceipt : p.Receipts x) (hcurrent : p.Current f.stores.ledger)
    (hbooks : f'.stores.ledger.SameBooks (p.post x f.stores.ledger))
    (hreceipts : f'.receipts = f.receipts ++ [x]) (hopened : f'.opened = f.opened) :
    f'.Booked := by
  obtain ⟨haccounts, htransfers, hentries⟩ := hbooks
  refine ⟨?_, ?_, ?_, ?_⟩
  · rw [htransfers, hreceipts, List.map_append, ← h.transfers]
    rfl
  · rw [hentries, hreceipts, List.flatMap_append, ← h.entries]
    rfl
  · -- an account has moved by its old entries and by those of the receipt
    have hsum : ∀ account, moved (p.post x f.stores.ledger).entries account
        = moved f.stores.ledger.entries account + moved [x.sourceEntry, x.targetEntry] account :=
      moved_append _ _
    have hsettled : f'.stores.ledger.accounts = _ :=
      haccounts.trans (settle_eq hp hreceipt hcurrent hsound)
    rw [hsettled, hopened, hentries, h.accounts, List.map_map]
    refine List.map_congr_left fun a _ => ?_
    rw [hsum, ← Int.add_assoc]
    rfl
  · -- the plan of the new receipt is current, so both of its accounts are there
    rw [hreceipts]
    intro y hy
    rcases List.mem_append.mp hy with hold | hnew
    · obtain ⟨q, qp, hbacks⟩ := h.backed y hold
      exact ⟨q, qp, hbacks.settle hcurrent haccounts⟩
    · obtain rfl := List.mem_singleton.mp hnew
      have hbacks : Backs f.stores.ledger y r p :=
        ⟨hp, hreceipt, ⟨_, hcurrent.source, rfl⟩, _, hcurrent.target, rfl⟩
      exact ⟨r, p, hbacks.settle hcurrent haccounts⟩

/-- What an event does keeps the books in step with the history. -/
theorem Booked.evolves (h : f.Booked) (horderly : f.Orderly) (hevolves : f.Evolves f') :
    f'.Booked := by
  rcases hevolves with ⟨hbooks, -, -, hhistory, -⟩ | ⟨request, now, hledger, -, -, hhistory⟩ |
    ⟨request, now, hledger, -, -, hhistory⟩ |
    ⟨-, hp, hreceipt, hcurrent, hbooks, -, -, -, hhistory⟩
  · refine h.of_same hbooks ?_ ?_
    · rw [receipts, hhistory, ← receipts]
    · rw [opened, hhistory, ← opened]
  · have hreceipts := receipts_append hhistory
    have hopened := opened_append hhistory
    rcases request.apply_congr now (l := f.stores.ledger) rfl (fun _ _ => rfl) with
      ⟨e, happly, -⟩ | ⟨a, hid, -, happly, -⟩
    · -- nothing was opened
      rw [happly] at hledger hreceipts hopened
      refine h.of_same ?_ ?_ ?_
      · rw [hledger]
        exact ⟨rfl, rfl, rfl⟩
      · rw [hreceipts]
        exact List.append_nil _
      · rw [hopened]
        exact List.append_nil _
    · rw [happly] at hledger hreceipts hopened
      exact h.opens horderly.sound hid hledger (hreceipts.trans (List.append_nil _)) hopened
  · refine h.of_same ?_ ?_ ?_
    · rw [hledger]
      exact ⟨rfl, rfl, rfl⟩
    · rw [receipts_append hhistory]
      exact List.append_nil _
    · rw [opened_append hhistory]
      exact List.append_nil _
  · exact h.posts horderly.sound hp hreceipt hcurrent hbooks (receipts_append hhistory)
      ((opened_append hhistory).trans (List.append_nil _))

/-- On an empty floor neither books nor history hold anything. -/
theorem booked_empty (clock : Instant) : (Floor.empty clock).Booked where
  transfers := rfl
  entries := rfl
  accounts := rfl
  backed := by intro x hx; exact absurd hx List.not_mem_nil

/-! ## Transfers and their entries -/

/-- Among receipts with different numbers, the entries of one transfer are its two. -/
theorem filter_entries (receipts : List TransferReceipt)
    (hnodup : (receipts.map fun x => x.transfer.id).Nodup)
    (howned : ∀ x ∈ receipts, x.sourceEntry.transfer = x.transfer.id ∧
      x.targetEntry.transfer = x.transfer.id) (hx : x ∈ receipts) :
    (receipts.flatMap fun y => [y.sourceEntry, y.targetEntry]).filter
        (fun e => e.transfer == x.transfer.id)
      = [x.sourceEntry, x.targetEntry] := by
  induction receipts with
  | nil => exact absurd hx List.not_mem_nil
  | cons y receipts ih =>
    obtain ⟨hfresh, hnodup⟩ := List.nodup_cons.mp hnodup
    obtain ⟨hdebit, hcredit⟩ := howned y List.mem_cons_self
    have hrest := ih hnodup fun z hz => howned z (List.mem_cons_of_mem _ hz)
    have hpair : [y.sourceEntry, y.targetEntry].filter (fun e => e.transfer == x.transfer.id)
        = if y.transfer.id = x.transfer.id then [y.sourceEntry, y.targetEntry] else [] := by
      by_cases hid : y.transfer.id = x.transfer.id
      · simp [hdebit, hcredit, hid]
      · simp [hdebit, hcredit, hid]
    rw [List.flatMap_cons, List.filter_append, hpair]
    rcases List.mem_cons.mp hx with rfl | hx
    · -- nothing of this transfer is found further down
      have hnone : (receipts.flatMap fun z => [z.sourceEntry, z.targetEntry]).filter
          (fun e => e.transfer == x.transfer.id) = [] := by
        rw [List.filter_eq_nil_iff]
        intro e he
        obtain ⟨z, hz, hentry⟩ := List.mem_flatMap.mp he
        obtain ⟨hzd, hzc⟩ := howned z (List.mem_cons_of_mem _ hz)
        have hne : z.transfer.id ≠ x.transfer.id := by
          intro heq
          exact hfresh (List.mem_map.mpr ⟨z, hz, heq⟩)
        rcases List.mem_cons.mp hentry with rfl | hentry
        · simpa [hzd] using hne
        · rw [List.mem_singleton.mp hentry]
          simpa [hzc] using hne
      rw [if_pos rfl, hnone, List.append_nil]
    · have hne : y.transfer.id ≠ x.transfer.id := by
        intro heq
        exact hfresh (List.mem_map.mpr ⟨x, hx, heq.symm⟩)
      rw [if_neg hne, List.nil_append]
      exact hrest hx

/-- Both entries of a receipt belong to its transfer. -/
theorem Backs.entries_owned (h : Backs l x r p) :
    x.sourceEntry.transfer = x.transfer.id ∧ x.targetEntry.transfer = x.transfer.id := by
  constructor
  · rw [h.receipt.debit]
  · rw [h.receipt.credit]

/-- The transfer of a receipt is in order. -/
theorem Backs.vouched (h : Backs l x r p)
    (hentries : l.entriesOf x.transfer.id = [x.sourceEntry, x.targetEntry]) :
    l.Vouched x.transfer := by
  obtain ⟨⟨hsuits, -, hpositive⟩, hreceipt, ⟨a, ha, hac⟩, b, hb, hbc⟩ := h
  have hsource : x.transfer.source = p.source.id := by rw [hreceipt.transfer]
  have htarget : x.transfer.target = p.target.id := by rw [hreceipt.transfer]
  have hdebit : x.transfer.sourceAmount = p.sourceAmount := by rw [hreceipt.transfer]
  have hcredit : x.transfer.amount = p.amount := by rw [hreceipt.transfer]
  have hrate : x.transfer.exchangeRate = p.exchangeRate := by rw [hreceipt.transfer]
  have hpriced := hsuits.priced
  -- the clauses about the transfer come from the plan that suits the order, those about the entries
  -- from the receipt
  refine ⟨?_, ?_, ?_, ?_, ?_, ?_, x.sourceEntry, x.targetEntry, hentries, ?_, ?_, ?_, ?_⟩
  · rw [hsource, htarget]
    exact hsuits.distinct
  · rw [hdebit]
    exact hsuits.debit_pos
  · rw [hcredit]
    exact hsuits.credit_pos
  · rw [hsource, htarget, hrate]
    refine ⟨a, b, ha, hb, ?_⟩
    rw [hac, hbc]
    rcases hexchange : p.exchangeRate with _ | rate
    · rw [hexchange] at hpriced
      exact ⟨fun _ => hpriced.1, fun _ => rfl⟩
    · rw [hexchange] at hpriced
      refine ⟨fun hnone => ?_, fun heq => absurd heq hpriced.1⟩
      cases hnone
  · rw [hrate, hcredit, hdebit]
    intro hnone
    rw [hnone] at hpriced
    exact hpriced.2
  · rw [hrate, hcredit, hdebit]
    intro rate hsome
    rw [hsome] at hpriced
    exact ⟨hpositive rate hsome, hpriced.2⟩
  · rw [hreceipt.debit, hsource]
  · rw [hreceipt.debit, hdebit]
  · rw [hreceipt.credit, htarget]
  · rw [hreceipt.credit, hcredit]

/-! ## The money of a currency -/

/-- Among rows with different keys, an amount for one key is counted once, if that row is one
of those that count. -/
theorem sum_of_key {rows : List Account} (hrows : (rows.map Account.id).Nodup)
    (currency : Currency) (row : AccountId) (amount : Int) :
    ((rows.filter fun a => a.currency == currency).map fun a =>
        if row = a.id then amount else 0).sum
      = if (rows.find? fun a => a.id == row).any fun a => a.currency == currency then amount
        else 0 := by
  induction rows with
  | nil => rfl
  | cons a rows ih =>
    obtain ⟨hfresh, hrest⟩ := List.nodup_cons.mp hrows
    have hstep : (((a :: rows).filter fun a => a.currency == currency).map fun a =>
          if row = a.id then amount else 0).sum
        = (if a.currency = currency then if row = a.id then amount else 0 else 0)
          + ((rows.filter fun a => a.currency == currency).map fun a =>
            if row = a.id then amount else 0).sum := by
      by_cases hc : a.currency = currency
      · rw [List.filter_cons_of_pos (by simpa using hc), List.map_cons, List.sum_cons, if_pos hc]
      · rw [List.filter_cons_of_neg (by simpa using hc), if_neg hc, Int.zero_add]
    rw [hstep, ih hrest]
    by_cases hid : a.id = row
    · -- the key does not come again, so the rest counts nothing
      have hnone : rows.find? (fun b => b.id == row) = none := by
        rw [List.find?_eq_none]
        intro b hb heq
        have hkey : b.id = a.id := (beq_iff_eq.mp heq).trans hid.symm
        exact hfresh (List.mem_map.mpr ⟨b, hb, hkey⟩)
      rw [hnone, List.find?_cons_of_pos (by simpa using hid), if_pos hid.symm]
      simp
    · rw [List.find?_cons_of_neg (by simpa using hid), if_neg (Ne.symm hid)]
      simp

/-- The entries of the accounts in a currency, counted account by account, are the entries
that are made in it. -/
theorem sum_moved (hrows : (l.accounts.map Account.id).Nodup) (currency : Currency)
    (entries : List Entry) :
    ((l.accounts.filter fun a => a.currency == currency).map fun a => moved entries a.id).sum
      = (entries.map (l.share currency)).sum := by
  -- by induction on the entries; each of them belongs to one account at most
  induction entries with
  | nil =>
    have hzero : ∀ a : Account, moved [] a.id = 0 := fun _ => rfl
    simp [hzero]
  | cons e entries ih =>
    have hsplit : ∀ rows : List Account, (rows.map fun a => moved (e :: entries) a.id).sum
        = (rows.map fun a => if e.account = a.id then e.amount else 0).sum
          + (rows.map fun a => moved entries a.id).sum := by
      intro rows
      rw [← List.sum_map_add]
      exact congrArg List.sum (List.map_congr_left fun a _ => moved_cons e entries a.id)
    rw [hsplit, ih, sum_of_key hrows, List.map_cons, List.sum_cons]
    rfl

/-- Two entries of a transfer within a currency cancel out; those of an exchange are what it
brings in and takes out. -/
theorem Backs.share_eq (h : Backs l x r p) (currency : Currency) :
    l.share currency x.sourceEntry + l.share currency x.targetEntry
      = if x.transfer.exchangeRate.isSome then l.gain currency x.transfer else 0 := by
  obtain ⟨⟨hsuits, -, -⟩, hreceipt, ⟨a, ha, hac⟩, b, hb, hbc⟩ := h
  have hsource : l.isIn currency p.source.id = (p.source.currency == currency) := by
    rw [Ledger.isIn, ha, Option.any_some, hac]
  have htarget : l.isIn currency p.target.id = (p.target.currency == currency) := by
    rw [Ledger.isIn, hb, Option.any_some, hbc]
  unfold Ledger.share Ledger.gain
  rw [hreceipt.transfer, hreceipt.debit, hreceipt.credit]
  simp only [hsource, htarget]
  have hpriced := hsuits.priced
  rcases hexchange : p.exchangeRate with _ | rate
  · rw [hexchange] at hpriced
    obtain ⟨hsame, hamount⟩ := hpriced
    rw [hsame, hamount]
    by_cases hc : p.target.currency = currency
    · simp [hc]
    · simp [hc]
  · by_cases hs : p.source.currency = currency
    · simp [hs]
      omega
    · simp [hs]

/-- The entries of all receipts come down to what was exchanged. -/
theorem sum_share (currency : Currency) (receipts : List TransferReceipt)
    (h : ∀ x ∈ receipts, ∃ r p, Backs l x r p) :
    ((receipts.flatMap fun x => [x.sourceEntry, x.targetEntry]).map (l.share currency)).sum
      = (((receipts.map TransferReceipt.transfer).filter fun t =>
          t.exchangeRate.isSome).map (l.gain currency)).sum := by
  induction receipts with
  | nil => rfl
  | cons x receipts ih =>
    obtain ⟨r, p, hbacks⟩ := h x List.mem_cons_self
    have hx := hbacks.share_eq currency
    rw [List.flatMap_cons, List.map_append, List.sum_append,
      ih fun y hy => h y (List.mem_cons_of_mem _ hy), List.map_cons, List.map_cons, List.map_nil,
      List.sum_cons, List.sum_cons, List.sum_nil, Int.add_zero, hx, List.map_cons,
      List.filter_cons]
    by_cases hsome : x.transfer.exchangeRate.isSome
    · rw [if_pos hsome, if_pos hsome, List.map_cons, List.sum_cons]
    · rw [if_neg hsome, if_neg hsome, Int.zero_add]

/-- There is as much money of a currency as was opened, and what was exchanged into it: a transfer
within the currency takes out what it brings in. -/
theorem Booked.conserved (h : f.Booked) (hsound : f.stores.ledger.Sound) (currency : Currency) :
    total f.stores.ledger.accounts currency
      = total f.opened currency + f.stores.ledger.exchanged currency := by
  have hgrown : total f.stores.ledger.accounts currency
      = total f.opened currency
        + ((f.stores.ledger.accounts.filter fun a => a.currency == currency).map fun a =>
          moved f.stores.ledger.entries a.id).sum := by
    unfold total
    rw [h.accounts, List.filter_map, List.map_map, List.map_map]
    exact List.sum_map_add
  rw [hgrown, sum_moved hsound.ids_nodup, h.entries, sum_share currency f.receipts h.backed,
    ← h.transfers]
  rfl

/-! ## The audit -/

/-- The numbers of the journal are in order, because the ledger has come about by moves. -/
theorem Orderly.numbered (h : f.Orderly) (k : Series) : Numbered k f.stores.ledger := by
  obtain ⟨moves, hledger⟩ := h.reached
  rw [hledger]
  exact numbered_run_empty k moves

/-- Books that follow from the history are in order. -/
theorem Booked.balanced (h : f.Booked) (horderly : f.Orderly) :
    f.stores.ledger.Balanced f.opened := by
  have hnodup := (horderly.numbered .transfers).transfers_nodup
  have hids : (f.receipts.map fun x => x.transfer.id).Nodup := by
    rw [h.transfers, List.map_map] at hnodup
    exact hnodup
  have howned : ∀ x ∈ f.receipts, x.sourceEntry.transfer = x.transfer.id ∧
      x.targetEntry.transfer = x.transfer.id := by
    intro x hx
    obtain ⟨r, p, hbacks⟩ := h.backed x hx
    exact hbacks.entries_owned
  -- a committed transfer has its two entries, and an entry its transfer
  refine ⟨horderly.sound.funded, hnodup, ?_, ?_, h.accounts, h.conserved horderly.sound⟩
  · intro t ht
    rw [h.transfers] at ht
    obtain ⟨x, hx, rfl⟩ := List.mem_map.mp ht
    obtain ⟨r, p, hbacks⟩ := h.backed x hx
    refine hbacks.vouched ?_
    unfold Ledger.entriesOf
    rw [h.entries]
    exact filter_entries f.receipts hids howned hx
  · intro e he
    rw [h.entries] at he
    obtain ⟨x, hx, hentry⟩ := List.mem_flatMap.mp he
    obtain ⟨hdebit, hcredit⟩ := howned x hx
    refine ⟨x.transfer, ?_, ?_⟩
    · rw [h.transfers]
      exact List.mem_map_of_mem hx
    · rcases List.mem_cons.mp hentry with rfl | hentry
      · exact hdebit.symm
      · rw [List.mem_singleton.mp hentry]
        exact hcredit.symm

/-- Whatever happens, the books are in order. -/
theorem balanced_run (clock : Instant) (events : List Event) :
    ((Floor.empty clock).run events).stores.ledger.Balanced
      ((Floor.empty clock).run events).opened := by
  obtain ⟨horderly, hbooked⟩ := run_induction clock (booked_empty clock)
    (fun f f' h _ hevolves hf => hf.evolves h hevolves) events
  exact hbooked.balanced horderly

end Floor

end CountingHouse
