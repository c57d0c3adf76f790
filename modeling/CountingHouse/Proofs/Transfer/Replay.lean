/-
Doing the same things again, one after the other.

A `Replay` of deeds starts with stores at which nobody is at work. Every transfer runs from its
beginning to its end with nobody else around, and every deed has to come to the result that it
is on record with. Numbers and times of transfers and entries are not compared, for they depend
on what else was tried in between (`Transfer.content`, `Entry.content`).

The question here is what becomes of a replay if one more transfer is put before it. The stores
are then `Ahead` by the plan of that transfer, from the beginning to the end of the replay, as
long as no deed of the replay touches one of the two rows (`Replay.ahead`). For openings this
holds because a plan leaves owners and currencies alone, for changes of rates because the table
of rates is out of reach of transfers, and for a transfer between other rows because its plan
is still the same (`planOn_congr`) and because the two plans can be carried out in either order
(`Ahead.exchange`).
-/
import CountingHouse.Proofs.Transfer.Alone
import CountingHouse.Proofs.Transfer.Orderly

set_option autoImplicit false

namespace CountingHouse

open Attempt

/-! ## What is compared -/

/-- What a transfer says, its number and its time aside. -/
def Transfer.content (t : Transfer) : AccountId × AccountId × Int × Int × Option Decimal :=
  (t.source, t.target, t.amount, t.sourceAmount, t.exchangeRate)

/-- What an entry says, the numbers and the time aside. -/
def Entry.content (e : Entry) : AccountId × Int := (e.account, e.amount)

/-- What a receipt says, the numbers and the times of its transfer and its entries aside. -/
def TransferReceipt.content (x : TransferReceipt) :
    (AccountId × AccountId × Int × Int × Option Decimal) ×
      (AccountId × Int) × (AccountId × Int) × Account × Account :=
  (x.transfer.content, x.sourceEntry.content, x.targetEntry.content, x.sourceAccount,
    x.targetAccount)

namespace Ledger

def transferContents (l : Ledger) : List (AccountId × AccountId × Int × Int × Option Decimal) :=
  l.transfers.map Transfer.content

def entryContents (l : Ledger) : List (AccountId × Int) := l.entries.map Entry.content

end Ledger

/-- Stores that agree: they have the same accounts and the same rates, and their journals say
the same, in whatever order. -/
structure Stores.Agrees (s t : Stores) : Prop where
  accounts : t.ledger.accounts = s.ledger.accounts
  nextAccount : t.ledger.nextAccount = s.ledger.nextAccount
  rates : t.rates = s.rates
  transfers : t.ledger.transferContents.Perm s.ledger.transferContents
  entries : t.ledger.entryContents.Perm s.ledger.entryContents

/-- Agreement is passed on. -/
theorem Stores.Agrees.trans {s t u : Stores} (h : s.Agrees t) (h' : t.Agrees u) : s.Agrees u :=
  ⟨h'.accounts.trans h.accounts, h'.nextAccount.trans h.nextAccount, h'.rates.trans h.rates,
    h'.transfers.trans h.transfers, h'.entries.trans h.entries⟩

/-- Stores with the same books, counters of accounts and rates agree. -/
theorem Stores.agrees_of_sameBooks {s t : Stores} (hbooks : t.ledger.SameBooks s.ledger)
    (hnext : t.ledger.nextAccount = s.ledger.nextAccount) (hrates : t.rates = s.rates) :
    t.Agrees s := by
  obtain ⟨haccounts, htransfers, hentries⟩ := hbooks
  refine ⟨haccounts.symm, hnext.symm, hrates.symm, ?_, ?_⟩
  · unfold Ledger.transferContents
    rw [htransfers]
  · unfold Ledger.entryContents
    rw [hentries]

namespace Attempt

variable {p q : Plan} {r : TransferOrder} {x : TransferReceipt} {a : Account} {l : Ledger}
variable {s s' t t' : Stores} {limit : Delay}

def Plan.content (p : Plan) :
    (AccountId × AccountId × Int × Int × Option Decimal) ×
      (AccountId × Int) × (AccountId × Int) × Account × Account :=
  ((p.source.id, p.target.id, p.amount, p.sourceAmount, p.exchangeRate),
    (p.source.id, -p.sourceAmount), (p.target.id, p.amount), p.sourceAfter, p.targetAfter)

/-- A receipt of a plan says what the plan says. -/
theorem Plan.Receipts.content_eq (h : p.Receipts x) : x.content = p.content := by
  unfold TransferReceipt.content Transfer.content Entry.content Plan.content
  rw [h.transfer, h.debit, h.credit, h.source, h.target]

/-- Stores that are ahead of others by one plan. -/
structure Ahead (p : Plan) (s t : Stores) : Prop where
  accounts : t.ledger.accounts = p.settle s.ledger.accounts
  nextAccount : t.ledger.nextAccount = s.ledger.nextAccount
  rates : t.rates = s.rates
  transfers : t.ledger.transferContents.Perm (s.ledger.transferContents ++ [p.content.1])
  entries : t.ledger.entryContents.Perm
    (s.ledger.entryContents ++ [p.content.2.1, p.content.2.2.1])

/-- Plans between four different rows. -/
structure Plan.Aside (p q : Plan) : Prop where
  source_source : p.source.id ≠ q.source.id
  source_target : p.source.id ≠ q.target.id
  target_source : p.target.id ≠ q.source.id
  target_target : p.target.id ≠ q.target.id

/-- A plan that has just been decided on fits its order and the rows as they are. -/
theorem current_of_planOn (hr : Checked r) (h : planOn r s = .ok p) :
    p.Suits r ∧ p.Current s.ledger := by
  obtain ⟨hsource, htarget, hsuits, -⟩ := suits_of_planOn hr.distinct hr.positive h
  refine ⟨hsuits, ?_, ?_⟩
  · rw [hsuits.source_id]
    exact hsource
  · rw [hsuits.target_id]
    exact htarget

/-- Where a plan has been posted, the stores are ahead by that plan. -/
theorem Ahead.of_post (hreceipt : p.Receipts x)
    (hbooks : t.ledger.SameBooks (p.post x s.ledger))
    (hnext : t.ledger.nextAccount = s.ledger.nextAccount) (hrates : t.rates = s.rates) :
    Ahead p s t := by
  obtain ⟨haccounts, htransfers, hentries⟩ := hbooks
  have hcontent := hreceipt.content_eq
  refine ⟨haccounts, hnext, hrates, ?_, ?_⟩
  · unfold Ledger.transferContents
    rw [htransfers, ← hcontent]
    exact List.Perm.of_eq List.map_append
  · unfold Ledger.entryContents
    rw [hentries, ← hcontent]
    exact List.Perm.of_eq List.map_append

/-- Stores that are ahead by one plan of stores that agree agree. -/
theorem Ahead.agrees (h : Ahead p s s') (hst : s.Agrees t) (h' : Ahead p t t') :
    s'.Agrees t' := by
  refine ⟨?_, ?_, ?_, ?_, ?_⟩
  · rw [h'.accounts, h.accounts, hst.accounts]
  · rw [h'.nextAccount, h.nextAccount, hst.nextAccount]
  · rw [h'.rates, h.rates, hst.rates]
  · exact h'.transfers.trans ((hst.transfers.append_right _).trans h.transfers.symm)
  · exact h'.entries.trans ((hst.entries.append_right _).trans h.entries.symm)

/-- Stores that agree lead to the same decision. -/
theorem planOn_of_agrees (h : s.Agrees t) : planOn r t = planOn r s := by
  have haccount : ∀ row, t.ledger.account? row = s.ledger.account? row := by
    intro row
    unfold Ledger.account?
    rw [h.accounts]
  exact planOn_congr (haccount _) (haccount _) h.rates

/-! ## Plans between different rows -/

/-- A row that is none of those of the plan is found as before. -/
theorem Ahead.account?_aside (h : Ahead p s t) {row : AccountId} (hs : row ≠ p.source.id)
    (ht : row ≠ p.target.id) : t.ledger.account? row = s.ledger.account? row := by
  rw [p.account?_settle h.accounts]
  rcases hfound : s.ledger.account? row with _ | a
  · rfl
  · have hid : a.id = row := (Ledger.account?_spec hfound).2
    rw [← hid] at hs ht
    rw [Option.map_some, Plan.rowAfter_of_ne hs ht]

/-- A plan between other rows is current still. -/
theorem Plan.Current.ahead (hp : p.Current s.ledger) (hpq : p.Aside q) (h : Ahead q s t) :
    p.Current t.ledger := by
  constructor
  · rw [h.account?_aside hpq.source_source hpq.source_target]
    exact hp.source
  · rw [h.account?_aside hpq.target_source hpq.target_target]
    exact hp.target

/-- Plans between four different rows change a row in either order alike. -/
theorem Plan.Aside.rowAfter_comm (h : p.Aside q) (a : Account) :
    p.rowAfter (q.rowAfter a) = q.rowAfter (p.rowAfter a) := by
  -- the row belongs to one of the plans at most, and the other one passes it by
  by_cases hp : a.id = p.source.id ∨ a.id = p.target.id
  · have hs : a.id ≠ q.source.id := by
      rintro heq
      rcases hp with hp | hp
      · exact h.source_source (hp.symm.trans heq)
      · exact h.target_source (hp.symm.trans heq)
    have ht : a.id ≠ q.target.id := by
      rintro heq
      rcases hp with hp | hp
      · exact h.source_target (hp.symm.trans heq)
      · exact h.target_target (hp.symm.trans heq)
    rw [Plan.rowAfter_of_ne hs ht]
    rw [← p.rowAfter_id a] at hs ht
    rw [Plan.rowAfter_of_ne hs ht]
  · obtain ⟨hs, ht⟩ := not_or.mp hp
    rw [Plan.rowAfter_of_ne hs ht]
    rw [← q.rowAfter_id a] at hs ht
    rw [Plan.rowAfter_of_ne hs ht]

/-- What is put behind a list first may as well be put there last. -/
theorem perm_exchange {α : Type} {first left right both a b : List α}
    (hleft : left.Perm (first ++ a)) (hright : right.Perm (first ++ b))
    (hboth : both.Perm (left ++ b)) : both.Perm (right ++ a) := by
  have hswap : (first ++ a ++ b).Perm (first ++ b ++ a) := by
    rw [List.append_assoc, List.append_assoc]
    exact List.perm_append_comm.append_left first
  exact hboth.trans ((hleft.append_right b).trans (hswap.trans (hright.symm.append_right a)))

/-- Two plans between different rows can be carried out in either order. -/
theorem Ahead.exchange (hpq : p.Aside q) (hp : Ahead p s t) (hq : Ahead q s s')
    (hq' : Ahead q t t') : Ahead p s' t' := by
  refine ⟨?_, ?_, ?_, ?_, ?_⟩
  · -- the rows of one plan are not rows of the other
    have hcomm : q.settle (p.settle s.ledger.accounts) = p.settle (q.settle s.ledger.accounts) := by
      unfold Plan.settle
      rw [List.map_map, List.map_map]
      exact List.map_congr_left fun a _ => (hpq.rowAfter_comm a).symm
    rw [hq'.accounts, hp.accounts, hq.accounts, hcomm]
  · rw [hq'.nextAccount, hp.nextAccount, hq.nextAccount]
  · rw [hq'.rates, hp.rates, hq.rates]
  · exact perm_exchange hp.transfers hq.transfers hq'.transfers
  · exact perm_exchange hp.entries hq.entries hq'.entries

/-! ## Plans and openings -/

/-- A plan changes no owner and no currency, so whether a holder has an account is answered as
before. -/
theorem Plan.Current.taken_settle (hp : p.Current l) (hsound : l.Sound) (owner : String)
    (currency : Currency) :
    taken (p.settle l.accounts) owner currency = taken l.accounts owner currency := by
  -- stated for every part of the rows, so that the induction goes through
  have hsame : ∀ accounts : List Account, (∀ a ∈ accounts, a ∈ l.accounts) →
      taken (p.settle accounts) owner currency = taken accounts owner currency := by
    intro accounts
    induction accounts with
    | nil => exact fun _ => rfl
    | cons a accounts ih =>
      intro hall
      have hrow := hp.rowAfter_eq (hsound.account?_of_mem (hall a List.mem_cons_self))
      have hrest := ih fun b hb => hall b (List.mem_cons_of_mem _ hb)
      unfold taken Plan.settle at hrest ⊢
      rw [List.map_cons, List.any_cons, List.any_cons, hrest, hrow]
  exact hsame l.accounts fun _ ha => ha

/-- A row that is opened later is none of those of the plan. -/
theorem Plan.Current.rowAfter_next (hp : p.Current l) (hsound : l.Sound)
    (ha : a.id = ⟨l.nextAccount⟩) : p.rowAfter a = a := by
  have hold : ∀ {row : AccountId} {b : Account}, l.account? row = some b → a.id ≠ row := by
    intro row b hb heq
    obtain ⟨hmem, hid⟩ := Ledger.account?_spec hb
    have hlt := hsound.account_lt b hmem
    rw [hid, ← heq, ha] at hlt
    exact absurd hlt (Int.lt_irrefl _)
  exact Plan.rowAfter_of_ne (hold hp.source) (hold hp.target)

/-- A plan is current still when an account has been added. -/
theorem Plan.Current.addRow (hp : p.Current l) (a : Account) : p.Current (l.addRow a) :=
  ⟨Ledger.account?_addRow a hp.source, Ledger.account?_addRow a hp.target⟩

end Attempt

/-! ## Doing a deed again -/

/-- A deed that is done again comes to the result that it is on record with. -/
inductive Redone (limit : Delay) : Deed → Stores → Stores → Prop where
  | opening {request : Opening} {now : Instant} {answer : Except BankError Account} {s : Stores}
      {l : Ledger} (h : request.apply now s.ledger = (answer, l)) :
      Redone limit (.opening request now answer) s { s with ledger := l }
  | rateChange {request : RateChange} {now : Instant} {answer : Except BankError ExchangeRate}
      {s : Stores} {rates : RateTable} (h : request.apply now s.rates = (answer, rates)) :
      Redone limit (.rateChange request now answer) s { s with rates }
  | transfer {r : TransferOrder} {x again : TransferReceipt} {s s' : Stores} (hr : Checked r)
      (h : (procedure .memory limit r (.calling .begin)).alone s = (.ok again, s'))
      (hagain : again.content = x.content) : Redone limit (.transfer r x) s s'

/-- Deeds that are done again, one after the other. -/
inductive Replay (limit : Delay) : Stores → List Deed → Stores → Prop where
  | nil (s : Stores) : Replay limit s [] s
  | cons {d : Deed} {deeds : List Deed} {s s' s'' : Stores} (h : Redone limit d s s')
      (hrest : Replay limit s' deeds s'') : Replay limit s (d :: deeds) s''

/-- Stores at which nobody is at work and no commit is going to fail. -/
structure Stores.Calm (s : Stores) : Prop where
  sound : s.ledger.Sound
  idle : s.ledger.units = []
  faultless : s.ledger.faults = []

/-- A deed that leaves the rows of an order alone. -/
def Deed.Avoids (r : TransferOrder) : Deed → Prop
  | transfer r' _ =>
    (r'.source ≠ r.source ∧ r'.source ≠ r.target) ∧ r'.target ≠ r.source ∧ r'.target ≠ r.target
  | opening .. | rateChange .. => True

variable {limit : Delay} {d : Deed} {deeds later : List Deed} {r : TransferOrder}
variable {x : TransferReceipt} {p q : Plan} {s s' s'' t t' : Stores}

/-- A deed that is done again leads to one outcome only. -/
theorem Redone.eq (h : Redone limit d s s') (h' : Redone limit d s t) : t = s' := by
  rcases h with h | h | ⟨-, h, -⟩
  · rcases h' with h' | - | -
    rw [h] at h'
    rw [(Prod.mk.inj h').2]
  · rcases h' with - | h' | -
    rw [h] at h'
    rw [(Prod.mk.inj h').2]
  · rcases h' with - | - | ⟨-, h', -⟩
    rw [h] at h'
    exact (Prod.mk.inj h').2.symm

/-- A replay leads to one outcome only. -/
theorem Replay.eq (h : Replay limit s deeds s') (h' : Replay limit s deeds t) : t = s' := by
  induction h with
  | nil s =>
    rcases h' with - | -
    rfl
  | cons hfirst hrest ih =>
    rcases h' with - | ⟨hfirst', hrest'⟩
    rw [hfirst.eq hfirst'] at hrest'
    exact ih hrest'

/-- A replay can be continued where it stops. -/
theorem Replay.append (h : Replay limit s deeds s') (h' : Replay limit s' later s'') :
    Replay limit s (deeds ++ later) s'' := by
  induction h with
  | nil s => exact h'
  | cons hfirst hrest ih => exact .cons hfirst (ih h')

/-- A deed that is done again is a replay of its own. -/
theorem Replay.single (h : Redone limit d s s') : Replay limit s [d] s' := .cons h (.nil s')

/-- A replay stops on its way at the stores to which its first deeds lead. -/
theorem Replay.split (h : Replay limit s (deeds ++ later) s'') :
    ∃ s', Replay limit s deeds s' ∧ Replay limit s' later s'' := by
  induction deeds generalizing s with
  | nil => exact ⟨s, .nil s, h⟩
  | cons d deeds ih =>
    rcases h with - | ⟨hfirst, hrest⟩
    obtain ⟨s', hdeeds, hlater⟩ := ih hrest
    exact ⟨s', .cons hfirst hdeeds, hlater⟩

/-! ## Transfers without company -/

/-- At stores that are calm an attempt is refused for the reason that `planOn` gives, or its
plan is carried out. -/
theorem alone_of_calm (limit : Delay) (hs : s.Calm) (hr : Checked r) :
    (∃ e, planOn r s = .error e ∧
      ((procedure .memory limit r (.calling .begin)).alone s).1 = .error e) ∨
    (∃ p again s', planOn r s = .ok p ∧
      (procedure .memory limit r (.calling .begin)).alone s = (.ok again, s') ∧
      again.content = p.content ∧ s'.Calm ∧ Ahead p s s') := by
  obtain ⟨l, hended, hlone⟩ := alone_attempt limit hs.sound hs.idle hr.distinct hr.positive
  rcases hrun : (procedure .memory limit r (.calling .begin)).alone s with ⟨result, s'⟩
  rw [hrun] at hended hlone
  have hidle : s'.ledger.units = [] := List.map_eq_nil_iff.mp hlone.kept.units
  have hnone : s.ledger.faults.head? = none := by
    rw [hs.faultless]
    rfl
  rcases hended with hplan | ⟨hplan, hfault⟩ | ⟨hplan, -, hreceipt, hresult⟩
  · exact .inl ⟨_, hplan, rfl⟩
  · -- no fault is scheduled
    rw [hnone] at hfault
    exact absurd hfault (by simp)
  · rename_i p receipt
    have hok : result = .ok receipt := by
      rw [hnone] at hresult
      exact hresult
    have hfaultless : s'.ledger.faults = [] := by
      have hfaults : s'.ledger.faults = s.ledger.faults.tail := hlone.kept.faults
      rw [hfaults, hs.faultless]
      rfl
    refine .inr ⟨p, receipt, s', hplan, ?_, hreceipt.content_eq,
      ⟨hlone.sound, hidle, hfaultless⟩, ?_⟩
    · rw [hok]
    · exact Ahead.of_post hreceipt hlone.kept.books hlone.kept.nextAccount hlone.rates

/-- On calm stores an order that has a plan is carried out by an attempt without company, and the
stores are ahead by the plan. -/
theorem Redone.of_planOn (limit : Delay) (hs : s.Calm) (hr : Checked r)
    (hplan : planOn r s = .ok p) (hx : x.content = p.content) :
    ∃ s', Redone limit (.transfer r x) s s' ∧ s'.Calm ∧ Ahead p s s' := by
  rcases alone_of_calm limit hs hr with
    ⟨e, hrefused, -⟩ | ⟨q, again, s', hq, hrun, hcontent, hcalm, hahead⟩
  · rw [hrefused] at hplan
    exact absurd hplan (by simp)
  · rw [hplan] at hq
    obtain rfl := Except.ok.inj hq
    exact ⟨s', .transfer hr hrun (hcontent.trans hx.symm), hcalm, hahead⟩

/-- A transfer that was made again had a plan where it was made. -/
theorem Redone.planned (hs : s.Calm) (h : Redone limit (.transfer r x) s s') :
    ∃ p, Checked r ∧ planOn r s = .ok p ∧ x.content = p.content ∧ s'.Calm ∧ Ahead p s s' := by
  rcases h with - | - | ⟨hr, hrun, hagain⟩
  rcases alone_of_calm limit hs hr with
    ⟨e, -, hrefused⟩ | ⟨p, again, s'', hp, hrun', hcontent, hcalm, hahead⟩
  · rw [hrun] at hrefused
    exact absurd hrefused (by simp)
  · rw [hrun] at hrun'
    obtain ⟨hresult, rfl⟩ := Prod.mk.inj hrun'
    obtain rfl := Except.ok.inj hresult
    exact ⟨p, hr, hp, hagain.symm.trans hcontent, hcalm, hahead⟩

/-! ## Calm stores -/

/-- Calm stores stay calm when an account is added. -/
theorem Stores.Calm.addRow {a : Account} (hs : s.Calm) (hid : a.id = ⟨s.ledger.nextAccount⟩)
    (ha : 0 ≤ a.balance) : ({ s with ledger := s.ledger.addRow a } : Stores).Calm :=
  ⟨hs.sound.addRow hid ha, hs.idle, hs.faultless⟩

/-- A deed that is done again leaves calm stores calm. -/
theorem Redone.calm (h : Redone limit d s s') (hs : s.Calm) : s'.Calm := by
  rcases d with ⟨request, now, answer⟩ | ⟨request, now, answer⟩ | ⟨r, x⟩
  · rcases h with h | - | -
    rcases request.apply_congr now (l := s.ledger) rfl (fun _ _ => rfl) with
      ⟨e, hsame, -⟩ | ⟨a, hid, hbalance, hopened, -⟩
    · rw [hsame] at h
      obtain ⟨rfl, rfl⟩ := Prod.mk.inj h
      exact hs
    · rw [hopened] at h
      obtain ⟨rfl, rfl⟩ := Prod.mk.inj h
      exact hs.addRow hid hbalance
  · rcases h with - | h | -
    exact ⟨hs.sound, hs.idle, hs.faultless⟩
  · obtain ⟨p, -, -, -, hcalm, -⟩ := h.planned hs
    exact hcalm

/-- A replay leaves calm stores calm. -/
theorem Replay.calm (h : Replay limit s deeds s') (hs : s.Calm) : s'.Calm := by
  induction h with
  | nil s => exact hs
  | cons hfirst hrest ih => exact ih (hfirst.calm hs)

/-- At the beginning nobody is at work. -/
theorem calm_empty (clock : Instant) : ({ clock } : Stores).Calm := ⟨Ledger.sound_empty, rfl, rfl⟩

/-! ## One more transfer before a replay -/

/-- Another row at the end does not close the gap. -/
theorem Attempt.Ahead.addRow {a : Account} (hahead : Ahead p s t) (ha : p.rowAfter a = a) :
    Ahead p { s with ledger := s.ledger.addRow a } { t with ledger := t.ledger.addRow a } := by
  refine ⟨?_, ?_, hahead.rates, hahead.transfers, hahead.entries⟩
  · have hrow : p.settle (s.ledger.accounts ++ [a]) = p.settle s.ledger.accounts ++ [a] := by
      unfold Plan.settle
      rw [List.map_append, List.map_singleton, ha]
    change t.ledger.accounts ++ [a] = p.settle (s.ledger.accounts ++ [a])
    rw [hahead.accounts, hrow]
  · change t.ledger.nextAccount + 1 = s.ledger.nextAccount + 1
    rw [hahead.nextAccount]

/-- The decision on an order between other rows is the same ahead. -/
theorem Attempt.Ahead.planOn_eq {r' : TransferOrder} (hahead : Ahead p s t) (hp : p.Suits r)
    (havoids : (Deed.transfer r' x).Avoids r) : planOn r' t = planOn r' s := by
  obtain ⟨⟨hss, hst⟩, hts, htt⟩ := havoids
  rw [← hp.source_id] at hss hts
  rw [← hp.target_id] at hst htt
  exact planOn_congr (hahead.account?_aside hss hst) (hahead.account?_aside hts htt) hahead.rates

/-- A deed that leaves the rows of a plan alone is done again ahead, and the stores stay ahead. -/
theorem Redone.ahead (h : Redone limit d s s') (hs : s.Calm) (hp : p.Suits r)
    (hcurrent : p.Current s.ledger) (havoids : d.Avoids r) (hahead : Ahead p s t) (ht : t.Calm) :
    p.Current s'.ledger ∧ ∃ t', Redone limit d t t' ∧ Ahead p s' t' := by
  rcases d with ⟨request, now, answer⟩ | ⟨request, now, answer⟩ | ⟨r', x⟩
  · -- an opening only looks at owners and currencies, which no plan changes
    rcases h with h | - | -
    have htaken : ∀ owner currency, taken t.ledger.accounts owner currency
        = taken s.ledger.accounts owner currency := by
      intro owner currency
      rw [hahead.accounts]
      exact hcurrent.taken_settle hs.sound owner currency
    rcases request.apply_congr now hahead.nextAccount htaken with
      ⟨e, hsame, hsame'⟩ | ⟨a, hid, hbalance, hopened, hopened'⟩
    · rw [hsame] at h
      obtain ⟨rfl, rfl⟩ := Prod.mk.inj h
      exact ⟨hcurrent, t, .opening hsame', hahead⟩
    · rw [hopened] at h
      obtain ⟨rfl, rfl⟩ := Prod.mk.inj h
      have hrow : p.rowAfter a = a := hcurrent.rowAfter_next hs.sound hid
      exact ⟨hcurrent.addRow a, _, .opening hopened', hahead.addRow hrow⟩
  · -- the rates are the same ones
    rcases h with - | h | -
    rename_i rates
    have h' : request.apply now t.rates = (answer, rates) := by
      rw [hahead.rates]
      exact h
    refine ⟨hcurrent, _, .rateChange h', ?_⟩
    exact ⟨hahead.accounts, hahead.nextAccount, rfl, hahead.transfers, hahead.entries⟩
  · -- the other transfer is planned as before, and the two plans are exchanged
    obtain ⟨q, hr', hplan, hx, -, hq⟩ := h.planned hs
    have hplan' : planOn r' t = .ok q := by
      rw [hahead.planOn_eq hp havoids]
      exact hplan
    obtain ⟨t', hagain, -, hq'⟩ := Redone.of_planOn limit ht hr' hplan' hx
    have haside : p.Aside q := by
      obtain ⟨hsuits, -⟩ := current_of_planOn hr' hplan
      obtain ⟨⟨hss, hst⟩, hts, htt⟩ := havoids
      rw [← hsuits.source_id, ← hp.source_id] at hss
      rw [← hsuits.source_id, ← hp.target_id] at hst
      rw [← hsuits.target_id, ← hp.source_id] at hts
      rw [← hsuits.target_id, ← hp.target_id] at htt
      exact ⟨hss.symm, hts.symm, hst.symm, htt.symm⟩
    exact ⟨hcurrent.ahead haside hq, t', hagain, hahead.exchange haside hq hq'⟩

/-- Deeds that leave the rows of a plan alone are done again ahead. -/
theorem Replay.ahead (h : Replay limit s deeds s') (hs : s.Calm) (ht : t.Calm) (hp : p.Suits r)
    (hcurrent : p.Current s.ledger) (havoids : ∀ d ∈ deeds, d.Avoids r) (hahead : Ahead p s t) :
    ∃ t', Replay limit t deeds t' ∧ Ahead p s' t' := by
  -- by induction on the replay; the plan stays current, and the gap stays the same plan
  induction h generalizing t with
  | nil s => exact ⟨t, .nil t, hahead⟩
  | cons hfirst hrest ih =>
    obtain ⟨hcurrent', t', hagain, hahead'⟩ :=
      hfirst.ahead hs hp hcurrent (havoids _ List.mem_cons_self) hahead ht
    obtain ⟨t'', hreplay, hend⟩ := ih (hfirst.calm hs) (hagain.calm ht) hcurrent'
      (fun d hd => havoids d (List.mem_cons_of_mem _ hd)) hahead'
    exact ⟨t'', .cons hagain hreplay, hend⟩

end CountingHouse
