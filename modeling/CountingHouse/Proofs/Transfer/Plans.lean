/-
What a transfer is going to do, decided at one stroke.

An attempt learns what it needs in three calls: the two rows, and the rate if the currencies
differ. `planOn` makes the same decision from the committed rows and the rates of one
moment. It is the yardstick for attempts: an attempt that has the ledger to itself does what
`planOn` says of the beginning, and an attempt in company does what `planOn` says of the
moment at which it has learned everything.

`Suits` is what the checks establish about a plan, and `settle` is what the plan does to
committed rows.
-/
import CountingHouse.Transfer.Execution
import CountingHouse.Proofs.Ledger.Moves
import CountingHouse.Proofs.Rates.Conversion

set_option autoImplicit false

namespace CountingHouse

namespace Attempt

/-! ## The decision -/

/-- The source and the target among the two rows of an order. -/
def sides (r : TransferOrder) (lower higher : Account) : Account × Account :=
  if r.lowerRow = r.source then (lower, higher) else (higher, lower)

/-- The plan for two rows at the rates of a table, if the caller may debit the source. -/
def quote (r : TransferOrder) (rates : RateTable) (source target : Account) :
    Except BankError Plan :=
  if h : source.currency = target.currency then plan r source target r.amount none
  else match rates.current? ⟨source.currency, target.currency, h⟩ with
    | none => .error (.rateNotFound source.currency target.currency)
    | some row => do
      let conversion ← convert r.amount row
      plan r source target conversion.convertedAmount (some conversion.rate)

def planFor (r : TransferOrder) (rates : RateTable) (source target : Account) :
    Except BankError Plan := do
  checkSource r source
  quote r rates source target

def committedRow (l : Ledger) (row : AccountId) : Except BankError Account :=
  match l.account? row with
  | some a => .ok a
  | none => .error (.accountNotFound row)

/-- The plan of an order on the stores of one moment, or why it is refused. -/
def planOn (r : TransferOrder) (s : Stores) : Except BankError Plan := do
  let lower ← committedRow s.ledger r.lowerRow
  let higher ← committedRow s.ledger r.higherRow
  planFor r s.rates (sides r lower higher).1 (sides r lower higher).2

variable {r : TransferOrder} {source target lower higher : Account} {p : Plan}
variable {rates : RateTable} {s s' : Stores}

/-! ## The rows of an order -/

/-- An order between two accounts, of a positive amount, passes its check as it is. -/
theorem check_eq_ok (hne : r.source ≠ r.target) (hpos : 1 ≤ r.amount) : r.check = .ok r := by
  have hamount : ¬ r.amount ≤ 0 := by omega
  unfold TransferOrder.check positiveAmount
  rw [if_neg hne, if_neg hamount]
  rfl

/-- An order is refused by its check, or it is one between two accounts, of a positive amount. -/
theorem check_cases (r : TransferOrder) :
    (∃ e, r.check = .error e) ∨ (r.check = .ok r ∧ r.source ≠ r.target ∧ 1 ≤ r.amount) := by
  by_cases hsame : r.source = r.target
  · refine .inl ⟨.sameAccount r.source, ?_⟩
    unfold TransferOrder.check
    rw [if_pos hsame]
    rfl
  · by_cases hpos : 1 ≤ r.amount
    · exact .inr ⟨check_eq_ok hsame hpos, hsame, hpos⟩
    · have hamount : r.amount ≤ 0 := by omega
      refine .inl ⟨.validation (.amountNotPositive r.amount), ?_⟩
      unfold TransferOrder.check positiveAmount
      rw [if_neg hsame, if_pos hamount]
      rfl

/-- The lower row is one of the two and the higher row is the other. -/
theorem rows_cases (r : TransferOrder) :
    (r.lowerRow = r.source ∧ r.higherRow = r.target) ∨
      (r.lowerRow = r.target ∧ r.higherRow = r.source) := by
  unfold TransferOrder.lowerRow TransferOrder.higherRow AccountId.ordered
  by_cases h : r.source ≤ r.target
  · rw [if_pos h]
    exact .inl ⟨rfl, rfl⟩
  · rw [if_neg h]
    exact .inr ⟨rfl, rfl⟩

/-- The rows of an order have an order of their own, which is the one in which they are locked. -/
theorem lowerRow_lt_higherRow (hne : r.source ≠ r.target) : r.lowerRow < r.higherRow := by
  have hnumber : r.source.number ≠ r.target.number := by
    intro heq
    exact hne (congrArg AccountId.mk heq)
  unfold TransferOrder.lowerRow TransferOrder.higherRow AccountId.ordered
  by_cases h : r.source ≤ r.target
  · rw [if_pos h]
    exact Int.lt_iff_le_and_ne.mpr ⟨h, hnumber⟩
  · rw [if_neg h]
    exact Int.not_le.mp h

/-- An order between two accounts has two rows. -/
theorem rows_ne (hne : r.source ≠ r.target) : r.lowerRow ≠ r.higherRow := by
  rcases rows_cases r with ⟨hl, hh⟩ | ⟨hl, hh⟩
  · rw [hl, hh]
    exact hne
  · rw [hl, hh]
    exact hne.symm

/-- What holds of source and target holds of both rows. -/
theorem forall_rows {P : AccountId → Prop} (hsource : P r.source) (htarget : P r.target) :
    P r.lowerRow ∧ P r.higherRow := by
  rcases rows_cases r with ⟨hlower, hhigher⟩ | ⟨hlower, hhigher⟩
  · rw [hlower, hhigher]
    exact ⟨hsource, htarget⟩
  · rw [hlower, hhigher]
    exact ⟨htarget, hsource⟩

/-- Source and target are found again among the two rows. -/
theorem account?_sides (hne : r.source ≠ r.target) {l : Ledger}
    (hlower : l.account? r.lowerRow = some lower)
    (hhigher : l.account? r.higherRow = some higher) :
    l.account? r.source = some (sides r lower higher).1 ∧
      l.account? r.target = some (sides r lower higher).2 := by
  unfold sides
  rcases rows_cases r with ⟨hl, hh⟩ | ⟨hl, hh⟩
  · rw [if_pos hl, ← hl, ← hh]
    exact ⟨hlower, hhigher⟩
  · have hother : r.lowerRow ≠ r.source := by
      rw [hl]
      exact hne.symm
    rw [if_neg hother, ← hl, ← hh]
    exact ⟨hhigher, hlower⟩

/-- Only the two rows and the rates matter for the decision. -/
theorem planOn_congr (hsource : s'.ledger.account? r.source = s.ledger.account? r.source)
    (htarget : s'.ledger.account? r.target = s.ledger.account? r.target)
    (hrates : s'.rates = s.rates) : planOn r s' = planOn r s := by
  obtain ⟨hlower, hhigher⟩ := forall_rows (r := r)
    (P := fun row => s'.ledger.account? row = s.ledger.account? row) hsource htarget
  unfold planOn committedRow
  rw [hlower, hhigher, hrates]

/-- The decision, once both rows are known. -/
theorem planOn_of_rows (hne : r.source ≠ r.target)
    (hsource : s.ledger.account? r.source = some source)
    (htarget : s.ledger.account? r.target = some target) :
    planOn r s = planFor r s.rates source target := by
  rcases rows_cases r with ⟨hl, hh⟩ | ⟨hl, hh⟩
  · -- the source is the lower row
    have hsides : sides r source target = (source, target) := if_pos hl
    unfold planOn committedRow
    rw [hl, hh, hsource, htarget]
    change planFor r s.rates (sides r source target).1 (sides r source target).2 = _
    rw [hsides]
  · -- the target is the lower row
    have hother : r.lowerRow ≠ r.source := by
      rw [hl]
      exact hne.symm
    have hsides : sides r target source = (source, target) := if_neg hother
    unfold planOn committedRow
    rw [hl, hh, hsource, htarget]
    change planFor r s.rates (sides r target source).1 (sides r target source).2 = _
    rw [hsides]

/-- A decision on the stores is one for the rows of source and target as they are there. -/
theorem planFor_of_planOn (hne : r.source ≠ r.target) (h : planOn r s = .ok p) :
    ∃ source target, s.ledger.account? r.source = some source ∧
      s.ledger.account? r.target = some target ∧ planFor r s.rates source target = .ok p := by
  have hrow : ∀ {row : AccountId} {a : Account}, committedRow s.ledger row = .ok a →
      s.ledger.account? row = some a := by
    intro row a hrow
    unfold committedRow at hrow
    rcases haccount : s.ledger.account? row with _ | b
    · rw [haccount] at hrow
      cases hrow
    · rw [haccount] at hrow
      exact congrArg some (Except.ok.inj hrow)
  obtain ⟨lower, hlower, h⟩ := bind_eq_ok.mp h
  obtain ⟨higher, hhigher, h⟩ := bind_eq_ok.mp h
  obtain ⟨hs, ht⟩ := account?_sides hne (hrow hlower) (hrow hhigher)
  exact ⟨_, _, hs, ht, h⟩

/-! ## What a plan is worth -/

/-- How a credit comes from a debit: it is the same within one currency, and otherwise it is
what the debit buys at the rate. -/
def Priced (base target : Currency) (debit credit : Int) : Option Decimal → Prop
  | none => base = target ∧ credit = debit
  | some rate => base ≠ target ∧ ∀ row : ExchangeRate, row.rate = rate →
      convert debit row = .ok ⟨debit, credit, rate⟩

/-- A plan that serves an order. -/
structure Plan.Suits (p : Plan) (r : TransferOrder) : Prop where
  source_id : p.source.id = r.source
  target_id : p.target.id = r.target
  distinct : p.source.id ≠ p.target.id
  owner : p.source.owner = r.owner
  currency : p.source.currency = r.currency
  debited : p.sourceAmount = r.amount
  debit_pos : 1 ≤ p.sourceAmount
  credit_pos : 1 ≤ p.amount
  covered : p.sourceAmount ≤ p.source.balance
  sourceBalance : p.sourceBalance = p.source.balance - p.sourceAmount
  targetBalance : p.targetBalance = p.target.balance + p.amount
  priced : Priced p.source.currency p.target.currency p.sourceAmount p.amount p.exchangeRate

/-- A plan that leaves no balance below zero. -/
structure Plan.Funded (p : Plan) : Prop where
  source : 0 ≤ p.sourceBalance
  target : 0 ≤ p.targetBalance

/-- The source passes exactly if it is the caller's and of the currency of the order. -/
theorem checkSource_eq_ok_iff :
    checkSource r source = .ok () ↔ source.owner = r.owner ∧ source.currency = r.currency := by
  unfold checkSource
  by_cases howner : source.owner = r.owner
  · by_cases hcurrency : source.currency = r.currency
    · simp [Account.belongsTo, howner, hcurrency, pure, Except.pure]
    · simp [Account.belongsTo, howner, hcurrency, throw, throwThe, MonadExceptOf.throw]
  · simp [Account.belongsTo, howner, bind, Except.bind, throw, throwThe, MonadExceptOf.throw]

/-- There is a plan exactly if the balance covers the amount and both new balances can be stored; it
says what it was asked and what comes of it. -/
theorem plan_eq_ok_iff {amount : Int} {rate : Option Decimal} :
    plan r source target amount rate = .ok p ↔
      r.amount ≤ source.balance ∧ IsStored (source.balance + -r.amount) ∧
        IsStored (target.balance + amount) ∧
        p = ⟨source, target, r.amount, amount, rate, source.balance + -r.amount,
          target.balance + amount⟩ := by
  unfold plan changedBalance Account.covers
  -- the three checks in their order; every failed one refuses the plan
  by_cases hcovers : r.amount ≤ source.balance
  · by_cases hsource : IsStored (source.balance + -r.amount)
    · by_cases htarget : IsStored (target.balance + amount)
      · simp [hcovers, hsource, htarget, bind, Except.bind, pure, Except.pure, eq_comm]
      · simp [hcovers, hsource, htarget, bind, Except.bind, Violation.refuse]
    · simp [hcovers, hsource, bind, Except.bind, Violation.refuse]
  · simp [hcovers, bind, Except.bind, throw, throwThe, MonadExceptOf.throw]

/-- How a plan comes about: the balances allow it, and the credit is priced by the rates. -/
theorem quote_cases (hpos : 1 ≤ r.amount) (h : quote r rates source target = .ok p) :
    ∃ amount rate, 1 ≤ amount ∧ Priced source.currency target.currency r.amount amount rate ∧
      (∀ d, rate = some d → rates.Positive → d.isPositive = true) ∧
      plan r source target amount rate = .ok p := by
  unfold quote at h
  by_cases hcurrency : source.currency = target.currency
  · rw [dif_pos hcurrency] at h
    refine ⟨r.amount, none, hpos, ⟨hcurrency, rfl⟩, ?_, h⟩
    intro d hd
    exact absurd hd (by simp)
  · rw [dif_neg hcurrency] at h
    rcases hrow : rates.current? ⟨source.currency, target.currency, hcurrency⟩ with _ | row
    · rw [hrow] at h
      cases h
    · -- the credit is what the debit buys at the rate that was found
      rw [hrow] at h
      obtain ⟨conversion, hconvert, hplan⟩ := bind_eq_ok.mp h
      obtain ⟨units, hunits, hone, rfl⟩ := convert_eq_ok_iff.mp hconvert
      refine ⟨units, some row.rate, hone, ⟨hcurrency, ?_⟩, ?_, hplan⟩
      · intro other hother
        rw [convert_eq_ok_iff]
        refine ⟨units, ?_, hone, ?_⟩
        · rw [hother]
          exact hunits
        · rw [hother]
      · rintro d ⟨⟩ hrates
        exact hrates.current? hrow

/-- A plan is one for the rows that it was made for. -/
theorem rows_of_planFor (h : planFor r rates source target = .ok p) :
    p.source = source ∧ p.target = target := by
  obtain ⟨-, -, hquote⟩ := bind_eq_ok.mp h
  have hplan : ∃ amount rate, plan r source target amount rate = .ok p := by
    unfold quote at hquote
    by_cases hcurrency : source.currency = target.currency
    · rw [dif_pos hcurrency] at hquote
      exact ⟨_, _, hquote⟩
    · rw [dif_neg hcurrency] at hquote
      rcases hrow : rates.current? ⟨source.currency, target.currency, hcurrency⟩ with _ | row
      · rw [hrow] at hquote
        cases hquote
      · rw [hrow] at hquote
        obtain ⟨conversion, -, hquote⟩ := bind_eq_ok.mp hquote
        exact ⟨_, _, hquote⟩
  obtain ⟨amount, rate, hplan⟩ := hplan
  obtain ⟨-, -, -, rfl⟩ := plan_eq_ok_iff.mp hplan
  exact ⟨rfl, rfl⟩

/-- A plan for two rows serves the order that names them. -/
theorem suits_of_planFor (hsource : source.id = r.source) (htarget : target.id = r.target)
    (hne : r.source ≠ r.target) (hpos : 1 ≤ r.amount)
    (h : planFor r rates source target = .ok p) :
    p.source = source ∧ p.target = target ∧ p.Suits r ∧
      (rates.Positive → ∀ d, p.exchangeRate = some d → d.isPositive = true) := by
  obtain ⟨⟨⟩, hcheck, hquote⟩ := bind_eq_ok.mp h
  obtain ⟨howner, hcurrency⟩ := checkSource_eq_ok_iff.mp hcheck
  obtain ⟨amount, rate, hone, hpriced, hpositive, hplan⟩ := quote_cases hpos hquote
  obtain ⟨hcovered, -, -, rfl⟩ := plan_eq_ok_iff.mp hplan
  refine ⟨rfl, rfl, ?_, fun hrates d hd => hpositive d hd hrates⟩
  refine ⟨hsource, htarget, ?_, howner, hcurrency, rfl, hpos, hone, hcovered, ?_, rfl, hpriced⟩
  · intro heq
    exact hne (hsource.symm.trans (heq.trans htarget))
  · -- the check adds a negative amount where the plan speaks of a difference
    exact Int.sub_eq_add_neg.symm

/-- The decision to go on: the plan is about the committed rows and serves the order. -/
theorem suits_of_planOn (hne : r.source ≠ r.target) (hpos : 1 ≤ r.amount)
    (h : planOn r s = .ok p) :
    s.ledger.account? r.source = some p.source ∧ s.ledger.account? r.target = some p.target ∧
      p.Suits r ∧
      (s.rates.Positive → ∀ d, p.exchangeRate = some d → d.isPositive = true) := by
  obtain ⟨source, target, hs, ht, hplan⟩ := planFor_of_planOn hne h
  obtain ⟨rfl, rfl, hsuits, hpositive⟩ := suits_of_planFor (Ledger.account?_spec hs).2
    (Ledger.account?_spec ht).2 hne hpos hplan
  exact ⟨hs, ht, hsuits, hpositive⟩

/-- A plan on a sound ledger leaves two balances that are not negative. -/
theorem funded_of_planOn (hsound : s.ledger.Sound) (hne : r.source ≠ r.target)
    (hpos : 1 ≤ r.amount) (h : planOn r s = .ok p) : p.Funded := by
  obtain ⟨-, htarget, hsuits, -⟩ := suits_of_planOn hne hpos h
  have hbalance : 0 ≤ p.target.balance := hsound.funded _ (Ledger.account?_spec htarget).1
  have hcovered := hsuits.covered
  have hcredit := hsuits.credit_pos
  constructor
  · rw [hsuits.sourceBalance]
    omega
  · rw [hsuits.targetBalance]
    omega

/-! ## What a plan does -/

namespace Plan

def sourceAfter (p : Plan) : Account := { p.source with balance := p.sourceBalance }

def targetAfter (p : Plan) : Account := { p.target with balance := p.targetBalance }

/-- A transfer that says what the plan says; its number and its time are free. -/
def Transfers (p : Plan) (t : Transfer) : Prop :=
  t = ⟨t.id, p.source.id, p.target.id, p.amount, p.sourceAmount, p.exchangeRate, t.createdAt⟩

def Debits (p : Plan) (t : Transfer) (e : Entry) : Prop :=
  e = ⟨e.id, p.source.id, t.id, -p.sourceAmount, e.createdAt⟩

def Credits (p : Plan) (t : Transfer) (e : Entry) : Prop :=
  e = ⟨e.id, p.target.id, t.id, p.amount, e.createdAt⟩

/-- A receipt that says what the plan says. -/
structure Receipts (p : Plan) (x : TransferReceipt) : Prop where
  transfer : p.Transfers x.transfer
  debit : p.Debits x.transfer x.sourceEntry
  credit : p.Credits x.transfer x.targetEntry
  source : x.sourceAccount = p.sourceAfter
  target : x.targetAccount = p.targetAfter

/-- The row of an account after the plan. -/
def rowAfter (p : Plan) (a : Account) : Account :=
  if a.id = p.source.id then p.sourceAfter else if a.id = p.target.id then p.targetAfter else a

def settle (p : Plan) (accounts : List Account) : List Account := accounts.map p.rowAfter

/-- The books after the plan, with the rows of a receipt behind the journal. -/
def post (p : Plan) (x : TransferReceipt) (l : Ledger) : Ledger :=
  { l with
    accounts := p.settle l.accounts
    transfers := l.transfers ++ [x.transfer]
    entries := l.entries ++ [x.sourceEntry, x.targetEntry] }

/-- A plan leaves alone every row that is none of its two. -/
theorem rowAfter_of_ne (hs : source.id ≠ p.source.id) (ht : source.id ≠ p.target.id) :
    p.rowAfter source = source := by
  rw [rowAfter, if_neg hs, if_neg ht]

/-- A plan changes no number of a row. -/
theorem rowAfter_id (p : Plan) (a : Account) : (p.rowAfter a).id = a.id := by
  unfold rowAfter
  by_cases hs : a.id = p.source.id
  · rw [if_pos hs, hs]
    rfl
  · rw [if_neg hs]
    by_cases ht : a.id = p.target.id
    · rw [if_pos ht, ht]
      rfl
    · rw [if_neg ht]

variable {l l' : Ledger} {a : Account}

/-- Where the rows are those of another ledger as the plan leaves them, each is found as what the
plan makes of it. -/
theorem account?_settle (h : l'.accounts = p.settle l.accounts) (row : AccountId) :
    l'.account? row = (l.account? row).map p.rowAfter := by
  unfold Ledger.account?
  rw [h]
  exact find?_key_map Account.id p.rowAfter p.rowAfter_id l.accounts row

/-- A ledger with the rows on which the plan was made. -/
structure Current (p : Plan) (l : Ledger) : Prop where
  source : l.account? p.source.id = some p.source
  target : l.account? p.target.id = some p.target

/-- The row with the number of the source is the source, while the plan is current. -/
theorem Current.eq_source (hp : p.Current l) (ha : l.account? a.id = some a)
    (hid : a.id = p.source.id) : a = p.source := by
  rw [hid, hp.source] at ha
  exact (Option.some.inj ha).symm

/-- The row with the number of the target is the target, while the plan is current. -/
theorem Current.eq_target (hp : p.Current l) (ha : l.account? a.id = some a)
    (hid : a.id = p.target.id) : a = p.target := by
  rw [hid, hp.target] at ha
  exact (Option.some.inj ha).symm

/-- A plan takes from the row of its source, adds to that of its target, and leaves the rest
alone. -/
theorem Current.rowAfter_cases (hp : p.Current l) (hsuits : p.Suits r)
    (ha : l.account? a.id = some a) :
    (a = p.source ∧ p.rowAfter a = { a with balance := a.balance - p.sourceAmount }) ∨
    (a = p.target ∧ p.rowAfter a = { a with balance := a.balance + p.amount }) ∨
    (a.id ≠ p.source.id ∧ a.id ≠ p.target.id ∧ p.rowAfter a = a) := by
  by_cases hs : a.id = p.source.id
  · obtain rfl := hp.eq_source ha hs
    refine .inl ⟨rfl, ?_⟩
    rw [rowAfter, if_pos rfl, sourceAfter, hsuits.sourceBalance]
  · by_cases ht : a.id = p.target.id
    · obtain rfl := hp.eq_target ha ht
      refine .inr (.inl ⟨rfl, ?_⟩)
      rw [rowAfter, if_neg hs, if_pos rfl, targetAfter, hsuits.targetBalance]
    · exact .inr (.inr ⟨hs, ht, rowAfter_of_ne hs ht⟩)

/-- A plan changes nothing but the balance of a row. -/
theorem Current.rowAfter_eq (hp : p.Current l) (ha : l.account? a.id = some a) :
    p.rowAfter a = { a with balance := (p.rowAfter a).balance } := by
  by_cases hs : a.id = p.source.id
  · obtain rfl := hp.eq_source ha hs
    rw [rowAfter, if_pos rfl]
    rfl
  · by_cases ht : a.id = p.target.id
    · obtain rfl := hp.eq_target ha ht
      rw [rowAfter, if_neg hs, if_pos rfl]
      rfl
    · rw [rowAfter_of_ne hs ht]

/-- The only balance that a plan lowers is that of its source. -/
theorem Current.eq_source_of_lt (hp : p.Current l) (hsuits : p.Suits r)
    (ha : l.account? a.id = some a) (hlt : (p.rowAfter a).balance < a.balance) : a = p.source := by
  have hcredit := hsuits.credit_pos
  rcases hp.rowAfter_cases hsuits ha with ⟨hsource, -⟩ | ⟨-, hrow⟩ | ⟨-, -, hrow⟩
  · exact hsource
  · rw [hrow] at hlt
    dsimp only at hlt
    omega
  · rw [hrow] at hlt
    exact absurd hlt (Int.lt_irrefl _)

/-- The only balance that a plan raises is that of its target. -/
theorem Current.eq_target_of_lt (hp : p.Current l) (hsuits : p.Suits r)
    (ha : l.account? a.id = some a) (hlt : a.balance < (p.rowAfter a).balance) : a = p.target := by
  have hdebit := hsuits.debit_pos
  rcases hp.rowAfter_cases hsuits ha with ⟨-, hrow⟩ | ⟨htarget, -⟩ | ⟨-, -, hrow⟩
  · rw [hrow] at hlt
    dsimp only at hlt
    omega
  · exact htarget
  · rw [hrow] at hlt
    exact absurd hlt (Int.lt_irrefl _)

end Plan

end Attempt

/-- The plan behind a receipt: what the accounts were before it can be told from what they
are after it. -/
def TransferReceipt.plan (x : TransferReceipt) : Attempt.Plan where
  source := { x.sourceAccount with
    balance := x.sourceAccount.balance + x.transfer.sourceAmount }
  target := { x.targetAccount with balance := x.targetAccount.balance - x.transfer.amount }
  sourceAmount := x.transfer.sourceAmount
  amount := x.transfer.amount
  exchangeRate := x.transfer.exchangeRate
  sourceBalance := x.sourceAccount.balance
  targetBalance := x.targetAccount.balance

/-- A receipt of a plan is a receipt of no other. -/
theorem Attempt.Plan.Receipts.plan_eq {p : Attempt.Plan} {r : TransferOrder}
    {x : TransferReceipt} (h : p.Receipts x) (hsuits : p.Suits r) : x.plan = p := by
  have hdebit : x.transfer.sourceAmount = p.sourceAmount := by rw [h.transfer]
  have hcredit : x.transfer.amount = p.amount := by rw [h.transfer]
  have hrate : x.transfer.exchangeRate = p.exchangeRate := by rw [h.transfer]
  have hsource : p.sourceBalance + p.sourceAmount = p.source.balance := by
    rw [hsuits.sourceBalance]
    omega
  have htarget : p.targetBalance - p.amount = p.target.balance := by
    rw [hsuits.targetBalance]
    omega
  unfold TransferReceipt.plan
  rw [hdebit, hcredit, hrate, h.source, h.target]
  unfold Attempt.Plan.sourceAfter Attempt.Plan.targetAfter
  rw [hsource, htarget]

end CountingHouse
