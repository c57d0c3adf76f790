/-
What can be said against an order, and in what order it is said.

The checks of a transfer are spread over its calls: the order is checked before anything else,
the rows are looked up one after the other in the order of their numbers, the caller and the
currency are checked when both are there, then comes the rate, and last the two balances. Here
all of that is one list. Each objection stands for itself and says only when it applies; that it
is raised only if none before it applies is what the list adds, and that nothing else is ever
raised is `verdict_of_none`.

All objections are final. Contention is not among them, so an order that is refused is not tried
again.
-/
import CountingHouse.Proofs.Transfer.Retries

set_option autoImplicit false

namespace CountingHouse

open Attempt

/-! ## The list -/

/-- An objection, where its condition holds. -/
def raiseIf (condition : Prop) [Decidable condition] (e : BankError) : Option BankError :=
  if condition then some e else none

/-- What an order credits to the target and at what rate: the amount itself within one currency,
otherwise what it buys at the current rate, if there is one and it allows that. -/
def TransferOrder.price (r : TransferOrder) (rates : RateTable) (source target : Account) :
    Except BankError (Int × Option Decimal) :=
  if h : source.currency = target.currency then .ok (r.amount, none)
  else match rates.current? ⟨source.currency, target.currency, h⟩ with
    | none => .error (.rateNotFound source.currency target.currency)
    | some row => (convert r.amount row).map fun c => (c.convertedAmount, some row.rate)

/-- What is said against an order when its rows are there. -/
def TransferOrder.objectionsTo (r : TransferOrder) (rates : RateTable) (source target : Account) :
    List (Option BankError) :=
  [raiseIf (source.owner ≠ r.owner) (.unauthorized .notOwner),
    raiseIf (source.currency ≠ r.currency)
      (.currencyMismatch source.id source.currency r.currency),
    match r.price rates source target with
    | .error e => some e
    | .ok _ => none,
    raiseIf (source.balance < r.amount)
      (.insufficientFunds source.id r.amount source.balance),
    match r.price rates source target with
    | .error _ => none
    | .ok (credit, _) =>
      raiseIf (greatestStored < target.balance + credit) (.validation .balanceOverflow)]

/-- What is said against an order on the stores of one moment, first things first. -/
def TransferOrder.objections (r : TransferOrder) (s : Stores) : List (Option BankError) :=
  [raiseIf (r.source = r.target) (.sameAccount r.source),
    raiseIf (r.amount ≤ 0) (.validation (.amountNotPositive r.amount)),
    raiseIf (s.ledger.account? r.lowerRow = none) (.accountNotFound r.lowerRow),
    raiseIf (s.ledger.account? r.higherRow = none) (.accountNotFound r.higherRow)]
  ++ match s.ledger.account? r.source, s.ledger.account? r.target with
    | some source, some target => r.objectionsTo s.rates source target
    | _, _ => []

/-- The first objection that applies. -/
def firstOf (objections : List (Option BankError)) : Option BankError := objections.findSome? id

variable {r : TransferOrder} {s : Stores} {source target : Account} {rates : RateTable}
variable {credit : Int} {rate : Option Decimal} {e : BankError}

@[simp]
theorem firstOf_nil : firstOf [] = none := rfl

@[simp]
theorem firstOf_cons (o : Option BankError) (os : List (Option BankError)) :
    firstOf (o :: os) = o.or (firstOf os) := by
  cases o <;> rfl

/-- An objection is raised where its condition holds. -/
theorem raiseIf_of_pos {condition : Prop} [Decidable condition] (h : condition) :
    raiseIf condition e = some e := if_pos h

/-- An objection is not raised where its condition fails. -/
theorem raiseIf_of_neg {condition : Prop} [Decidable condition] (h : ¬ condition) :
    raiseIf condition e = none := if_neg h

/-! ## The price -/

/-- A plan is made when the price is known. -/
theorem quote_eq (r : TransferOrder) (rates : RateTable) (source target : Account) :
    quote r rates source target
      = (r.price rates source target).bind fun price => plan r source target price.1 price.2 := by
  unfold quote TransferOrder.price
  by_cases hcurrency : source.currency = target.currency
  · rw [dif_pos hcurrency, dif_pos hcurrency]
    rfl
  · rw [dif_neg hcurrency, dif_neg hcurrency]
    rcases rates.current? ⟨source.currency, target.currency, hcurrency⟩ with _ | row
    · rfl
    · rcases hconvert : convert r.amount row with e | conversion
      · simp only [hconvert]
        rfl
      · -- the rate of a conversion is that of the row
        obtain ⟨units, -, -, rfl⟩ := convert_eq_ok_iff.mp hconvert
        simp only [hconvert]
        rfl

/-- What a priced order credits is positive. -/
theorem credit_pos (hpos : 1 ≤ r.amount) (h : r.price rates source target = .ok (credit, rate)) :
    1 ≤ credit := by
  unfold TransferOrder.price at h
  by_cases hcurrency : source.currency = target.currency
  · rw [dif_pos hcurrency] at h
    cases h
    exact hpos
  · rw [dif_neg hcurrency] at h
    rcases hrow : rates.current? ⟨source.currency, target.currency, hcurrency⟩ with _ | row
    · rw [hrow] at h
      cases h
    · rw [hrow] at h
      rcases hconvert : convert r.amount row with e | conversion
      · simp only [hconvert] at h
        cases h
      · obtain ⟨units, -, hone, rfl⟩ := convert_eq_ok_iff.mp hconvert
        simp only [hconvert] at h
        cases h
        exact hone

/-! ## The balances -/

/-- Between stored balances that are not below zero, two things can stand in the way of a plan. -/
theorem plan_eq (rate : Option Decimal) (hpos : 1 ≤ r.amount) (hcredit : 1 ≤ credit)
    (hsource : 0 ≤ source.balance ∧ source.balance ≤ greatestStored)
    (htarget : 0 ≤ target.balance) :
    plan r source target credit rate
      = if source.balance < r.amount then
          .error (.insufficientFunds source.id r.amount source.balance)
        else if greatestStored < target.balance + credit then .error (.validation .balanceOverflow)
        else .ok ⟨source, target, r.amount, credit, rate, source.balance - r.amount,
          target.balance + credit⟩ := by
  unfold plan changedBalance Account.covers
  -- what is left of a covered balance is always in range, so only the new balance of the target can
  -- overflow
  by_cases hfunds : source.balance < r.amount
  · have hcovers : ¬ r.amount ≤ source.balance := by omega
    simp [hfunds, hcovers, bind, Except.bind, throw, throwThe, MonadExceptOf.throw]
  · have hcovers : r.amount ≤ source.balance := by omega
    have hdifference : source.balance + -r.amount = source.balance - r.amount := by omega
    have hleft : IsStored (source.balance - r.amount) := by
      unfold IsStored leastStored
      omega
    by_cases hroom : greatestStored < target.balance + credit
    · have hright : ¬ IsStored (target.balance + credit) := by
        unfold IsStored
        omega
      simp [hfunds, hcovers, hleft, hroom, hright, hdifference, bind, Except.bind, Violation.refuse]
    · have hright : IsStored (target.balance + credit) := by
        unfold IsStored leastStored
        omega
      simp [hfunds, hcovers, hleft, hroom, hright, hdifference, bind, Except.bind, pure,
        Except.pure]

/-! ## The decision -/

/-- The check of the source row asks for the owner first and then for the currency. -/
theorem checkSource_eq (r : TransferOrder) (source : Account) :
    checkSource r source
      = if source.owner ≠ r.owner then .error (.unauthorized .notOwner)
        else if source.currency ≠ r.currency then
          .error (.currencyMismatch source.id source.currency r.currency)
        else .ok () := by
  unfold checkSource Account.belongsTo
  by_cases howner : source.owner = r.owner
  · by_cases hcurrency : source.currency = r.currency
    · simp [howner, hcurrency, pure, Except.pure]
    · simp [howner, hcurrency, throw, throwThe, MonadExceptOf.throw]
  · simp [howner, bind, Except.bind, throw, throwThe, MonadExceptOf.throw]

/-- An account whose balance is not below zero and fits a row. -/
def Account.InRange (a : Account) : Prop := 0 ≤ a.balance ∧ a.balance ≤ greatestStored

/-- The plan for two rows is made, unless there is an objection; then the first one is raised. -/
theorem planFor_cases (rates : RateTable) (hpos : 1 ≤ r.amount) (hsource : source.InRange)
    (htarget : target.InRange) :
    (∃ e, firstOf (r.objectionsTo rates source target) = some e ∧
      planFor r rates source target = .error e) ∨
    (∃ credit rate, firstOf (r.objectionsTo rates source target) = none ∧
      r.price rates source target = .ok (credit, rate) ∧
      planFor r rates source target = .ok ⟨source, target, r.amount, credit, rate,
        source.balance - r.amount, target.balance + credit⟩) := by
  unfold planFor TransferOrder.objectionsTo
  rw [checkSource_eq, quote_eq]
  simp only [firstOf_cons, firstOf_nil, Option.or_none]
  -- in the order of the checks: what has been found out so far is no objection
  by_cases howner : source.owner ≠ r.owner
  · refine .inl ⟨.unauthorized .notOwner, ?_, ?_⟩
    · rw [raiseIf_of_pos howner, Option.some_or]
    · rw [if_pos howner]
      rfl
  · rw [raiseIf_of_neg howner, if_neg howner, Option.none_or]
    by_cases hcurrency : source.currency ≠ r.currency
    · refine .inl ⟨.currencyMismatch source.id source.currency r.currency, ?_, ?_⟩
      · rw [raiseIf_of_pos hcurrency, Option.some_or]
      · rw [if_pos hcurrency]
        rfl
    · rw [raiseIf_of_neg hcurrency, if_neg hcurrency, Option.none_or]
      rcases hprice : r.price rates source target with e | ⟨credit, rate⟩
      · exact .inl ⟨e, rfl, rfl⟩
      · -- with a price the two balances decide, the source's first
        have hmade := plan_eq rate hpos (credit_pos hpos hprice) hsource htarget.1
        by_cases hfunds : source.balance < r.amount
        · refine .inl ⟨.insufficientFunds source.id r.amount source.balance, ?_, ?_⟩
          · rw [raiseIf_of_pos hfunds]
            rfl
          · rw [if_pos hfunds] at hmade
            exact hmade
        · rw [if_neg hfunds] at hmade
          by_cases hroom : greatestStored < target.balance + credit
          · refine .inl ⟨.validation .balanceOverflow, ?_, ?_⟩
            · rw [raiseIf_of_neg hfunds]
              exact raiseIf_of_pos hroom
            · rw [if_pos hroom] at hmade
              exact hmade
          · refine .inr ⟨credit, rate, ?_, rfl, ?_⟩
            · rw [raiseIf_of_neg hfunds]
              exact raiseIf_of_neg hroom
            · rw [if_neg hroom] at hmade
              exact hmade

/-- The check of an order asks for two different accounts first and then for a positive amount. -/
theorem check_eq (r : TransferOrder) :
    r.check = if r.source = r.target then .error (.sameAccount r.source)
      else if r.amount ≤ 0 then .error (.validation (.amountNotPositive r.amount)) else .ok r := by
  unfold TransferOrder.check positiveAmount
  by_cases hsame : r.source = r.target
  · rw [if_pos hsame, if_pos hsame]
    rfl
  · rw [if_neg hsame, if_neg hsame]
    by_cases hamount : r.amount ≤ 0
    · rw [if_pos hamount, if_pos hamount]
      rfl
    · rw [if_neg hamount, if_neg hamount]
      rfl

/-- An order is planned, unless there is an objection; then the first one is raised. -/
theorem verdict_cases (r : TransferOrder) (hrange : ∀ a ∈ s.ledger.accounts, a.InRange) :
    (∃ e, firstOf (r.objections s) = some e ∧ r.verdict s = .error e) ∨
    (∃ source target credit rate, firstOf (r.objections s) = none ∧ r.check = .ok r ∧
      s.ledger.account? r.source = some source ∧ s.ledger.account? r.target = some target ∧
      r.price s.rates source target = .ok (credit, rate) ∧
      planOn r s = .ok ⟨source, target, r.amount, credit, rate, source.balance - r.amount,
        target.balance + credit⟩) := by
  unfold TransferOrder.verdict TransferOrder.objections
  rw [check_eq]
  simp only [List.cons_append, List.nil_append, firstOf_cons]
  by_cases hsame : r.source = r.target
  · refine .inl ⟨.sameAccount r.source, ?_, ?_⟩
    · rw [raiseIf_of_pos hsame, Option.some_or]
    · rw [if_pos hsame]
      rfl
  · rw [raiseIf_of_neg hsame, if_neg hsame, Option.none_or]
    by_cases hamount : r.amount ≤ 0
    · refine .inl ⟨.validation (.amountNotPositive r.amount), ?_, ?_⟩
      · rw [raiseIf_of_pos hamount, Option.some_or]
      · rw [if_pos hamount]
        rfl
    · rw [raiseIf_of_neg hamount, if_neg hamount, Option.none_or]
      -- the rows come in the order of their numbers
      rcases hlower : s.ledger.account? r.lowerRow with _ | lower
      · refine .inl ⟨.accountNotFound r.lowerRow, by rw [raiseIf_of_pos rfl, Option.some_or], ?_⟩
        show planOn r s = _
        unfold planOn committedRow
        rw [hlower]
        rfl
      · rw [raiseIf_of_neg (by simp), Option.none_or]
        rcases hhigher : s.ledger.account? r.higherRow with _ | higher
        · refine .inl ⟨.accountNotFound r.higherRow, by rw [raiseIf_of_pos rfl, Option.some_or], ?_⟩
          show planOn r s = _
          unfold planOn committedRow
          rw [hlower, hhigher]
          rfl
        · rw [raiseIf_of_neg (by simp), Option.none_or]
          obtain ⟨hsource, htarget⟩ := account?_sides hsame hlower hhigher
          generalize sides r lower higher = both at hsource htarget
          obtain ⟨source, target⟩ := both
          have hplan := planOn_of_rows hsame hsource htarget
          rw [hsource, htarget]
          have hpos : 1 ≤ r.amount := by omega
          rcases planFor_cases s.rates hpos
              (hrange source (Ledger.account?_spec hsource).1)
              (hrange target (Ledger.account?_spec htarget).1) with
            ⟨e, hobjection, hrefused⟩ | ⟨credit, rate, hnone, hprice, hmade⟩
          · exact .inl ⟨e, hobjection, hplan.trans hrefused⟩
          · exact .inr ⟨source, target, credit, rate, hnone, rfl, rfl, rfl, hprice,
              hplan.trans hmade⟩

/-! ## Finality -/

/-- The only way in which the purchase of whole units fails is that they are out of range. -/
theorem eq_of_wholeUnits_error {amount : Int} {d : Decimal} (h : wholeUnits amount d = .error e) :
    e = .validation .conversionOutOfRange := by
  unfold wholeUnits at h
  rcases hproduct : (Decimal.ofParts? amount 0).bind fun factor => Decimal.mul? factor d with
    _ | product
  · rw [hproduct] at h
    exact (Except.error.inj h).symm
  · by_cases hstored : IsStored product.floor
    · simp only [hproduct, if_pos hstored] at h
      cases h
    · simp only [hproduct, if_neg hstored] at h
      exact (Except.error.inj h).symm

/-- A search for an amount that buys something ends with one or at the end of the range. -/
theorem eq_of_firstBuying_error {d : Decimal} {tries : Nat} {candidate : Int}
    (h : firstBuying d tries candidate = .error e) : e = .validation .conversionOutOfRange := by
  induction tries generalizing candidate with
  | zero => exact (Except.error.inj h).symm
  | succ tries ih =>
    unfold firstBuying at h
    rcases hunits : wholeUnits candidate d with e' | units
    · simp only [hunits] at h
      obtain rfl := Except.error.inj h
      exact eq_of_wholeUnits_error hunits
    · simp only [hunits] at h
      by_cases hsmall : units < 1
      · rw [if_pos hsmall] at h
        exact ih h
      · rw [if_neg hsmall] at h
        cases h

/-- A least amount that is not found is told as invalid. -/
theorem exists_of_leastAmount_error {d : Decimal} (h : leastAmount d = .error e) :
    ∃ violation, e = .validation violation := by
  unfold leastAmount at h
  by_cases hone : d.isAtLeastOne = true
  · rw [if_pos hone] at h
    cases h
  · rw [if_neg hone] at h
    rcases hinverse : Decimal.div? Decimal.one d with _ | inverse
    · rw [hinverse] at h
      exact ⟨_, (Except.error.inj h).symm⟩
    · by_cases hstored : IsStored inverse.ceil
      · simp only [hinverse, if_pos hstored] at h
        exact ⟨_, eq_of_firstBuying_error h⟩
      · simp only [hinverse, if_neg hstored] at h
        exact ⟨_, (Except.error.inj h).symm⟩

/-- A conversion is refused for good. -/
theorem mayRetry_of_convert_error {amount : Int} {row : ExchangeRate}
    (h : convert amount row = .error e) : e.mayRetry = false := by
  unfold convert at h
  rcases hunits : wholeUnits amount row.rate with e' | units
  · rw [hunits] at h
    obtain rfl : e' = e := Except.error.inj h
    rw [eq_of_wholeUnits_error hunits]
    rfl
  · rw [hunits] at h
    by_cases hsmall : units < 1
    · rcases hleast : leastAmount row.rate with e' | least
      · simp only [hsmall, hleast, if_true, bind, Except.bind] at h
        obtain rfl : e' = e := Except.error.inj h
        obtain ⟨violation, rfl⟩ := exists_of_leastAmount_error hleast
        rfl
      · simp only [hsmall, hleast, if_true, bind, Except.bind] at h
        obtain rfl := Except.error.inj h
        rfl
    · simp only [hsmall, if_false, bind, Except.bind] at h
      cases h

/-- Whatever is wrong with the price of an order, the same order cannot be tried again. -/
theorem mayRetry_of_price_error (h : r.price rates source target = .error e) :
    e.mayRetry = false := by
  unfold TransferOrder.price at h
  by_cases hcurrency : source.currency = target.currency
  · rw [dif_pos hcurrency] at h
    cases h
  · rw [dif_neg hcurrency] at h
    rcases hrow : rates.current? ⟨source.currency, target.currency, hcurrency⟩ with _ | row
    · rw [hrow] at h
      obtain rfl := Except.error.inj h
      rfl
    · rw [hrow] at h
      rcases hconvert : convert r.amount row with e' | conversion
      · simp only [hconvert] at h
        obtain rfl : e' = e := Except.error.inj h
        exact mayRetry_of_convert_error hconvert
      · simp only [hconvert] at h
        cases h

/-- An objection that, where it is raised, is final. -/
def IsFinal (o : Option BankError) : Prop := ∀ e, o = some e → e.mayRetry = false

/-- No objection is final. -/
theorem isFinal_none : IsFinal none := fun _ h => nomatch h

/-- An objection is final if its error may not be retried. -/
theorem isFinal_raiseIf (condition : Prop) [Decidable condition] (h : e.mayRetry = false) :
    IsFinal (raiseIf condition e) := by
  intro e' he'
  unfold raiseIf at he'
  by_cases hcondition : condition
  · rw [if_pos hcondition] at he'
    rw [← Option.some.inj he']
    exact h
  · rw [if_neg hcondition] at he'
    cases he'

/-- Every objection to an order whose rows are there is final. -/
theorem isFinal_objectionsTo (r : TransferOrder) (rates : RateTable) (source target : Account) :
    ∀ o ∈ r.objectionsTo rates source target, IsFinal o := by
  unfold TransferOrder.objectionsTo
  rcases hprice : r.price rates source target with e | ⟨credit, rate⟩
  · simp only [List.forall_mem_cons]
    refine ⟨isFinal_raiseIf _ rfl, isFinal_raiseIf _ rfl, ?_, isFinal_raiseIf _ rfl, isFinal_none,
      by simp⟩
    intro e' he'
    rw [← Option.some.inj he']
    exact mayRetry_of_price_error hprice
  · simp only [List.forall_mem_cons]
    exact ⟨isFinal_raiseIf _ rfl, isFinal_raiseIf _ rfl, isFinal_none, isFinal_raiseIf _ rfl,
      isFinal_raiseIf _ rfl, by simp⟩

/-- No objection goes away when the order is tried again. -/
theorem mayRetry_of_objection (h : firstOf (r.objections s) = some e) : e.mayRetry = false := by
  have hfinal : ∀ o ∈ r.objections s, IsFinal o := by
    unfold TransferOrder.objections
    refine List.forall_mem_append.mpr ⟨?_, ?_⟩
    · simp only [List.forall_mem_cons]
      exact ⟨isFinal_raiseIf _ rfl, isFinal_raiseIf _ rfl, isFinal_raiseIf _ rfl,
        isFinal_raiseIf _ rfl, by simp⟩
    · -- nothing more is said unless both rows are there
      rcases s.ledger.account? r.source with _ | source
      · simp
      · rcases s.ledger.account? r.target with _ | target
        · simp
        · exact isFinal_objectionsTo r s.rates source target
  obtain ⟨o, ho, he⟩ := List.exists_of_findSome?_eq_some h
  exact hfinal o ho e he

end CountingHouse
