/-
Who may change a balance.

`Guarded` compares the ledger before something happened with the ledger after it, in the light
of the orders that were being carried out meanwhile. Money leaves an account only by an order
of its owner, in its currency, and then it is the amount of the order. Money reaches an account
only by an order that takes money from its source at the same time. Everything else about an
account stays as it is.

Two things can happen to the accounts at all: one is opened, or a plan is settled. A plan is
settled by the last call of an attempt, whose result is not one to try again.
-/
import CountingHouse.Proofs.Ledger.Holders
import CountingHouse.Proofs.Transfer.Orderly

set_option autoImplicit false

namespace CountingHouse

open Attempt

/-! ## Authority -/

/-- An order that has authority over an account, and the account when it has been debited. -/
structure TransferOrder.Debits (r : TransferOrder) (a b : Account) : Prop where
  owner : r.owner = a.owner
  source : r.source = a.id
  currency : r.currency = a.currency
  positive : 1 ≤ r.amount
  debited : b.balance = a.balance - r.amount

/-- What has happened to the accounts of a ledger while some orders were carried out. -/
structure Ledger.Guarded (orders : TransferOrder → Prop) (l l' : Ledger) : Prop where
  /-- A balance falls only by the order of the owner, and by the amount of it. -/
  debited : ∀ row a b, l.account? row = some a → l'.account? row = some b →
    b.balance < a.balance → ∃ r, orders r ∧ r.Debits a b
  /-- A balance rises only by an order that debits its source. -/
  credited : ∀ row a b, l.account? row = some a → l'.account? row = some b →
    a.balance < b.balance → ∃ r, orders r ∧ r.target = row ∧
      ∃ c d, l.account? r.source = some c ∧ l'.account? r.source = some d ∧ r.Debits c d
  /-- An account stays, with the same owner and the same currency. -/
  lasting : ∀ row a, l.account? row = some a →
    ∃ b, l'.account? row = some b ∧ b.particulars = a.particulars

variable {orders : TransferOrder → Prop} {l l' : Ledger} {r : TransferOrder} {p : Plan}

namespace Ledger

/-- What some orders account for is accounted for by more of them. -/
theorem Guarded.mono {more : TransferOrder → Prop} (h : Guarded orders l l')
    (horders : ∀ r, orders r → more r) : Guarded more l l' where
  debited := by
    intro row a b ha hb hlt
    obtain ⟨r, hr, hdebits⟩ := h.debited row a b ha hb hlt
    exact ⟨r, horders r hr, hdebits⟩
  credited := by
    intro row a b ha hb hlt
    obtain ⟨r, hr, hcredits⟩ := h.credited row a b ha hb hlt
    exact ⟨r, horders r hr, hcredits⟩
  lasting := h.lasting

/-- What happened to the accounts is told from the accounts only, so the rest of the first ledger
may be another one. -/
theorem Guarded.of_same {l₁ : Ledger} (h : Guarded orders l₁ l')
    (hsame : l₁.accounts = l.accounts) : Guarded orders l l' := by
  have hfind : ∀ row, l₁.account? row = l.account? row := by
    intro row
    unfold account?
    rw [hsame]
  refine ⟨?_, ?_, ?_⟩
  · intro row a b ha
    rw [← hfind] at ha
    exact h.debited row a b ha
  · intro row a b ha
    rw [← hfind] at ha
    intro hb hlt
    obtain ⟨r, hr, htarget, c, d, hc, hd, hdebits⟩ := h.credited row a b ha hb hlt
    rw [hfind] at hc
    exact ⟨r, hr, htarget, c, d, hc, hd, hdebits⟩
  · intro row a ha
    rw [← hfind] at ha
    exact h.lasting row a ha

/-- Where every account is found as it was, nobody's authority is needed. -/
theorem guarded_of_found (h : ∀ row a, l.account? row = some a → l'.account? row = some a) :
    Guarded orders l l' := by
  have hsame : ∀ row a b, l.account? row = some a → l'.account? row = some b → b = a := by
    intro row a b ha hb
    exact Option.some.inj (hb.symm.trans (h row a ha))
  refine ⟨?_, ?_, fun row a ha => ⟨a, h row a ha, rfl⟩⟩
  · intro row a b ha hb hlt
    rw [hsame row a b ha hb] at hlt
    exact absurd hlt (Int.lt_irrefl _)
  · intro row a b ha hb hlt
    rw [hsame row a b ha hb] at hlt
    exact absurd hlt (Int.lt_irrefl _)

/-- Where the accounts are as they were, nobody's authority is needed. -/
theorem guarded_of_same (h : l'.accounts = l.accounts) : Guarded orders l l' := by
  refine guarded_of_found fun row a ha => ?_
  unfold account? at ha ⊢
  rw [h]
  exact ha

/-- An opening adds an account and changes none. -/
theorem guarded_of_opening (request : Opening) (now : Instant)
    (h : l'.accounts = (request.apply now l).2.accounts) : Guarded orders l l' := by
  rcases request.apply_congr now (l := l) rfl (fun _ _ => rfl) with
    ⟨e, happly, -⟩ | ⟨a, -, -, happly, -⟩
  · rw [happly] at h
    exact guarded_of_same h
  · rw [happly] at h
    refine guarded_of_found fun row b hb => ?_
    have hfound : (l.addRow a).account? row = some b := account?_addRow a hb
    unfold account? at hfound ⊢
    rw [h]
    exact hfound

/-- A plan that is settled debits its source as its order says. -/
theorem debits_rowAfter (hp : p.Sealed r) : r.Debits p.source (p.rowAfter p.source) := by
  have hsuits := hp.suits
  refine ⟨hsuits.owner.symm, hsuits.source_id.symm, hsuits.currency.symm, ?_, ?_⟩
  · rw [← hsuits.debited]
    exact hsuits.debit_pos
  · rw [Plan.rowAfter, if_pos rfl, ← hsuits.debited]
    exact hsuits.sourceBalance

/-- A plan is settled by the authority of its order. -/
theorem guarded_of_settle (hp : p.Sealed r) (hcurrent : p.Current l)
    (h : l'.accounts = p.settle l.accounts) : Guarded (fun s => s = r) l l' := by
  have hfind := p.account?_settle h
  have hafter : ∀ {row : AccountId} {a b : Account}, l.account? row = some a →
      l'.account? row = some b → p.rowAfter a = b := by
    intro row a b ha hb
    rw [hfind, ha, Option.map_some] at hb
    exact Option.some.inj hb
  have hsuits := hp.suits
  refine ⟨?_, ?_, ?_⟩
  · -- who has less is the source
    intro row a b ha hb hlt
    obtain rfl := hafter ha hb
    obtain rfl := hcurrent.eq_source_of_lt hsuits (account?_id ha) hlt
    exact ⟨r, rfl, debits_rowAfter hp⟩
  · -- who has more is the target, and the source is found beside it
    intro row a b ha hb hlt
    obtain rfl := hafter ha hb
    obtain rfl := hcurrent.eq_target_of_lt hsuits (account?_id ha) hlt
    have hsource : l.account? r.source = some p.source := by
      rw [← hsuits.source_id]
      exact hcurrent.source
    refine ⟨r, rfl, ?_, p.source, p.rowAfter p.source, hsource, ?_, debits_rowAfter hp⟩
    · rw [← hsuits.target_id, (account?_spec ha).2]
    · rw [hfind, hsource, Option.map_some]
  · intro row a ha
    refine ⟨p.rowAfter a, ?_, ?_⟩
    · rw [hfind, ha, Option.map_some]
    · rw [hcurrent.rowAfter_eq (account?_id ha)]
      rfl

end Ledger

/-! ## The call that settles a plan -/

namespace Floor

variable {f : Floor} {i : Nat} {a : Pending}

/-- Moving an attempt on touches no store. -/
theorem stores_follow {bound : Nat} (outcome : Option (Outcome bound)) (f : Floor) :
    (f.follow i r outcome).stores = f.stores := by
  rcases outcome with _ | (⟨later, closer⟩ | result)
  all_goals rfl

/-- Moving an attempt on touches no other attempt. -/
theorem attempts_follow_of_ne {bound j : Nat} (hj : j ≠ i) (outcome : Option (Outcome bound))
    (f : Floor) : (f.follow i r outcome).attempts j = f.attempts j := by
  rcases outcome with _ | (⟨later, closer⟩ | result)
  · rfl
  · exact if_neg hj
  · exact if_neg hj

/-- A call of an attempt leaves the accounts alone, or it settles a plan for its order and the
attempt is over. -/
theorem accounts_advance (h : f.Orderly) (hi : f.attempts i = some a) :
    (f.step (.advance i)).stores.ledger.accounts = f.stores.ledger.accounts ∨
    ∃ (p : Plan) (receipt : TransferReceipt), p.Sealed a.order ∧ p.Current f.stores.ledger ∧
      (f.step (.advance i)).stores.ledger.accounts = p.settle f.stores.ledger.accounts ∧
      (Attempt.advance .memory a.order a.stage f.stores).1
        = some (.over ((Ledger.acknowledgement f.stores.ledger.faults.head?).map
          fun _ => receipt)) := by
  have hturn := turn_of_fits h.sound h.rates (h.checked i a hi) (h.fits i a hi)
  rw [step_advance_eq hi, stores_follow]
  -- it waits, goes on or rolls back, and then the books are left alone, or it commits
  rcases hturn with ⟨hquiet, -, -⟩ | ⟨hquiet, -, -⟩ | hstage | ⟨hstage, hp, hb⟩
  · obtain ⟨⟨haccounts, -⟩, -⟩ := called_quiet hquiet
    exact .inl haccounts
  · obtain ⟨⟨haccounts, -⟩, -⟩ := called_quiet hquiet
    exact .inl haccounts
  · obtain ⟨r, stage⟩ := a
    rename_i n e
    obtain rfl : stage = .calling (.rollback n e) := hstage
    exact .inl rfl
  · obtain ⟨r, stage⟩ := a
    rename_i n p receipt
    obtain rfl : stage = .calling (.commit n receipt) := hstage
    have hledger : (f.called ⟨r, .calling (.commit n receipt)⟩).stores.ledger
        = (f.stores.ledger.commit n).2 := rfl
    by_cases hf : f.stores.ledger.faults.head? = some .contention
    · -- a commit that is refused drops the unit and nothing else
      refine .inl ?_
      rw [hledger, Ledger.commit_of_contention n hf]
      rfl
    · obtain ⟨_, _, _, _, hcarry⟩ := hb.carrying
      obtain ⟨-, hcommit⟩ := bears_commit hb hf
      refine .inr ⟨p, receipt, hp, ⟨hcarry.source_row, hcarry.target_row⟩, ?_, ?_⟩
      · rw [hledger, hcommit]
        rfl
      · have hcall : (Attempt.advance .memory r (.calling (.commit n receipt)) f.stores).1
            = some (.over ((f.stores.ledger.commit n).1.map fun _ => receipt)) := rfl
        rw [hcall, hcommit]

end Floor

end CountingHouse
