/-
Accounts are for ever.

Once an account has been opened it does not vanish, and it keeps its number, its owner, its
currency and the time of its opening. Nobody can do otherwise, in whatever order units lock
and write: a unit writes balances into copies of rows (`ProperCopy`), and a commit replaces a
row by such a copy of itself. So the particulars of the accounts form a list to which a move can
only add (`particulars_make`), and an account is found again behind the move
(`account?_of_particulars`).

The second half is about who has an account. A request for an account is refused if the owner
has one in that currency already; and since neither owners nor currencies change afterwards,
that settles the matter for good (`holders_run_empty`).
-/
import CountingHouse.Proofs.Ledger.Isolation

set_option autoImplicit false

namespace CountingHouse

/-- Everything about an account but its balance. -/
def Account.particulars (a : Account) : AccountId × String × Currency × Instant :=
  (a.id, a.owner, a.currency, a.createdAt)

/-- Whose account it is, and in which currency. -/
def Account.holder (a : Account) : String × Currency := (a.owner, a.currency)

namespace Ledger

variable {l l' : Ledger} {n : UnitId} {u : OpenUnit} {row : AccountId} {a : Account}

/-! ## Particulars -/

/-- A commit replaces a row by one with the same particulars. -/
theorem particulars_apply (h : l.Sound) (hu : l.unit? n = some u) :
    (l.apply u).accounts.map Account.particulars = l.accounts.map Account.particulars := by
  unfold apply
  rw [List.map_map]
  refine List.map_congr_left fun a ha => ?_
  rw [Function.comp_apply]
  rcases hc : u.copy? a.id with _ | c
  · rw [Option.getD_none]
  · -- the copy is one of this very row
    obtain ⟨b, hb, hcb⟩ := (h.copies n u a.id c hu hc).committed
    have hab : a = b := by
      rw [h.account?_of_mem ha] at hb
      exact Option.some.inj hb
    rw [Option.getD_some, hcb, hab]
    rfl

/-- No move takes an account away or changes its particulars; an opening adds those of the new
one at the end. -/
theorem particulars_make (h : l.Sound) (move : Move) :
    l.accounts.map Account.particulars <+: (l.make move).accounts.map Account.particulars := by
  have heffect := l.effect_make move
  generalize l.make move = l' at heffect ⊢
  cases heffect with
  | @opened _ a _ _ _ _ => exact (List.prefix_append l.accounts [a]).map Account.particulars
  | applied hu _ =>
    -- the commit replaces rows by copies
    have hsame := particulars_apply h.takeFault hu
    exact hsame ▸ List.prefix_rfl
  | _ => exact List.prefix_rfl

/-- Where the particulars have only grown, an account is found under its number still. -/
theorem account?_of_particulars (h' : l'.Sound)
    (hgrown : l.accounts.map Account.particulars <+: l'.accounts.map Account.particulars)
    (ha : l.account? row = some a) :
    ∃ b, l'.account? row = some b ∧ b.particulars = a.particulars := by
  obtain ⟨hmem, hid⟩ := account?_spec ha
  have hmem' : a.particulars ∈ l'.accounts.map Account.particulars :=
    hgrown.subset (List.mem_map_of_mem hmem)
  obtain ⟨b, hb, hsame⟩ := List.mem_map.mp hmem'
  have hid' : b.id = row := (congrArg Prod.fst hsame).trans hid
  refine ⟨b, ?_, hsame⟩
  rw [← hid']
  exact h'.account?_of_mem hb

/-! ## Holders -/

/-- A row that is added for a holder without an account gives no holder a second one. -/
theorem holders_addRow (h : (l.accounts.map Account.holder).Nodup)
    (hnew : (l.accounts.any fun b => b.owner == a.owner && b.currency == a.currency) = false) :
    ((l.addRow a).accounts.map Account.holder).Nodup := by
  have hfresh : ∀ b ∈ l.accounts, b.holder ≠ a.holder := by
    intro b hb heq
    have howner : b.owner = a.owner := congrArg Prod.fst heq
    have hcurrency : b.currency = a.currency := congrArg Prod.snd heq
    rw [List.any_eq_false] at hnew
    exact hnew b hb (by simp only [howner, hcurrency, beq_self_eq_true, Bool.and_self])
  unfold addRow
  rw [List.map_append, List.map_singleton, List.nodup_append]
  refine ⟨h, List.nodup_singleton _, ?_⟩
  intro x hx y hy
  obtain ⟨b, hb, rfl⟩ := List.mem_map.mp hx
  rw [List.mem_singleton.mp hy]
  exact hfresh b hb

/-- Rows with the same particulars have the same holders. -/
theorem holders_congr
    (hsame : l'.accounts.map Account.particulars = l.accounts.map Account.particulars) :
    l'.accounts.map Account.holder = l.accounts.map Account.holder := by
  have hholder : Account.holder = (fun p => (p.2.1, p.2.2.1)) ∘ Account.particulars := rfl
  rw [hholder, ← List.map_map, ← List.map_map, hsame]

/-- No move gives a holder a second account in the same currency: an opening asks first, and a
commit changes no particulars. -/
theorem holders_make (h : l.Sound) (hholders : (l.accounts.map Account.holder).Nodup)
    (move : Move) : ((l.make move).accounts.map Account.holder).Nodup := by
  have heffect := l.effect_make move
  generalize l.make move = l' at heffect ⊢
  cases heffect with
  | opened _ _ _ hnew => exact holders_addRow hholders hnew
  | applied hu _ =>
    have hsame := holders_congr (particulars_apply h.takeFault hu)
    exact hsame ▸ hholders
  | _ => exact hholders

/-- Nobody ever has two accounts in one currency. -/
theorem holders_run_empty (moves : List Move) :
    ((empty.run moves).accounts.map Account.holder).Nodup := by
  -- along with the soundness that the induction needs at every move
  have hrun : ∀ l : Ledger, l.Sound → (l.accounts.map Account.holder).Nodup →
      ((l.run moves).accounts.map Account.holder).Nodup := by
    induction moves with
    | nil => exact fun l _ hl => hl
    | cons move moves ih =>
      exact fun l h hl => ih (l.make move) (h.make move) (holders_make h hl move)
  exact hrun empty sound_empty List.nodup_nil

end Ledger

end CountingHouse
