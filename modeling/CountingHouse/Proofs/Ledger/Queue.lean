/-
Who is open, and who waits for what.

The first half is about the names of the open units (`openIds`): a unit is there from its
beginning to its end, under a name that nobody else has. The second half is about the queue.
A ticket gets there in one way only, by a request that has to wait, and a request that is
answered otherwise leaves none behind. Accounts are for ever, so every ticket is for a row
that exists (`Tidy`).

A row that nobody holds is kept for whoever asked for it first, and that unit can have it now
(`exists_mayLock`). So the queue never delays everybody.
-/
import CountingHouse.Proofs.Ledger.Holders

set_option autoImplicit false

namespace CountingHouse

namespace Ledger

variable {l : Ledger} {n : UnitId} {u : OpenUnit} {row : AccountId} {move : Move}
variable {ticket : UnitId × AccountId}

/-! ## The open units -/

/-- The names of the open units. -/
def openIds (l : Ledger) : List UnitId := l.units.map OpenUnit.id

/-- The open units are those that are found. -/
theorem mem_openIds : n ∈ l.openIds ↔ ∃ u, l.unit? n = some u := by
  constructor
  · intro hn
    obtain ⟨u, hu, hid⟩ := List.mem_map.mp hn
    have hfound : (l.unit? n).isSome = true :=
      List.find?_isSome.mpr ⟨u, hu, beq_iff_eq.mpr hid⟩
    exact Option.isSome_iff_exists.mp hfound
  · rintro ⟨u, hu⟩
    exact List.mem_map.mpr ⟨u, mem_units_of_unit? hu, id_of_unit? hu⟩

/-- A change of a unit that leaves its number alone leaves the list of open units alone. -/
theorem openIds_modifyUnit (l : Ledger) (n : UnitId) (change : OpenUnit → OpenUnit)
    (hchange : ∀ u, (change u).id = u.id) : (l.modifyUnit n change).openIds = l.openIds := by
  unfold openIds modifyUnit
  rw [List.map_map]
  refine List.map_congr_left fun u _ => ?_
  by_cases hu : (u.id == n) = true
  · rw [Function.comp_apply, if_pos hu, hchange]
  · rw [Function.comp_apply, if_neg hu]

/-- Dropping a unit takes it off the list, and nobody else. -/
theorem openIds_dropUnit (l : Ledger) (n : UnitId) :
    (l.dropUnit n).openIds = l.openIds.filter fun m => m != n := by
  unfold openIds dropUnit
  rw [List.filter_map]
  rfl

/-- A new unit goes to the end of the list. -/
theorem openIds_beginUnit (l : Ledger) :
    l.beginUnit.2.openIds = l.openIds ++ [⟨l.nextUnit⟩] := by
  unfold openIds beginUnit
  rw [List.map_append]
  rfl

/-- Every end of a unit takes it off the list, and nobody else. -/
theorem openIds_end (l : Ledger) (hends : move.Ends n) :
    (l.make move).openIds = l.openIds.filter fun m => m != n := by
  rcases hends with rfl | rfl
  · rw [make]
    rcases commit_cases l n with ⟨-, hcommit⟩ | ⟨u, -, -, hcommit⟩ | ⟨-, -, hcommit⟩
    all_goals
      rw [hcommit]
      exact openIds_dropUnit _ n
  · exact openIds_dropUnit l n

/-- Between beginning and end, nothing changes about who is open. -/
theorem openIds_make (l : Ledger) (hbegin : move ≠ .begin) (hends : ∀ n, ¬ move.Ends n) :
    (l.make move).openIds = l.openIds := by
  have heffect := l.effect_make move
  generalize l.make move = l' at heffect ⊢
  -- a change of a unit leaves its name alone, and nothing else concerns the list
  cases heffect with
  | begun => exact absurd rfl hbegin
  | applied _ _ => exact absurd (.inl rfl) (hends _)
  | refused k => exact absurd (.inl rfl) (hends k)
  | dropped k => exact absurd (.inr rfl) (hends k)
  | granted _ _ _ _ => exact openIds_modifyUnit _ _ _ fun _ => rfl
  | recordedTransfer k source target amount sourceAmount exchangeRate now =>
    exact openIds_modifyUnit _ k _ fun _ => rfl
  | recordedEntry k account transfer amount now => exact openIds_modifyUnit _ k _ fun _ => rfl
  | written _ _ _ => exact openIds_modifyUnit l _ _ fun _ => rfl
  | _ => rfl

/-! ## The queue -/

/-- A ticket is an old one, or that of a request which has to wait. -/
theorem queue_make (l : Ledger) (move : Move) (hticket : ticket ∈ (l.make move).queue) :
    ticket ∈ l.queue ∨
      (move = .lock ticket.1 ticket.2 ∧ (l.lock ticket.1 ticket.2).1 = .waiting ∧
        ∃ a, l.account? ticket.2 = some a) := by
  have heffect := l.effect_make move
  generalize l.make move = l' at heffect hticket
  cases heffect with
  | @waits n row u a queue hu ha hanswer hqueue =>
    -- the only ticket that can be new is that of the request itself
    rcases hqueue ticket hticket with hold | rfl
    · exact .inl hold
    · exact .inr ⟨rfl, hanswer, a, ha⟩
  -- whoever is served, leaves or ends takes tickets off the queue
  | granted _ _ _ _ => exact .inl (List.mem_filter.mp hticket).1
  | left n row => exact .inl (List.mem_filter.mp hticket).1
  | applied _ _ => exact .inl (List.mem_filter.mp hticket).1
  | refused n => exact .inl (List.mem_filter.mp hticket).1
  | dropped n => exact .inl (List.mem_filter.mp hticket).1
  | _ => exact .inl hticket

/-- What holds of units and tickets on every ledger. -/
structure Tidy (l : Ledger) : Prop where
  nodup : l.openIds.Nodup
  rows : ∀ ticket ∈ l.queue, ∃ a, l.account? ticket.2 = some a

/-- An open unit is found under its number. -/
theorem Tidy.unit?_of_mem (h : l.Tidy) (hu : u ∈ l.units) : l.unit? u.id = some u :=
  find?_key_of_mem OpenUnit.id h.nodup hu

/-- No move makes a unit appear twice or leaves a ticket in the queue for a row that is not
there. -/
theorem Tidy.make (h : l.Tidy) (hsound : l.Sound) (move : Move) : (l.make move).Tidy := by
  constructor
  · by_cases hends : ∃ n, move.Ends n
    · obtain ⟨n, hends⟩ := hends
      rw [openIds_end l hends]
      exact h.nodup.filter _
    · by_cases hbegin : move = .begin
      · -- the name of the unit that begins is above all names in use
        have hfresh : (⟨l.nextUnit⟩ : UnitId) ∉ l.openIds := by
          intro hmem
          obtain ⟨u, hu⟩ := mem_openIds.mp hmem
          exact absurd (hsound.unit_lt _ u hu) (Nat.lt_irrefl _)
        rw [hbegin, Ledger.make, openIds_beginUnit, ← List.concat_eq_append]
        exact h.nodup.concat hfresh
      · rw [openIds_make l hbegin fun n hn => hends ⟨n, hn⟩]
        exact h.nodup
  · intro ticket hticket
    have hold : ∃ a, l.account? ticket.2 = some a := by
      rcases queue_make l move hticket with hold | ⟨-, -, hrow⟩
      · exact h.rows ticket hold
      · exact hrow
    obtain ⟨a, ha⟩ := hold
    obtain ⟨b, hb, -⟩ :=
      account?_of_particulars (hsound.make move) (particulars_make hsound move) ha
    exact ⟨b, hb⟩

/-- Whatever is done to an empty ledger, its units and its queue are in order. -/
theorem tidy_run_empty (moves : List Move) : (empty.run moves).Tidy := by
  have hrun : ∀ l : Ledger, l.Sound → l.Tidy → (l.run moves).Tidy := by
    induction moves with
    | nil => exact fun _ _ h => h
    | cons move moves ih =>
      exact fun l hsound h => ih (l.make move) (hsound.make move) (h.make hsound move)
  exact hrun empty sound_empty
    ⟨List.nodup_nil, fun ticket hticket => absurd hticket List.not_mem_nil⟩

/-- A request that need not wait leaves no ticket behind. -/
theorem Tidy.not_queued_of_lock (h : l.Tidy) (hu : l.unit? n = some u)
    (hc : u.copy? row = none) (hanswer : (l.lock n row).1 ≠ .waiting) :
    (n, row) ∉ (l.lock n row).2.queue := by
  rcases lock_cases l n row with ⟨v, a, hv, hcopy, -⟩ | ⟨hmissing, hlock⟩ |
    ⟨v, a, -, -, -, -, hlock⟩ | ⟨v, a, queue, -, -, -, -, -, hlock⟩
  · rw [hu] at hv
    obtain rfl := Option.some.inj hv
    rw [hc] at hcopy
    cases hcopy
  · -- nobody waits for a row that does not exist
    have hnone : l.account? row = none := hmissing.resolve_left (by simp [hu])
    rw [hlock]
    intro hticket
    obtain ⟨a, ha⟩ := h.rows _ hticket
    rw [hnone] at ha
    cases ha
  · rw [hlock]
    intro hticket
    have hkept := (List.mem_filter.mp hticket).2
    rw [bne_self_eq_false] at hkept
    cases hkept
  · rw [hlock] at hanswer
    exact absurd rfl hanswer

/-- Of those who wait for a row that nobody holds, one may have it. -/
theorem exists_mayLock (hfree : ∀ u ∈ l.units, u.holds row = false)
    (hmay : l.mayLock n row = false) :
    ∃ m, m ≠ n ∧ (m, row) ∈ l.queue ∧ l.mayLock m row = true := by
  have hunits : ∀ m, (l.units.all fun u => u.id == m || !u.holds row) = true := by
    intro m
    rw [List.all_eq_true]
    intro u hu
    rw [hfree u hu]
    exact Bool.or_true _
  unfold mayLock at hmay ⊢
  rw [hunits, Bool.true_and] at hmay
  rcases hfirst : l.queue.find? fun ticket => ticket.2 == row with _ | ⟨m, other⟩
  · rw [hfirst] at hmay
    cases hmay
  · -- the first ticket for the row is that of somebody else
    have hrow : other = row := by simpa using List.find?_some hfirst
    subst hrow
    rw [hfirst, Option.all_some] at hmay
    refine ⟨m, by simpa using hmay, List.mem_of_find?_eq_some hfirst, ?_⟩
    rw [hunits, hfirst, Option.all_some, beq_self_eq_true, Bool.and_self]

end Ledger

end CountingHouse
