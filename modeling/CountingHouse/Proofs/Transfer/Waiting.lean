/-
Attempts do not lock each other out.

An attempt asks for the row with the lower number first, so whatever it holds while it asks
is below what it asks for. Along the relation "waits for a row that the other one holds" the
rows therefore rise, and a chain of attempts never comes back to where it started.

That alone does not say that somebody can go on. A lock might be held by a unit whose attempt
is gone, or a row might be kept for somebody who does not come for it any more. `Attended`
excludes both: every open unit is that of an attempt under way, and every ticket in the queue
is the request that some attempt makes at this moment. It holds because an attempt that ends,
in whatever way, ends its unit with it, and because a request that is answered leaves the
queue.

With that, somebody can always go on (`Attended.progress`). Who cannot go on asks for a row
that another attempt holds, or that is kept for another attempt which can go on; and the
former cannot be repeated for ever, because the rows rise and there are only so many.
-/
import CountingHouse.Proofs.Transfer.Orderly
import Mathlib.Logic.Relation

set_option autoImplicit false

namespace CountingHouse

open Attempt

namespace Attempt

variable {r : TransferOrder} {l : Ledger} {n m : UnitId} {row : AccountId} {stage later : Stage}
variable {s : Stores} {ticket : UnitId × AccountId}

/-! ## Requests -/

/-- An attempt that asks for a row holds rows with lower numbers only. -/
theorem Fits.asks (hf : Fits r l stage) (hchecked : Checked r)
    (hrequest : stage.request? r = some (n, row)) :
    ∃ u, l.unit? n = some u ∧ ∀ held, u.holds held = true → held < row := by
  rcases hf with - | hg | ⟨-, hb⟩ | -
  · cases hrequest
  · rcases hg with hunit | ⟨hrow, hunit⟩ | -
    · -- nothing is held yet
      cases hrequest
      refine ⟨_, hunit, ?_⟩
      rintro held ⟨⟩
    · -- the lower row is held
      rename_i lower
      cases hrequest
      refine ⟨_, hunit, ?_⟩
      intro held hheld
      have hid : lower.id = held := by simpa [OpenUnit.holds] using hheld
      rw [← hid, (Ledger.account?_spec hrow).2]
      exact lowerRow_lt_higherRow hchecked.distinct
    · cases hrequest
  · rcases hb with - | - | - | - | - | -
    all_goals cases hrequest
  · cases hrequest

/-- An attempt does not hold the row that it asks for. -/
theorem Fits.not_held (hf : Fits r l stage) (hchecked : Checked r)
    (hrequest : stage.request? r = some (n, row)) :
    ∃ u, l.unit? n = some u ∧ u.copy? row = none := by
  obtain ⟨u, hu, hbelow⟩ := hf.asks hchecked hrequest
  refine ⟨u, hu, ?_⟩
  rcases hcopy : u.copy? row with _ | c
  · rfl
  · have hholds : u.holds row = true := by
      rw [OpenUnit.holds_eq_isSome, hcopy, Option.isSome_some]
    exact absurd (hbelow row hholds) (Int.lt_irrefl row.number)

/-- An attempt that locks a row asks for it. -/
theorem move?_of_lock {now : Instant} (h : stage.move? r now = some (.lock n row)) :
    stage.request? r = some (n, row) := by
  rcases stage with call | k | ⟨k, lower⟩
  · rcases call with _ | _ | _ | _ | _ | _ | _ | _ | _
    all_goals cases h
  · cases h
    rfl
  · cases h
    rfl

/-- An attempt that asks for a row locks it. -/
theorem move?_of_request? (now : Instant) (h : stage.request? r = some (n, row)) :
    stage.move? r now = some (.lock n row) := by
  rcases stage with call | k | ⟨k, lower⟩
  all_goals
    cases h
    try rfl

/-- An attempt that has not begun is at its first call. -/
theorem eq_begin_of_unit?_eq_none (h : stage.unit? = none) : stage = .calling .begin := by
  rcases stage with call | k | ⟨k, lower⟩
  · rcases call with _ | _ | _ | _ | _ | _ | _ | _ | _
    all_goals first | rfl | cases h
  · cases h
  · cases h

/-! ## What a call does to the open units and to the queue -/

/-- A call in a unit lets nobody in. -/
theorem openIds_ledgerAfter (hn : stage.unit? = some n) (now : Instant)
    (hm : m ∈ (stage.ledgerAfter r now l).openIds) : m ∈ l.openIds := by
  unfold Stage.ledgerAfter at hm
  rcases hmove : stage.move? r now with _ | move
  · rw [hmove] at hm
    exact hm
  · rw [hmove] at hm
    have hown : move.unit? = some n := (unit?_of_move? hmove).trans hn
    by_cases hends : ∃ k, move.Ends k
    · obtain ⟨k, hends⟩ := hends
      rw [Ledger.openIds_end l hends] at hm
      exact List.mem_of_mem_filter hm
    · have hbegin : move ≠ .begin := by
        rintro rfl
        cases hown
      rw [Ledger.openIds_make l hbegin fun k hk => hends ⟨k, hk⟩] at hm
      exact hm

/-- The tickets behind a call are old ones, but for that of an attempt that waits. -/
theorem queue_ledgerAfter (h : ticket ∈ (stage.ledgerAfter r s.clock s.ledger).queue) :
    ticket ∈ s.ledger.queue ∨
      (stage.request? r = some ticket ∧ (advance .memory r stage s).1 = none) := by
  unfold Stage.ledgerAfter at h
  rcases hmove : stage.move? r s.clock with _ | move
  · rw [hmove] at h
    exact .inl h
  · rw [hmove] at h
    rcases Ledger.queue_make s.ledger move h with hold | ⟨rfl, hwaiting, -⟩
    · exact .inl hold
    · have hrequest := move?_of_lock hmove
      exact .inr ⟨hrequest, advance_eq_none_iff.mpr ⟨_, _, hrequest, hwaiting⟩⟩

/-- A request that is answered leaves the queue. -/
theorem not_queued_of_answered (htidy : s.ledger.Tidy) (hf : Fits r s.ledger stage)
    (hchecked : Checked r) (hrequest : stage.request? r = some ticket)
    (hanswered : (advance .memory r stage s).1 ≠ none) :
    ticket ∉ (stage.ledgerAfter r s.clock s.ledger).queue := by
  obtain ⟨u, hu, hcopy⟩ := hf.not_held hchecked hrequest
  have hanswer : (s.ledger.lock ticket.1 ticket.2).1 ≠ .waiting := by
    intro hwaiting
    exact hanswered (advance_eq_none_iff.mpr ⟨_, _, hrequest, hwaiting⟩)
  unfold Stage.ledgerAfter
  rw [move?_of_request? s.clock hrequest]
  exact htidy.not_queued_of_lock hu hcopy hanswer

/-- Where an attempt goes on, its unit goes on with it. -/
theorem Follows.openIds (hf : Fits r s.ledger stage) (hsound : s.ledger.Sound)
    (hfollows : Follows r s (stage.ledgerAfter r s.clock s.ledger) stage later)
    (hcloser : later.callsLeft < stage.callsLeft)
    (hm : m ∈ (stage.ledgerAfter r s.clock s.ledger).openIds) :
    (m ∈ s.ledger.openIds ∧ stage.unit? ≠ some m) ∨ later.unit? = some m := by
  rcases hunit : stage.unit? with _ | n
  · -- the unit that has just been begun is that of the attempt
    obtain rfl := eq_begin_of_unit?_eq_none hunit
    have hlater : later.unit? = some ⟨s.ledger.nextUnit⟩ := by
      refine hfollows.unit.resolve_left fun hnone => ?_
      rw [eq_begin_of_unit?_eq_none (hnone.trans hunit)] at hcloser
      exact absurd hcloser (Nat.lt_irrefl _)
    have hopen : m ∈ s.ledger.openIds ++ [⟨s.ledger.nextUnit⟩] := by
      rw [← Ledger.openIds_beginUnit]
      exact hm
    rcases List.mem_append.mp hopen with hold | hnew
    · exact .inl ⟨hold, by simp⟩
    · rw [List.mem_singleton.mp hnew]
      exact .inr hlater
  · have hold := openIds_ledgerAfter hunit s.clock hm
    by_cases hnm : n = m
    · -- a unit that is begun now would have had to be open before
      subst hnm
      rcases hfollows.unit with hsame | hnext
      · exact .inr (hsame.trans hunit)
      · obtain ⟨u, hu⟩ := hfollows.fits.unit_open hnext
        have hearly := openIds_ledgerAfter hunit s.clock (Ledger.mem_openIds.mpr ⟨u, hu⟩)
        obtain ⟨v, hv⟩ := Ledger.mem_openIds.mp hearly
        exact absurd (hsound.unit_lt _ v hv) (Nat.lt_irrefl _)
    · exact .inl ⟨hold, by simpa using hnm⟩

end Attempt

namespace Floor

variable {f f' : Floor} {i j : Nat} {a : Pending} {n : UnitId} {row : AccountId}

/-! ## Who waits for whom -/

/-- Whether an attempt works in a unit. -/
def Mans (f : Floor) (i : Nat) (n : UnitId) : Prop :=
  ∃ a, f.attempts i = some a ∧ a.stage.unit? = some n

/-- Whether an attempt makes a request. -/
def Requests (f : Floor) (i : Nat) (ticket : UnitId × AccountId) : Prop :=
  ∃ a, f.attempts i = some a ∧ a.stage.request? a.order = some ticket

def Asks (f : Floor) (i : Nat) (row : AccountId) : Prop := ∃ n, f.Requests i (n, row)

def Holds (f : Floor) (i : Nat) (row : AccountId) : Prop :=
  ∃ n u, f.Mans i n ∧ f.stores.ledger.unit? n = some u ∧ u.holds row = true

def WaitsFor (f : Floor) (i j : Nat) : Prop := ∃ row, f.Asks i row ∧ f.Holds j row

/-- Whether the next call of an attempt takes it on. -/
def CanGoOn (f : Floor) (i : Nat) : Prop :=
  ∃ a, f.attempts i = some a ∧ (Attempt.advance .memory a.order a.stage f.stores).1 ≠ none

/-- The unit of an attempt is read off its stage. -/
theorem mans_iff (ha : f.attempts i = some a) : f.Mans i n ↔ a.stage.unit? = some n := by
  constructor
  · rintro ⟨b, hb, hunit⟩
    obtain rfl := Option.some.inj (ha.symm.trans hb)
    exact hunit
  · exact fun hunit => ⟨a, ha, hunit⟩

/-- The request of an attempt is read off its stage and its order. -/
theorem requests_iff (ha : f.attempts i = some a) {ticket : UnitId × AccountId} :
    f.Requests i ticket ↔ a.stage.request? a.order = some ticket := by
  constructor
  · rintro ⟨b, hb, hrequest⟩
    obtain rfl := Option.some.inj (ha.symm.trans hb)
    exact hrequest
  · exact fun hrequest => ⟨a, ha, hrequest⟩

/-- A request is made from the unit of the attempt. -/
theorem Requests.mans {ticket : UnitId × AccountId} (h : f.Requests i ticket) :
    f.Mans i ticket.1 := by
  obtain ⟨a, ha, hrequest⟩ := h
  exact ⟨a, ha, unit?_of_request? hrequest⟩

/-- What an attempt holds is below what it asks for. -/
theorem Orderly.lt_of_asks (h : f.Orderly) {held : AccountId} (hasks : f.Asks i row)
    (hholds : f.Holds i held) : held < row := by
  obtain ⟨n, a, ha, hrequest⟩ := hasks
  obtain ⟨m, u, hmans, hu, hheld⟩ := hholds
  have hunit := (mans_iff ha).mp hmans
  obtain rfl := Option.some.inj ((unit?_of_request? hrequest).symm.trans hunit)
  obtain ⟨v, hv, hbelow⟩ := (h.fits i a ha).asks (h.checked i a ha) hrequest
  obtain rfl := Option.some.inj (hv.symm.trans hu)
  exact hbelow held hheld

/-- Along a chain of waiting attempts the rows rise. -/
theorem Orderly.rising (h : f.Orderly) (hchain : Relation.TransGen f.WaitsFor i j) :
    ∃ row held, f.Asks i row ∧ f.Holds j held ∧ row ≤ held := by
  induction hchain with
  | single hwaits =>
    obtain ⟨row, hasks, hholds⟩ := hwaits
    exact ⟨row, row, hasks, hholds, Int.le_refl _⟩
  | tail _ hwaits ih =>
    obtain ⟨row, held, hasks, hholds, hle⟩ := ih
    obtain ⟨next, hnext, hlast⟩ := hwaits
    have hlt : held < next := h.lt_of_asks hnext hholds
    exact ⟨row, next, hasks, hlast, Int.le_trans hle (Int.le_of_lt hlt)⟩

/-- No attempt waits for itself, however long the chain is. -/
theorem Orderly.acyclic (h : f.Orderly) (i : Nat) : ¬ Relation.TransGen f.WaitsFor i i := by
  intro hcycle
  obtain ⟨row, held, hasks, hholds, hle⟩ := h.rising hcycle
  have hlt : held < row := h.lt_of_asks hasks hholds
  exact Int.not_le.mpr hlt hle

/-- An attempt that cannot go on asks for a row that it may not lock. -/
theorem asks_of_waits (ha : f.attempts i = some a) (hwaits : ¬ f.CanGoOn i) :
    ∃ n row, f.Requests i (n, row) ∧ f.stores.ledger.mayLock n row = false ∧
      ∃ c, f.stores.ledger.account? row = some c := by
  have hnone : (Attempt.advance .memory a.order a.stage f.stores).1 = none := by
    by_contra hgoes
    exact hwaits ⟨a, ha, hgoes⟩
  obtain ⟨n, row, hrequest, hwaiting⟩ := advance_eq_none_iff.mp hnone
  refine ⟨n, row, ⟨a, ha, hrequest⟩, ?_⟩
  rcases f.stores.ledger.lock_cases n row with ⟨u, c, -, -, hlock⟩ | ⟨-, hlock⟩ |
    ⟨u, c, -, -, -, -, hlock⟩ | ⟨u, c, queue, -, -, hc, hmay, -, -⟩
  · rw [hlock] at hwaiting
    cases hwaiting
  · rw [hlock] at hwaiting
    cases hwaiting
  · rw [hlock] at hwaiting
    cases hwaiting
  · exact ⟨hmay, c, hc⟩

/-- An attempt that may lock the row that it asks for can go on. -/
theorem canGoOn_of_mayLock (h : f.Requests i (n, row))
    (hmay : f.stores.ledger.mayLock n row = true) : f.CanGoOn i := by
  by_contra hwaits
  obtain ⟨a, ha, hrequest⟩ := h
  obtain ⟨m, other, hrequests, hmay', -⟩ := asks_of_waits ha hwaits
  have hrequest' := (requests_iff ha).mp hrequests
  obtain ⟨rfl, rfl⟩ := Prod.mk.inj (Option.some.inj (hrequest.symm.trans hrequest'))
  rw [hmay] at hmay'
  cases hmay'

/-! ## Nobody is missing -/

/-- A floor on which no lock and no place in the queue outlives its attempt. -/
structure Attended (f : Floor) : Prop where
  manned : ∀ n ∈ f.stores.ledger.openIds, ∃ i, f.Mans i n
  requested : ∀ ticket ∈ f.stores.ledger.queue, ∃ i, f.Requests i ticket

/-- What happens to one attempt leaves a floor attended, if what was kept for that attempt is
gone or is kept for it still. -/
theorem Attended.act (h : f.Attended) (hothers : ∀ j, j ≠ i → f'.attempts j = f.attempts j)
    (hunits : ∀ n ∈ f'.stores.ledger.openIds,
      (n ∈ f.stores.ledger.openIds ∧ ¬ f.Mans i n) ∨ f'.Mans i n)
    (hqueue : ∀ ticket ∈ f'.stores.ledger.queue,
      (ticket ∈ f.stores.ledger.queue ∧ ¬ f.Requests i ticket) ∨ f'.Requests i ticket) :
    f'.Attended := by
  -- whatever was not this attempt's is still attended by whoever attended it
  constructor
  · intro n hn
    rcases hunits n hn with ⟨hold, hother⟩ | hmans
    · obtain ⟨j, b, hb, hunit⟩ := h.manned n hold
      have hj : j ≠ i := by
        rintro rfl
        exact hother ⟨b, hb, hunit⟩
      exact ⟨j, b, (hothers j hj).trans hb, hunit⟩
    · exact ⟨i, hmans⟩
  · intro ticket hticket
    rcases hqueue ticket hticket with ⟨hold, hother⟩ | hrequests
    · obtain ⟨j, b, hb, hrequest⟩ := h.requested ticket hold
      have hj : j ≠ i := by
        rintro rfl
        exact hother ⟨b, hb, hrequest⟩
      exact ⟨j, b, (hothers j hj).trans hb, hrequest⟩
    · exact ⟨i, hrequests⟩

/-- What happens to no attempt leaves a floor attended. -/
theorem Attended.ambient (h : f.Attended) (hattempts : f'.attempts = f.attempts)
    (hunits : f'.stores.ledger.openIds = f.stores.ledger.openIds)
    (hqueue : f'.stores.ledger.queue = f.stores.ledger.queue) : f'.Attended := by
  constructor
  · intro n hn
    rw [hunits] at hn
    obtain ⟨i, a, ha, hunit⟩ := h.manned n hn
    exact ⟨i, a, (congrFun hattempts i).trans ha, hunit⟩
  · intro ticket hticket
    rw [hqueue] at hticket
    obtain ⟨i, a, ha, hrequest⟩ := h.requested ticket hticket
    exact ⟨i, a, (congrFun hattempts i).trans ha, hrequest⟩

/-- An attempt that ends leaves nothing behind. -/
theorem Attended.ends (h : f.Attended) (ha : f.attempts i = some a) (hn : a.stage.unit? = some n)
    {move : Move} (hends : move.Ends n) (hledger : f'.stores.ledger = f.stores.ledger.make move)
    (hothers : ∀ j, j ≠ i → f'.attempts j = f.attempts j) : f'.Attended := by
  have hown : ∀ {m : UnitId}, f.Mans i m → m = n := by
    intro m hmans
    exact Option.some.inj (((mans_iff ha).mp hmans).symm.trans hn)
  refine h.act hothers ?_ ?_
  · intro m hm
    rw [hledger, Ledger.openIds_end _ hends] at hm
    obtain ⟨hold, hne⟩ := List.mem_filter.mp hm
    exact .inl ⟨hold, fun hmans => bne_iff_ne.mp hne (hown hmans)⟩
  · intro ticket hticket
    rw [hledger, (Ledger.end_releases _ hends).2.2] at hticket
    obtain ⟨hold, hne⟩ := List.mem_filter.mp hticket
    exact .inl ⟨hold, fun hrequests => bne_iff_ne.mp hne (hown hrequests.mans)⟩

/-- A call takes its attempt on, or lets it wait. -/
theorem Attended.goes (h : f.Attended) (horderly : f.Orderly) (htidy : f.stores.ledger.Tidy)
    (ha : f.attempts i = some a) {later : Stage} (hcloser : later.callsLeft < a.stage.callsLeft)
    (hanswered : (Attempt.advance .memory a.order a.stage f.stores).1 ≠ none)
    (hfollows : Follows a.order f.stores
      (a.stage.ledgerAfter a.order f.stores.clock f.stores.ledger) a.stage later) :
    ((f.called a).setAttempt i (some ⟨a.order, later⟩)).Attended := by
  have hfits := horderly.fits i a ha
  refine h.act (fun j hj => if_neg hj) ?_ ?_
  · intro m hm
    rcases hfollows.openIds hfits horderly.sound hcloser hm with ⟨hold, hother⟩ | hunit
    · exact .inl ⟨hold, fun hmans => hother ((mans_iff ha).mp hmans)⟩
    · exact .inr ⟨_, if_pos rfl, hunit⟩
  · intro ticket hticket
    rcases queue_ledgerAfter hticket with hold | ⟨-, hnone⟩
    · refine .inl ⟨hold, fun hrequests => ?_⟩
      exact not_queued_of_answered htidy hfits (horderly.checked i a ha)
        ((requests_iff ha).mp hrequests) hanswered hticket
    · exact absurd hnone hanswered

/-- An attempt that is made to wait has its ticket, and nobody else's has changed. -/
theorem Attended.waits (h : f.Attended) (ha : f.attempts i = some a)
    (hnone : (Attempt.advance .memory a.order a.stage f.stores).1 = none) :
    (f.called a).Attended := by
  obtain ⟨n, row, hrequest, -⟩ := advance_eq_none_iff.mp hnone
  have hunit := unit?_of_request? hrequest
  constructor
  · intro m hm
    exact h.manned m (openIds_ledgerAfter hunit f.stores.clock hm)
  · intro ticket hticket
    rcases queue_ledgerAfter hticket with hold | ⟨hown, -⟩
    · exact h.requested ticket hold
    · exact ⟨i, a, ha, hown⟩

/-- Whatever comes of a call, no lock and no ticket outlives its attempt. -/
theorem Attended.advance (h : f.Attended) (horderly : f.Orderly) (htidy : f.stores.ledger.Tidy)
    (ha : f.attempts i = some a) : (f.step (.advance i)).Attended := by
  have hturn := turn_of_fits horderly.sound horderly.rates (horderly.checked i a ha)
    (horderly.fits i a ha)
  rw [step_advance_eq ha]
  -- it waits, goes on to its next stage, or ends its unit by a rollback or a commit
  rcases hturn with ⟨-, hcall, -⟩ | ⟨-, hcall, hfollows⟩ | hstage | ⟨hstage, -, -⟩
  · rw [hcall]
    exact h.waits ha hcall
  · rename_i later closer
    rw [hcall]
    refine h.goes horderly htidy ha closer ?_ hfollows
    rw [hcall]
    exact Option.some_ne_none _
  · obtain ⟨r, stage⟩ := a
    rename_i n e
    obtain rfl : stage = .calling (.rollback n e) := hstage
    have hends : (Move.drop n).Ends n := .inr rfl
    exact h.ends ha rfl hends rfl fun j hj => if_neg hj
  · obtain ⟨r, stage⟩ := a
    rename_i n p receipt
    obtain rfl : stage = .calling (.commit n receipt) := hstage
    have hends : (Move.commit n).Ends n := .inl rfl
    exact h.ends ha rfl hends rfl fun j hj => if_neg hj

/-- An attempt that gives up takes its ticket back, and keeps its unit for the rollback. -/
theorem Attended.giveUp (h : f.Attended) (ha : f.attempts i = some a)
    (hrequest : a.stage.request? a.order = some (n, row)) : (f.step (.giveUp i)).Attended := by
  have hunit := unit?_of_request? hrequest
  rw [step_giveUp_eq ha hrequest]
  refine h.act (fun j hj => if_neg hj) ?_ ?_
  · intro m hm
    -- its unit is still its own, to be rolled back next
    by_cases hmn : m = n
    · rw [hmn]
      exact .inr ⟨_, if_pos rfl, rfl⟩
    · refine .inl ⟨hm, fun hmans => ?_⟩
      exact hmn (Option.some.inj (((mans_iff ha).mp hmans).symm.trans hunit))
  · intro ticket hticket
    -- the ticket that it asked with has left the queue
    obtain ⟨hold, hne⟩ := List.mem_filter.mp hticket
    refine .inl ⟨hold, fun hrequests => ?_⟩
    exact bne_iff_ne.mp hne (Option.some.inj (((requests_iff ha).mp hrequests).symm.trans hrequest))

/-- The unit of an attempt whose caller has gone is dropped, with its locks and its tickets. -/
theorem Attended.abandon (h : f.Attended) (ha : f.attempts i = some a) :
    (f.step (.abandon i)).Attended := by
  rcases hunit : a.stage.unit? with _ | n
  · -- an attempt that has not begun has neither a unit nor a request
    have hnone : ∀ m, ¬ f.Mans i m := by
      intro m hmans
      have hother := (mans_iff ha).mp hmans
      rw [hunit] at hother
      cases hother
    rw [step_abandon_eq ha hunit]
    refine h.act (fun j hj => if_neg hj) ?_ ?_
    · intro m hm
      exact .inl ⟨hm, hnone m⟩
    · intro ticket hticket
      exact .inl ⟨hticket, fun hrequests => hnone _ hrequests.mans⟩
  · rw [step_abandon_eq_drop ha hunit]
    have hends : (Move.drop n).Ends n := .inr rfl
    exact h.ends ha hunit hends rfl fun j hj => if_neg hj

/-- An opening touches neither units nor queue. -/
theorem Attended.opening (h : f.Attended) (request : Opening) :
    (f.step (.opening request)).Attended := by
  have hledger : (f.step (.opening request)).stores.ledger
      = (request.apply f.stores.clock f.stores.ledger).2 := rfl
  rcases request.apply_congr f.stores.clock (l := f.stores.ledger) rfl (fun _ _ => rfl) with
    ⟨e, happly, -⟩ | ⟨b, -, -, happly, -⟩
  · rw [happly] at hledger
    refine h.ambient rfl ?_ ?_
    all_goals rw [hledger]
  · rw [happly] at hledger
    refine h.ambient rfl ?_ ?_
    all_goals
      rw [hledger]
      rfl

/-- An attempt that starts has no unit and no ticket. -/
theorem Attended.start (h : f.Attended) (hfree : f.attempts i = none) {r : TransferOrder}
    (hr : Checked r) : (f.step (.start i r)).Attended := by
  have hnone : ∀ m, ¬ f.Mans i m := by
    rintro m ⟨b, hb, -⟩
    rw [hfree] at hb
    cases hb
  rw [step_start_eq hfree hr]
  refine h.act (fun j hj => if_neg hj) ?_ ?_
  · intro m hm
    exact .inl ⟨hm, hnone m⟩
  · intro ticket hticket
    exact .inl ⟨hticket, fun hrequests => hnone _ hrequests.mans⟩

/-- No event leaves a lock or a ticket without an attempt. -/
theorem step_attended (h : f.Attended) (horderly : f.Orderly) (htidy : f.stores.ledger.Tidy)
    (e : Event) : (f.step e).Attended := by
  rcases f.step_eq_or_enabled e with hidle | henabled
  · rw [hidle]
    exact h
  -- the clock, the rates and the faults concern neither units nor queue; nor do the openings, and
  -- every other event is one attempt's
  · cases henabled with
    | setClock now => exact h.ambient rfl rfl rfl
    | opening request => exact h.opening request
    | rateChange request => exact h.ambient rfl rfl rfl
    | scheduleFault fault => exact h.ambient rfl rfl rfl
    | start hfree hr => exact h.start hfree hr
    | advance hi => exact h.advance horderly htidy hi
    | giveUp hi hrequest => exact h.giveUp hi hrequest
    | abandon hi => exact h.abandon hi

/-- A floor stays attended over any list of events. -/
theorem Attended.run (h : f.Attended) (horderly : f.Orderly) (events : List Event) :
    (f.run events).Orderly ∧ (f.run events).Attended := by
  induction events generalizing f with
  | nil => exact ⟨horderly, h⟩
  | cons e events ih =>
    exact ih (step_attended h horderly horderly.tidy e) (step_orderly horderly e).1

/-- On an empty floor there is nothing to attend to. -/
theorem attended_empty (clock : Instant) : (Floor.empty clock).Attended where
  manned := by rintro n ⟨⟩
  requested := by rintro ticket ⟨⟩

/-! ## Somebody can go on -/

/-- A row that is held is held by an attempt. -/
theorem Attended.holds_of_mem (h : f.Attended) (horderly : f.Orderly) {u : OpenUnit}
    (hu : u ∈ f.stores.ledger.units) (hholds : u.holds row = true) : ∃ j, f.Holds j row := by
  obtain ⟨j, hj⟩ := h.manned u.id (List.mem_map_of_mem hu)
  exact ⟨j, u.id, u, hj, horderly.tidy.unit?_of_mem hu, hholds⟩

/-- An attempt that cannot go on is kept back by another one, which holds the row that it asks
for, or has asked for it before and can have it now. -/
theorem Attended.keptBack (h : f.Attended) (horderly : f.Orderly) (ha : f.attempts i = some a)
    (hwaits : ¬ f.CanGoOn i) :
    ∃ row, f.Asks i row ∧ row.number < f.stores.ledger.nextAccount ∧
      ∃ j, j ≠ i ∧ (f.Holds j row ∨ (f.Asks j row ∧ f.CanGoOn j)) := by
  obtain ⟨n, row, hrequests, hmay, c, hc⟩ := asks_of_waits ha hwaits
  have hbound : row.number < f.stores.ledger.nextAccount := by
    obtain ⟨hmem, hid⟩ := Ledger.account?_spec hc
    rw [← hid]
    exact horderly.sound.account_lt c hmem
  refine ⟨row, ⟨n, hrequests⟩, hbound, ?_⟩
  -- either the row is held, and not by the attempt that asks for it, or the first in its queue may
  -- have it
  by_cases hheld : ∃ u ∈ f.stores.ledger.units, u.holds row = true
  · obtain ⟨u, hu, hholds⟩ := hheld
    obtain ⟨j, hj⟩ := h.holds_of_mem horderly hu hholds
    refine ⟨j, ?_, .inl hj⟩
    rintro rfl
    exact Int.lt_irrefl row.number (horderly.lt_of_asks ⟨n, hrequests⟩ hj)
  · have hfree : ∀ u ∈ f.stores.ledger.units, u.holds row = false := by
      intro u hu
      exact Bool.eq_false_iff.mpr fun hholds => hheld ⟨u, hu, hholds⟩
    obtain ⟨m, -, hticket, hmay'⟩ := Ledger.exists_mayLock hfree hmay
    obtain ⟨j, hj⟩ := h.requested _ hticket
    have hgoes := canGoOn_of_mayLock hj hmay'
    refine ⟨j, ?_, .inr ⟨⟨m, hj⟩, hgoes⟩⟩
    rintro rfl
    exact hwaits hgoes

/-- From an attempt that holds a row one comes to an attempt that can go on. -/
theorem Attended.progress_of_holds (h : f.Attended) (horderly : f.Orderly) (room : Nat)
    (hholds : f.Holds j row)
    (hroom : (f.stores.ledger.nextAccount - row.number).toNat < room) : ∃ k, f.CanGoOn k := by
  -- by induction on the numbers above the row, since the next row that is asked for is higher
  induction room generalizing j row with
  | zero => exact absurd hroom (Nat.not_lt_zero _)
  | succ room ih =>
    by_cases hgoes : f.CanGoOn j
    · exact ⟨j, hgoes⟩
    · have hmans := hholds
      obtain ⟨n, u, ⟨a, ha, -⟩, -⟩ := hmans
      obtain ⟨next, hasks, hbound, k, -, hheld | ⟨-, hgoes'⟩⟩ := h.keptBack horderly ha hgoes
      · have hrise : row.number < next.number := horderly.lt_of_asks hasks hholds
        exact ih hheld (by omega)
      · exact ⟨k, hgoes'⟩

/-- As long as there is an attempt, one can go on. -/
theorem Attended.progress (h : f.Attended) (horderly : f.Orderly) (ha : f.attempts i = some a) :
    ∃ j, f.CanGoOn j := by
  by_cases hgoes : f.CanGoOn i
  · exact ⟨i, hgoes⟩
  · obtain ⟨row, -, -, j, -, hholds | ⟨-, hgoes'⟩⟩ := h.keptBack horderly ha hgoes
    · exact h.progress_of_holds horderly _ hholds (Nat.lt_succ_self _)
    · exact ⟨j, hgoes'⟩

/-- What attempts may rely on that wait for rows without a limit. -/
structure DeadlockFree (f : Floor) : Prop where
  /-- Who asks for a row holds rows with lower numbers only. -/
  ascending : ∀ i row held, f.Asks i row → f.Holds i held → held < row
  /-- Nobody waits for himself, in however many steps. -/
  acyclic : ∀ i, ¬ Relation.TransGen f.WaitsFor i i
  /-- An attempt that is over, however it ended, keeps no lock. -/
  released : ∀ u ∈ f.stores.ledger.units, ∃ i, f.Mans i u.id
  /-- Who cannot go on asks for a row that somebody else holds, or that somebody else asks for
  who can go on. -/
  keptBack : ∀ i a, f.attempts i = some a → ¬ f.CanGoOn i → ∃ row, f.Asks i row ∧
    ∃ j, j ≠ i ∧ (f.Holds j row ∨ (f.Asks j row ∧ f.CanGoOn j))
  /-- As long as there is an attempt, one can go on. -/
  progress : ∀ i a, f.attempts i = some a → ∃ j, f.CanGoOn j

/-- Whatever happens, the attempts do not lock each other out. -/
theorem deadlockFree_run (clock : Instant) (events : List Event) :
    ((Floor.empty clock).run events).DeadlockFree := by
  obtain ⟨horderly, hattended⟩ := (attended_empty clock).run (orderly_empty clock) events
  refine ⟨?_, horderly.acyclic, ?_, ?_, ?_⟩
  · intro i row held hasks hholds
    exact horderly.lt_of_asks hasks hholds
  · intro u hu
    exact hattended.manned u.id (List.mem_map_of_mem hu)
  · intro i a ha hwaits
    obtain ⟨row, hasks, -, hblocker⟩ := hattended.keptBack horderly ha hwaits
    exact ⟨row, hasks, hblocker⟩
  · intro i a ha
    exact hattended.progress horderly ha

end Floor

end CountingHouse
