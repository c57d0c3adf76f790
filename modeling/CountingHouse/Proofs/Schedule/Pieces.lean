/-
Procedures, one piece at a time.

A procedure in company does not run through. It takes its next piece (`go`), and then others
act. Where it waits, a piece is one more question, and two other things can happen: patience
can be over (`expire`), or the caller can be gone (`leave`). A run without company is one way
in which pieces and lapses follow each other (`leads_alone`).

All three look at the first node of the tree only, so they reach through a procedure on a part
of a larger state to that part.
-/
import CountingHouse.Schedule.Procedure

set_option autoImplicit false

namespace CountingHouse

namespace Procedure

variable {σ τ α β γ : Type}

/-! ## Pieces -/

/-- What is left of a procedure after its next piece, and the state behind it. A question that
is not answered will be asked again. -/
def go : Procedure σ α → σ → Procedure σ α × σ
  | finished a, s => (finished a, s)
  | act f next, s => (next (f s).1, (f s).2)
  | await question patience lapse abandon next, s =>
    match question s with
    | (some i, s) => (next i, s)
    | (none, s) => (await question patience lapse abandon next, s)

/-- The same when the patience for a wait is over; elsewhere nothing happens. -/
def expire : Procedure σ α → σ → Procedure σ α × σ
  | finished a, s => (finished a, s)
  | act f next, s => (act f next, s)
  | await _ _ lapse _ next, s => (next (lapse s).1, (lapse s).2)

/-- The state behind a procedure whose caller has gone, which can only happen at a wait. -/
def leave : Procedure σ α → σ → Option σ
  | finished _, _ => none
  | act _ _, _ => none
  | await _ _ _ abandon _, s => some (abandon s)

/-- Pieces and lapses of one procedure, one after the other. -/
inductive Leads : Procedure σ α → σ → Procedure σ α → σ → Prop
  | here (p : Procedure σ α) (s : σ) : Leads p s p s
  | go {p q : Procedure σ α} {s t : σ} (h : Leads (p.go s).1 (p.go s).2 q t) : Leads p s q t
  | expire {p q : Procedure σ α} {s t : σ} (h : Leads (p.expire s).1 (p.expire s).2 q t) :
      Leads p s q t

/-- A procedure without company takes its pieces one after the other, and its patience is over
where a question is not answered at once. -/
theorem leads_alone (p : Procedure σ α) (s : σ) :
    p.Leads s (finished (p.alone s).1) (p.alone s).2 := by
  induction p generalizing s with
  | finished a => exact .here _ s
  | act f next ih => exact .go (ih (f s).1 (f s).2)
  | await question patience lapse abandon next ih =>
    rcases hquestion : question s with ⟨_ | i, t⟩
    · -- asked in vain, and given up
      have hgo : (await question patience lapse abandon next).go s
          = (await question patience lapse abandon next, t) := by
        simp only [go, hquestion]
      have halone : (await question patience lapse abandon next).alone s
          = (next (lapse t).1).alone (lapse t).2 := by
        simp only [alone, hquestion]
      rw [halone]
      refine .go ?_
      rw [hgo]
      exact .expire (ih (lapse t).1 (lapse t).2)
    · have hgo : (await question patience lapse abandon next).go s = (next i, t) := by
        simp only [go, hquestion]
      have halone : (await question patience lapse abandon next).alone s = (next i).alone t := by
        simp only [alone, hquestion]
      rw [halone]
      refine .go ?_
      rw [hgo]
      exact ih i t

/-! ## Sequences -/

/-- Nothing is added to a procedure by finishing behind it. -/
theorem bind_finished (p : Procedure σ α) : p.bind finished = p := by
  induction p with
  | finished a => rfl
  | act f next ih => exact congrArg (act f) (funext ih)
  | await question patience lapse abandon next ih =>
    exact congrArg (await question patience lapse abandon) (funext ih)

/-- Sequences may be bracketed either way. -/
theorem bind_assoc (p : Procedure σ α) (k : α → Procedure σ β) (m : β → Procedure σ γ) :
    (p.bind k).bind m = p.bind fun a => (k a).bind m := by
  induction p with
  | finished a => rfl
  | act f next ih => exact congrArg (act f) (funext ih)
  | await question patience lapse abandon next ih =>
    exact congrArg (await question patience lapse abandon) (funext ih)

/-! ## Parts of a larger state -/

variable {get : τ → σ} {put : σ → τ → τ}

/-- The next piece of a procedure on a part of a state is its next piece on that part. -/
theorem go_zoom (hput : ∀ t, put (get t) t = t) (p : Procedure σ α) (t : τ) :
    (p.zoom get put).go t = ((p.go (get t)).1.zoom get put, put (p.go (get t)).2 t) := by
  cases p with
  | finished a =>
    simp only [zoom, go, hput]
  | act f next => rfl
  | await question patience lapse abandon next =>
    simp only [zoom, go]
    rcases question (get t) with ⟨_ | i, s⟩
    all_goals rfl

/-- Where a wait concerns a part of a state, a lapse does so too. -/
theorem expire_zoom (hput : ∀ t, put (get t) t = t) (p : Procedure σ α) (t : τ) :
    (p.zoom get put).expire t
      = ((p.expire (get t)).1.zoom get put, put (p.expire (get t)).2 t) := by
  cases p with
  | finished a =>
    simp only [zoom, expire, hput]
  | act f next =>
    simp only [zoom, expire, hput]
  | await question patience lapse abandon next => rfl

/-- A caller who goes during a wait leaves behind what has become of the part, and the rest as it
was. -/
theorem leave_zoom (p : Procedure σ α) (t : τ) :
    (p.zoom get put).leave t = (p.leave (get t)).map fun s => put s t := by
  cases p with
  | finished a => rfl
  | act f next => rfl
  | await question patience lapse abandon next => rfl

end Procedure

end CountingHouse
