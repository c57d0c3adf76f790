/-
Procedures: what one caller does with a state that others use too.

A procedure is a tree. At each node it acts on the state, or it waits: it asks the
state a question again and again until there is an answer or its patience is over.
What it goes on with depends on what came back. Between two nodes everybody else may
act, so a node is what happens without interruption.

A tree has no infinite branch, so a procedure comes to its end in any company that lets
it: `alone` is its run when nobody else acts, where a question that is not answered at
once never will be.
-/
import CountingHouse.Schedule.Delay

set_option autoImplicit false

namespace CountingHouse

/-- A procedure on a state that comes to a result. A wait may end in three ways: with an
answer to its `question`, by `lapse` when patience is over, or by `abandon` when the caller
is gone. -/
inductive Procedure (σ α : Type) : Type 1 where
  | finished (result : α)
  | act {ι : Type} (step : σ → ι × σ) (next : ι → Procedure σ α)
  | await {ι : Type} (question : σ → Option ι × σ) (patience : Delay) (lapse : σ → ι × σ)
      (abandon : σ → σ) (next : ι → Procedure σ α)

namespace Procedure

variable {σ τ α β : Type}

def step (f : σ → α × σ) : Procedure σ α := act f finished

def pause (delay : Delay) : Procedure σ Unit :=
  await (fun s => (none, s)) delay (fun s => ((), s)) id finished

/-- One procedure and then another, which depends on the result of the first. -/
def bind : Procedure σ α → (α → Procedure σ β) → Procedure σ β
  | finished a, k => k a
  | act f next, k => act f fun i => (next i).bind k
  | await question patience lapse abandon next, k =>
    await question patience lapse abandon fun i => (next i).bind k

instance : Monad (Procedure σ) where
  pure := finished
  bind := bind

/-- The procedure on a part of a larger state. -/
def zoom (get : τ → σ) (put : σ → τ → τ) : Procedure σ α → Procedure τ α
  | finished a => finished a
  | act f next =>
    act (fun t => let (i, s) := f (get t); (i, put s t)) fun i => (next i).zoom get put
  | await question patience lapse abandon next =>
    await (fun t => let (i, s) := question (get t); (i, put s t)) patience
      (fun t => let (i, s) := lapse (get t); (i, put s t)) (fun t => put (abandon (get t)) t)
      fun i => (next i).zoom get put

/-- The result of a procedure when nobody else acts, and the state behind it. -/
def alone : Procedure σ α → σ → α × σ
  | finished a, s => (a, s)
  | act f next, s => (next (f s).1).alone (f s).2
  | await question _ lapse _ next, s =>
    match question s with
    | (some i, s) => (next i).alone s
    | (none, s) => (next (lapse s).1).alone (lapse s).2

/-! ## Laws -/

/-- One procedure and then another, alone. -/
theorem alone_bind (p : Procedure σ α) (k : α → Procedure σ β) (s : σ) :
    (p.bind k).alone s = (k (p.alone s).1).alone (p.alone s).2 := by
  induction p generalizing s with
  | finished a => rfl
  | act f next ih => exact ih _ _
  | await question patience lapse abandon next ih =>
    simp only [bind, alone]
    split
    · exact ih _ _
    · exact ih _ _

end Procedure

end CountingHouse
