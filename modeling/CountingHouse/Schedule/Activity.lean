/-
Activities: procedures side by side, in time.

An activity is a procedure, two activities at once, or an activity that is given up
after a while. Time is counted in milliseconds and is virtual: it stands still while
anybody can act. To `poll` an activity is to let everybody in it act, in order, for as
long as they can; a wait that is met for the first time sets its timer then. When
nobody can act any more, time moves on to the next timer.

An activity that is given up is dropped where it stands: every wait in it is abandoned.
-/
import CountingHouse.Schedule.Procedure

set_option autoImplicit false

namespace CountingHouse

/-- A timer: not yet set, or set to an instant. -/
inductive Timer where
  | unset (millis : Nat)
  | due (instant : Nat)
  deriving DecidableEq, Repr

/-- When a timer goes off that is set now unless it was set before. -/
def Timer.instant (now : Nat) : Timer → Nat
  | unset millis => now + millis
  | due instant => instant

/-- An activity on a state that comes to a result. -/
inductive Activity (σ : Type) : Type → Type 1 where
  | finished {α : Type} (result : α) : Activity σ α
  | moment {α : Type} (next : Nat → Activity σ α) : Activity σ α
  | act {α ι : Type} (step : σ → ι × σ) (next : ι → Activity σ α) : Activity σ α
  | await {α ι : Type} (question : σ → Option ι × σ) (timer : Timer) (lapse : σ → ι × σ)
      (abandon : σ → σ) (next : ι → Activity σ α) : Activity σ α
  | both {α β γ : Type} (left : Activity σ β) (right : Activity σ γ)
      (next : β × γ → Activity σ α) : Activity σ α
  | within {α β : Type} (timer : Timer) (body : Activity σ β) (next : Option β → Activity σ α) :
      Activity σ α

def Procedure.start {σ α : Type} : Procedure σ α → Activity σ α
  | finished a => .finished a
  | act f next => .act f fun i => (next i).start
  | await question patience lapse abandon next =>
    .await question (.unset patience.ticks) lapse abandon fun i => (next i).start

namespace Activity

variable {σ : Type}

/-! ## Building activities -/

/-- One activity and then another, which depends on the result of the first. -/
def bind {α β : Type} : Activity σ α → (α → Activity σ β) → Activity σ β
  | finished a, k => k a
  | moment next, k => moment fun now => (next now).bind k
  | act f next, k => act f fun i => (next i).bind k
  | await question timer lapse abandon next, k =>
    await question timer lapse abandon fun i => (next i).bind k
  | both left right next, k => both left right fun results => (next results).bind k
  | within timer body next, k => within timer body fun result => (next result).bind k

instance : Monad (Activity σ) where
  pure := finished
  bind := bind

def step {α : Type} (f : σ → α × σ) : Activity σ α := act f finished

def time : Activity σ Nat := moment finished

def sleep (millis : Nat) : Activity σ Unit :=
  await (fun s => (none, s)) (.unset millis) (fun s => ((), s)) id finished

/-- An activity that is given up after so many milliseconds. -/
def giveUpAfter {α : Type} (millis : Nat) (body : Activity σ α) : Activity σ (Option α) :=
  within (.unset millis) body finished

/-- All activities of a list at once; where several can act, the earlier one acts first. -/
def all {α : Type} : List (Activity σ α) → Activity σ (List α)
  | [] => finished []
  | first :: rest => both first (all rest) fun (result, results) => finished (result :: results)

/-! ## Looking at activities -/

/-- The result of an activity that has come to its end. -/
def result? {α : Type} : Activity σ α → Option α
  | finished a => some a
  | _ => none

/-- What is left of the state when an activity is dropped. -/
def drop {α : Type} : Activity σ α → σ → σ
  | await _ _ _ abandon _, s => abandon s
  | both left right _, s => right.drop (left.drop s)
  | within _ body _, s => body.drop s
  | _, s => s

/-- The timer that goes off first. -/
def nextDue? {α : Type} : Activity σ α → Option Nat
  | await _ (.due instant) _ _ _ => some instant
  | both left right _ =>
    match left.nextDue?, right.nextDue? with
    | some l, some r => some (min l r)
    | some l, none => some l
    | none, r => r
  | within (.due instant) body _ => some (match body.nextDue? with
    | some due => min instant due
    | none => instant)
  | _ => none

/-! ## Running -/

/-- An activity after everybody in it has acted: what is left of it, the state, and whether
anything has happened. -/
structure Progress (σ α : Type) where
  rest : Activity σ α
  state : σ
  moved : Bool

/-- The same, where something has happened. -/
def Progress.stirred {α : Type} (p : Progress σ α) : Progress σ α := { p with moved := true }

/-- Lets everybody in an activity act, in order. -/
def poll (now : Nat) : {α : Type} → Activity σ α → σ → Progress σ α
  | _, finished a, s => ⟨finished a, s, false⟩
  | _, moment next, s => (poll now (next now) s).stirred
  | _, act f next, s => (poll now (next (f s).1) (f s).2).stirred
  | _, await question timer lapse abandon next, s =>
    match question s with
    | (some i, s) => (poll now (next i) s).stirred
    | (none, s) =>
      -- the question comes first, so that an answer at the last moment still counts
      if timer.instant now ≤ now then (poll now (next (lapse s).1) (lapse s).2).stirred
      else ⟨await question (.due (timer.instant now)) lapse abandon next, s, false⟩
  | _, both left right next, s =>
    -- the left side acts first, and the right side sees what it did
    let l := poll now left s
    let r := poll now right l.state
    match l.rest.result?, r.rest.result? with
    | some a, some b => (poll now (next (a, b)) r.state).stirred
    | _, _ => ⟨both l.rest r.rest next, r.state, l.moved || r.moved⟩
  | _, within timer body next, s =>
    let p := poll now body s
    match p.rest.result? with
    | some a => (poll now (next (some a)) p.state).stirred
    | none =>
      if timer.instant now ≤ now then
        (poll now (next none) (p.rest.drop p.state)).stirred
      else ⟨within (.due (timer.instant now)) p.rest next, p.state, p.moved⟩

/-- Runs an activity from an instant on, for at most so many rounds: its result, the instant
of its end and the state behind it. Each round polls, and moves time on if nobody could act. -/
def run {α : Type} : Nat → Nat → Activity σ α → σ → Option (α × Nat × σ)
  | 0, _, _, _ => none
  | rounds + 1, now, activity, s =>
    let p := poll now activity s
    match p.rest.result? with
    | some a => some (a, now, p.state)
    | none =>
      if p.moved then run rounds now p.rest p.state
      -- nobody can act, so nothing happens before the next timer
      else match p.rest.nextDue? with
        | some due => run rounds (max now due) p.rest p.state
        | none => none

/-! ## Laws -/

@[simp]
theorem poll_finished {α : Type} (now : Nat) (a : α) (s : σ) :
    poll now (finished a) s = ⟨finished a, s, false⟩ := rfl

/-- A finished activity runs to its result at once. -/
theorem run_finished {α : Type} (rounds now : Nat) (a : α) (s : σ) :
    run (rounds + 1) now (finished a) s = some (a, now, s) := rfl

end Activity

end CountingHouse
