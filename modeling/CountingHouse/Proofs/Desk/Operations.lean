/-
How operations run on the stores.

An operation is a chain of calls that ends at the first error. The laws of a chain say what
comes of it when its first link is known; `Touches` says what a chain leaves alone, link by
link, whether or not it comes to its end, and `Reads` that it leaves everything alone.
-/
import CountingHouse.Desk.Accounts
import CountingHouse.Desk.Credentials
import CountingHouse.Desk.Rates

set_option autoImplicit false

namespace CountingHouse

namespace Operation

variable {α β : Type} {x : Operation α} {f : α → Operation β} {s s' : Stores} {a : α}
variable {e : BankError}

/-! ## Chains -/

/-- A chain goes on with the answer of its first link, on the stores that this one left. -/
theorem bind_of_ok (h : x s = (.ok a, s')) : (x >>= f) s = f a s' := by
  change StateT.bind x (ExceptT.bindCont f) s = f a s'
  unfold StateT.bind
  rw [h]
  rfl

/-- A chain ends with its first link if that fails; what the link did to the stores stays done. -/
theorem bind_of_error (h : x s = (.error e, s')) : (x >>= f) s = (.error e, s') := by
  change StateT.bind x (ExceptT.bindCont f) s = (.error e, s')
  unfold StateT.bind
  rw [h]
  rfl

/-- An answer that is there already is handed on. -/
theorem of_ok_bind (a : α) (f : α → Operation β) (s : Stores) : (of (.ok a) >>= f) s = f a s :=
  bind_of_ok rfl

/-- An error that is there already ends the chain before any store is asked. -/
theorem of_error_bind (e : BankError) (f : α → Operation β) (s : Stores) :
    (of (.error e) >>= f) s = (.error e, s) := bind_of_error rfl

/-- Dropping an answer drops nothing but the answer. -/
theorem discard_of_ok (h : x s = (.ok a, s')) : (discard x) s = (.ok ⟨⟩, s') := bind_of_ok h

/-! ## What a chain touches -/

/-- Whether all that an operation does to the stores is within a relation. -/
def Touches (within : Stores → Stores → Prop) {α : Type} (x : Operation α) : Prop :=
  ∀ s, within s (x s).2

variable {within : Stores → Stores → Prop}

/-- A chain keeps to a relation if all its links do and steps within the relation compose. An error
on the way is covered, since a failing link has touched no more than it may. -/
theorem Touches.bind (htrans : ∀ s t u, within s t → within t u → within s u)
    (hx : Touches within x) (hf : ∀ a, Touches within (f a)) : Touches within (x >>= f) := by
  intro s
  have hfirst := hx s
  rcases hrun : x s with ⟨e | a, t⟩
  · rw [bind_of_error hrun]
    rw [hrun] at hfirst
    exact hfirst
  · rw [bind_of_ok hrun]
    rw [hrun] at hfirst
    exact htrans s t _ hfirst (hf a t)

/-- Whether an operation leaves the stores as they are. -/
def Reads {α : Type} (x : Operation α) : Prop := x.Touches fun s s' => s' = s

/-- A chain of links that only read only reads. -/
theorem Reads.bind (hx : x.Reads) (hf : ∀ a, (f a).Reads) : (x >>= f).Reads :=
  Touches.bind (fun _ _ _ h h' => h'.trans h) hx hf

/-- An answer that is there already touches no store. -/
theorem reads_of (answer : Except BankError α) : (of answer).Reads := fun _ => rfl

/-- An error touches no store. -/
theorem reads_throw (e : BankError) : (throw e : Operation α).Reads := fun _ => rfl

/-- The clock is only read. -/
theorem reads_now : now.Reads := fun _ => rfl

/-- A look-up of a session only reads. -/
theorem reads_session? (id : SessionId) : (Backend.memory.session? id).Reads := fun _ => rfl

end Operation

/-! ## At the counter -/

namespace AccountDesk

variable {s : Stores} {id : AccountId} {a : Account}

/-- An owner is shown the account. -/
theorem account_of_owner (hfound : s.ledger.account? id = some a) :
    account .memory a.owner id s = (.ok a, s) := by
  have hcall : Backend.memory.account? id s = (.ok (some a), s) := by
    rw [← hfound]
    rfl
  have howner : a.belongsTo a.owner = true := beq_self_eq_true a.owner
  unfold account
  rw [Operation.bind_of_ok hcall]
  dsimp only
  rw [if_pos howner]
  rfl

/-- An owner is shown the lines of the transfers that are selected. -/
theorem statement_of_owner {request : StatementRequest} {f : TransferSelection}
    (hfound : s.ledger.account? request.account = some a) (hselection : request.selection = .ok f) :
    statement .memory a.owner request s
      = (.ok ((s.ledger.transfersOf f).filterMap (StatementLine.of? request.account)), s) := by
  have hfilter : Operation.of request.selection s = (.ok f, s) := by
    rw [hselection]
    rfl
  have htransfers : Backend.memory.transfersOf f s = (.ok (s.ledger.transfersOf f), s) := rfl
  unfold statement
  rw [Operation.bind_of_ok hfilter,
    Operation.bind_of_ok (Operation.discard_of_ok (account_of_owner hfound)),
    Operation.bind_of_ok htransfers]
  rfl

end AccountDesk

namespace CredentialDesk

open Operation

variable (d : CredentialDesk)

/-- Issuing an access token files nothing. -/
theorem reads_issueAccess (draw : Draw) (username : String) (duration : Span) :
    (d.issueAccess draw username duration).Reads :=
  reads_now.bind fun _ => reads_of _

/-- Verifying a token changes nothing, whether or not it is accepted. -/
theorem reads_verify (token : String) : (d.verify token).Reads :=
  reads_now.bind fun _ => reads_of _

/-- Authorising a header changes nothing, whether or not it presents a credential. -/
theorem reads_authorize (header : Option String) : (d.authorize header).Reads := by
  unfold authorize
  split
  · exact d.reads_verify _
  · exact reads_throw _

/-- A renewal changes nothing, whether or not there is a new token. -/
theorem reads_renew (draw : Draw) (token : String) : (d.renew .memory draw token).Reads := by
  refine (d.reads_verify token).bind fun claims => (reads_session? _).bind fun found => ?_
  split
  · exact reads_throw _
  · refine reads_now.bind fun now => ?_
    split
    · exact reads_throw _
    · exact d.reads_issueAccess draw _ _

end CredentialDesk

end CountingHouse
