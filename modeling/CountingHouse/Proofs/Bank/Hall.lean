/-
The banking hall.

In the hall any number of callers are served. Most requests are served at once. Moving money
takes longer: a caller who wants it done is given an errand, and what is left of the errand is
carried on piece by piece, among everything else that happens. An `Incident` is one such thing,
so a list of incidents is a run of the whole bank, with its callers interleaved call by call.
An errand may also be carried through while everybody else stands still (`carryOut`); a run
with no other transfers than these is one in which every request is one step.

What others do to the stores by themselves is there as well: the clock is set, faults are
scheduled, and accounts with money in them are put into the ledger.
-/
import CountingHouse.Proofs.Bank.Requests
import CountingHouse.Proofs.Schedule.Pieces

set_option autoImplicit false

namespace CountingHouse

/-! ## Errands -/

/-- What a caller asks for who wants money moved, before anything about it has been checked. -/
structure Instruction where
  caller : String
  source : AccountId
  target : AccountId
  amount : Int
  currency : String

def Instruction.orderIn (w : Instruction) (currency : Currency) : TransferOrder :=
  ⟨w.source, w.target, w.amount, currency, w.caller⟩

/-- The order that an instruction comes to, if a currency can be read in it. -/
def Instruction.order (w : Instruction) : Except BankError TransferOrder :=
  (Currency.parse w.currency).map w.orderIn

/-- What a bank does with an instruction. -/
def Bank.carriesOut (bank : Bank) (w : Instruction) :
    Procedure Premises (Except BankError TransferReceipt) :=
  bank.transferMoney w.caller w.source w.target w.amount w.currency

/-- An instruction, and what is still to be done for it. -/
structure Errand where
  instruction : Instruction
  rest : Procedure Premises (Except BankError TransferReceipt)

/-! ## Incidents -/

/-- Something that happens in the hall. -/
inductive Incident where
  | setClock (now : Instant)
  | scheduleFault (fault : CommitFault)
  | insertAccount (owner : String) (currency : Currency) (balance : Int)
  | serve (request : Request)
  | carryOut (w : Instruction)
  | begin (errand : Nat) (w : Instruction)
  | go (errand : Nat)
  | expire (errand : Nat)
  | leave (errand : Nat)

/-- The premises, and the errands by their names. -/
structure Hall where
  premises : Premises
  errands : Nat → Option Errand := fun _ => none

namespace Hall

def empty (clock : Instant) : Hall := { premises := { stores := { clock } } }

def ledger (h : Hall) : Ledger := h.premises.stores.ledger

def setErrand (i : Nat) (errand : Option Errand) (h : Hall) : Hall :=
  { h with errands := fun j => if j = i then errand else h.errands j }

/-- The hall when others have changed the stores. -/
def withStores (stores : Stores) (h : Hall) : Hall :=
  { h with premises := { h.premises with stores } }

/-- The hall after a piece of an errand, by what is left of it and the premises behind. -/
def proceed (i : Nat) (w : Instruction)
    (piece : Procedure Premises (Except BankError TransferReceipt) × Premises) (h : Hall) : Hall :=
  { h with premises := piece.2 }.setErrand i (some ⟨w, piece.1⟩)

/-- The hall of a bank after an incident. An errand is begun only under a name that is free,
and a caller can leave only while the errand waits. -/
def step (bank : Bank) (h : Hall) : Incident → Hall
  | .setClock now => h.withStores { h.premises.stores with clock := now }
  | .scheduleFault fault =>
    h.withStores { h.premises.stores with
      ledger := h.premises.stores.ledger.scheduleFault fault }
  | .insertAccount owner currency balance =>
    h.withStores { h.premises.stores with
      ledger := (h.premises.stores.ledger.addFundedAccount owner currency balance
        h.premises.stores.clock).2 }
  | .serve request => { h with premises := bank.serve h.premises request }
  | .carryOut w => { h with premises := ((bank.carriesOut w).alone h.premises).2 }
  | .begin i w =>
    match h.errands i with
    | none => h.setErrand i (some ⟨w, bank.carriesOut w⟩)
    | some _ => h
  | .go i =>
    match h.errands i with
    | none => h
    | some t => h.proceed i t.instruction (t.rest.go h.premises)
  | .expire i =>
    match h.errands i with
    | none => h
    | some t => h.proceed i t.instruction (t.rest.expire h.premises)
  | .leave i =>
    match h.errands i with
    | none => h
    | some t =>
      match t.rest.leave h.premises with
      | none => h
      | some premises => { h with premises }.setErrand i none

/-- The hall after incidents, the first of the list first. -/
def run (bank : Bank) (incidents : List Incident) (h : Hall) : Hall :=
  incidents.foldl (step bank) h

/-- The instruction that is carried out in an incident, in part or as a whole. -/
def instruction? (h : Hall) : Incident → Option Instruction
  | .carryOut w => some w
  | .go i => (h.errands i).map Errand.instruction
  | _ => none

/-- The order that is carried out in an incident, in part or as a whole. -/
def Orders (h : Hall) (e : Incident) (r : TransferOrder) : Prop :=
  ∃ w, h.instruction? e = some w ∧ w.order = .ok r

end Hall

end CountingHouse
