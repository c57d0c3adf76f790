/-
The identifiers of the bank's records.

Accounts, transfers, entries and exchange rates are numbered with 64-bit
integers, each kind with numbers of its own. Account numbers are ordered, and the
order matters: rows are locked in it. A session has no number but the identifier
of the refresh token behind it.
-/
import CountingHouse.Uuid

set_option autoImplicit false

namespace CountingHouse

/-! ## The range of stored integers -/

def leastStored : Int := -9223372036854775808

def greatestStored : Int := 9223372036854775807

/-- Whether an integer fits a row. -/
def IsStored (n : Int) : Prop := leastStored ≤ n ∧ n ≤ greatestStored

instance (n : Int) : Decidable (IsStored n) :=
  inferInstanceAs (Decidable (leastStored ≤ n ∧ n ≤ greatestStored))

/-- The integer of a document, if it fits a row. -/
def Json.stored? : Json → Option Int := Json.int? leastStored greatestStored

/-! ## Identifiers -/

/-- The number of an account. -/
structure AccountId where
  number : Int
  deriving DecidableEq, Repr

/-- The number of a transfer. -/
structure TransferId where
  number : Int
  deriving DecidableEq, Repr

/-- The number of an entry. -/
structure EntryId where
  number : Int
  deriving DecidableEq, Repr

/-- The number of an exchange rate. -/
structure RateId where
  number : Int
  deriving DecidableEq, Repr

/-- The identifier of a session. -/
structure SessionId where
  uuid : Uuid
  deriving DecidableEq, Repr

namespace AccountId

instance : LE AccountId := ⟨fun a b => a.number ≤ b.number⟩

instance : LT AccountId := ⟨fun a b => a.number < b.number⟩

instance (a b : AccountId) : Decidable (a ≤ b) := inferInstanceAs (Decidable (a.number ≤ b.number))

instance (a b : AccountId) : Decidable (a < b) := inferInstanceAs (Decidable (a.number < b.number))

/-- Two accounts in the order in which their rows are locked: the lower number first. -/
def ordered (a b : AccountId) : AccountId × AccountId := if a ≤ b then (a, b) else (b, a)

/-- The order of two accounts does not depend on which is named first. -/
theorem ordered_comm (a b : AccountId) : ordered a b = ordered b a := by
  obtain ⟨m⟩ := a
  obtain ⟨n⟩ := b
  unfold ordered
  split <;> split
  · next h k =>
    have hm : m ≤ n := h
    have hn : n ≤ m := k
    have : m = n := by omega
    subst this
    rfl
  · rfl
  · rfl
  · next h k =>
    have hm : ¬ m ≤ n := h
    have hn : ¬ n ≤ m := k
    omega

end AccountId

def intText (n : Int) : String := String.ofList (Text.intNumeral n)

end CountingHouse
