/-
The table of sessions.

Sessions are filed under their identifiers and stay for good. The only thing that is
ever changed about a session is that it gets blocked.
-/
import CountingHouse.Session.Basic

set_option autoImplicit false

namespace CountingHouse

/-- The sessions, in the order in which they were created. -/
structure SessionTable where
  rows : List Session := []
  deriving Repr

namespace SessionTable

def empty : SessionTable := {}

def size (t : SessionTable) : Nat := t.rows.length

def find? (t : SessionTable) (id : SessionId) : Option Session := t.rows.find? fun s => s.id == id

/-- Files a new session, unless its identifier is taken. -/
def create (id : SessionId) (username refreshToken : String) (client : Client)
    (expiresAt now : Instant) (t : SessionTable) : Except BankError Session × SessionTable :=
  match t.find? id with
  | some _ => (.error (.duplicate (.session id)), t)
  | none =>
    let session : Session := ⟨id, username, refreshToken, client, false, expiresAt, now⟩
    (.ok session, { rows := t.rows ++ [session] })

/-- Blocks the session of an identifier, if there is one. -/
def block (id : SessionId) (t : SessionTable) : Option Session × SessionTable :=
  let blocked : SessionTable :=
    { rows := t.rows.map fun s => if s.id == id then { s with isBlocked := true } else s }
  (blocked.find? id, blocked)

@[simp]
theorem find?_empty (id : SessionId) : empty.find? id = none := rfl

@[simp]
theorem size_block (id : SessionId) (t : SessionTable) : (t.block id).2.size = t.size := by
  simp [block, size]

end SessionTable

end CountingHouse
