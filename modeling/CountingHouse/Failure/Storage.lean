/-
Failures of a storage engine, and what they mean for the operation.

A statement that fails has written nothing, so a serialization failure, a
deadlock and a lock that is not available (states 40001, 40P01 and 55P03) are
contention, a broken uniqueness constraint (23505) is a duplicate, a pool without
a free connection is contention, and the rest is a fault. At the end of a unit of
work the same states mean the same, because the engine has rolled back before it
reports them. But when the connection fails there, nobody knows whether the unit
was committed.
-/
import CountingHouse.Failure.BankError

set_option autoImplicit false

namespace CountingHouse

/-- How a storage engine fails. -/
inductive StorageError where
  | database (code : Option String) (text : String) (constraint : Option String)
  | io (text : String)
  | tls (text : String)
  | protocol (text : String)
  | configuration (text : String)
  | decode (text : String)
  | columnNotFound (name : String)
  | rowNotFound
  | poolTimedOut
  | poolClosed
  | workerCrashed
  /-- A failure of any other kind, of which nothing but its wording is ever looked at. -/
  | other (text : String)
  deriving DecidableEq, Repr

namespace StorageError

def message : StorageError → String
  | database _ text _ => "error returned from database: " ++ text
  | io text => "error communicating with database: " ++ text
  | tls text => "error occurred while attempting to establish a TLS connection: " ++ text
  | protocol text => "encountered unexpected or invalid data: " ++ text
  | configuration text => "error with configuration: " ++ text
  | decode text => "error occurred while decoding: " ++ text
  | columnNotFound name => "no column found for name: " ++ name
  | rowNotFound => "no rows returned by a query that expected to return at least one row"
  | poolTimedOut => "pool timed out while waiting for an open connection"
  | poolClosed => "attempted to acquire a connection on a closed pool"
  | workerCrashed => "attempted to communicate with a crashed background worker"
  | other text => text

/-- The states in which a database gives up a unit of work in favour of another. -/
def contentionStates : List String := ["40001", "40P01", "55P03"]

def uniqueViolation : String := "23505"

/-- The error of an operation one of whose statements failed. -/
def toBankError (context : String) : StorageError → BankError
  | e@(database code text constraint) =>
    match code with
    | some state =>
      if state ∈ contentionStates then .contention (.other (context ++ ": " ++ text))
      else if state = uniqueViolation then
        .duplicate (.other (context ++ ": " ++ constraint.getD "unique constraint"))
      else .internal (.other (context ++ ": " ++ e.message))
    | none => .internal (.other (context ++ ": " ++ e.message))
  | poolTimedOut => .contention (.other (context ++ ": pool timed out"))
  | e => .internal (.other (context ++ ": " ++ e.message))

/-- The error of an operation whose unit of work could not be committed. -/
def atCommit (context : String) : StorageError → BankError
  | e@(database _ _ _) => toBankError context e
  | e@(io _) | e@(tls _) | e@(protocol _) | e@poolClosed | e@workerCrashed =>
    .indeterminate (.other (context ++ ": commit outcome unknown: " ++ e.message))
  | e => .internal (.other (context ++ ": " ++ e.message))

end StorageError

end CountingHouse
