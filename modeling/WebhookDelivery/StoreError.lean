import WebhookDelivery.Status

/-!
# Errors of the message store

What a store can fail with, and how the failures of a database driver map to it: a missing row and
a broken constraint are told apart, all else is a failure of the database.
-/

namespace WebhookDelivery

/-- A failure of the store or of a model's own rules (`CoreError`). -/
inductive StoreError where
  | database (message : String)
  | notFound (message : String)
  | constraintViolation (message : String)
  | invalidInput (message : String)
  deriving DecidableEq, Repr

namespace StoreError

/-- The full text of the error. -/
def text : StoreError → String
  | database m => "Database error: " ++ m
  | notFound m => "Not found: " ++ m
  | constraintViolation m => "Constraint violation: " ++ m
  | invalidInput m => "Invalid input: " ++ m

/-- Whether something was simply not there (`is_not_found`). -/
def isNotFound : StoreError → Bool
  | notFound _ => true
  | _ => false

end StoreError

-- ---------------------------------------------------------------------------
-- Driver failures
-- ---------------------------------------------------------------------------

/-- What a database rejects a statement for. -/
inductive Violation where
  | unique
  | foreignKey
  | check
  /-- Anything else, a missing value among them. -/
  | other
  deriving DecidableEq, Repr

/-- A failure that a database driver reports. -/
inductive DriverFailure where
  | rowNotFound
  | poolTimedOut
  | poolClosed
  | workerCrashed
  | protocol (message : String)
  | columnNotFound (name : String)
  | rejected (violation : Violation) (message : String)
  deriving DecidableEq, Repr

namespace DriverFailure

/-- The driver's own text. -/
def text : DriverFailure → String
  | rowNotFound => "no rows returned by a query that expected to return at least one row"
  | poolTimedOut => "pool timed out while waiting for an open connection"
  | poolClosed => "attempted to acquire a connection on a closed pool"
  | workerCrashed => "attempted to communicate with a crashed background worker"
  | protocol m => "encountered unexpected or invalid data: " ++ m
  | columnNotFound name => "no column found for name: " ++ name
  | rejected _ m => "error returned from database: " ++ m

/-- The store error that a driver failure amounts to (`from` of `CoreError`). -/
def toStoreError : DriverFailure → StoreError
  | rowNotFound => .notFound "requested entity not found"
  | rejected .unique m => .constraintViolation ("unique constraint violation: " ++ m)
  | rejected .foreignKey m => .constraintViolation ("foreign key constraint violation: " ++ m)
  | rejected .check m => .constraintViolation ("check constraint violation: " ++ m)
  | failure => .database failure.text

end DriverFailure

/-- The status of a name; any other name is invalid input (`from_str` of `MessageStatus`). -/
def Status.parse (s : String) : Except StoreError Status :=
  match Status.ofText? s with
  | some status => .ok status
  | none => .error (.invalidInput ("unknown message status: " ++ s))

end WebhookDelivery
