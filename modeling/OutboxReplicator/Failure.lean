import OutboxReplicator.Json.Decode
import OutboxReplicator.Domain.Entity
/-!
# Replication failures

A replication step fails for one of three reasons: the record names no known entity
kind, its payload does not decode as that kind, or something else went wrong inside
(the store, a conversion).  The first two are permanent: retrying the same record
cannot succeed.  An internal failure carries its context, outermost first, and its
root cause, which is a message or a fault of the database.

A failure has three texts: its kind, its failure message (stored with a failed
record) and its display (shown to HTTP clients), which hides internal details.
-/

namespace OutboxReplicator

/-- A fault reported by a database. -/
inductive DatabaseFault where
  /-- A unique constraint refused a row. -/
  | uniqueViolation
  /-- An update found no row to change. -/
  | recordNotUpdated
  /-- Any other fault. -/
  | other
  deriving DecidableEq, Repr

namespace DatabaseFault

/-- The name of the fault. -/
def name : DatabaseFault → String
  | .uniqueViolation => "UniqueViolation"
  | .recordNotUpdated => "RecordNotUpdated"
  | .other => "Other"

end DatabaseFault

/-- The root cause of an internal failure. -/
inductive InternalCause where
  /-- A cause described by a message. -/
  | message (text : String)
  /-- A fault of the database. -/
  | database (fault : DatabaseFault)
  deriving DecidableEq, Repr

namespace InternalCause

/-- The text of the cause.  A database fault stands as a fixed placeholder, since the
database's own wording is not part of the behaviour. -/
def text : InternalCause → String
  | .message t => t
  | .database _ => "<database error>"

end InternalCause

/-- Why replicating a record failed. -/
inductive Failure where
  /-- The entity type is not a known kind. -/
  | unknownEntityType (tag : String)
  /-- The payload does not decode as the kind. -/
  | invalidPayload (kind : EntityKind) (cause : DecodeError)
  /-- Anything else: context, outermost first, and the root cause. -/
  | internal (context : List String) (cause : InternalCause)
  deriving Repr

namespace Failure

/-- An internal failure from a database fault in an operation. -/
def database (context : String) (fault : DatabaseFault) : Failure :=
  .internal [context] (.database fault)

/-- The kind, as clients see it. -/
def kind : Failure → String
  | .unknownEntityType _ => "UNKNOWN_ENTITY_TYPE"
  | .invalidPayload _ _ => "INVALID_PAYLOAD"
  | .internal _ _ => "INTERNAL"

/-- Whether retrying cannot help. -/
def isPermanent : Failure → Bool
  | .unknownEntityType _ => true
  | .invalidPayload _ _ => true
  | .internal _ _ => false

/-- The full message: for an internal failure its context and cause joined by `: `. -/
def failureMessage : Failure → String
  | .unknownEntityType t => EntityKind.unknownMessage t
  | .invalidPayload k e => "invalid " ++ k.tag ++ " payload: " ++ e.message
  | .internal ctx cause => String.intercalate ": " (ctx ++ [cause.text])

/-- The text shown to clients: internal details are hidden. -/
def display : Failure → String
  | .internal _ _ => "internal error"
  | f => f.failureMessage

/-- The HTTP status of the failure. -/
def httpStatus : Failure → Nat
  | .internal _ _ => 500
  | _ => 422

/-- The HTTP body of the failure. -/
def body (f : Failure) : Json :=
  Json.object [("kind", .string f.kind), ("message", .string f.display)]

end Failure

/-- An error of the database that an operation passes on as it is. -/
inductive DatabaseError where
  /-- No id is left: the table's id sequence reached the largest id. -/
  | full
  /-- A row with the same id is already in the table. -/
  | duplicateId
  /-- A stored integer does not fit its column's type when read back: above it
  (`tooLarge`) or below it. -/
  | outOfColumnRange (column : String) (tooLarge : Bool)
  deriving DecidableEq, Repr

namespace DatabaseError

/-- The text of the error: how a statement failed, then the database's words. -/
def message : DatabaseError → String
  | .full => "Execution Error: error returned from database: (code: 13) database or disk is full"
  | .duplicateId =>
    "Execution Error: error returned from database: (code: 1555) UNIQUE constraint failed: outbox_records.id"
  | .outOfColumnRange column tooLarge =>
    "Query Error: error occurred while decoding column \"" ++ column ++ "\": number too " ++
      (if tooLarge then "large" else "small") ++ " to fit in target type"

end DatabaseError

/-- How an operation can stop early: with a failure it reports, with an error of the
database it passes on, or by aborting, as an overflowing computation does, which no
caller can catch and go on. -/
inductive Fault where
  /-- A reported failure. -/
  | failure (f : Failure)
  /-- An error of the database, passed on. -/
  | database (e : DatabaseError)
  /-- An abort, with its message. -/
  | abort (message : String)
  deriving Repr

end OutboxReplicator
