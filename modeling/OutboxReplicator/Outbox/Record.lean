import OutboxReplicator.Outbox.Tags
import OutboxReplicator.Replica.Change
import OutboxReplicator.Time.Text
import OutboxReplicator.Json.RoundTrip
/-!
# Outbox records

A row of the outbox table holds a change to replicate: the entity's type and key, the
operation, the payload, and the row's progress (status, retry count, last error and
the times it was created, claimed, processed and failed).  The table stores the
operation and the status as text, so a row may hold tags that name nothing.

The table keeps a payload as JSON text, so a row's payload is `Json.reread` of the
value written: its floats may each be one unit off.

A record is the typed reading of a row; reading fails on an unknown tag.  A new record
is what a writer hands in: the row without its id, status and times.
-/

namespace OutboxReplicator

/-- A record about to be written: id, status and times come at write time. -/
structure NewRecord where
  /-- The entity type, stored unchecked. -/
  entityType : String
  /-- The key of the entity. -/
  entityId : Int
  /-- The operation. -/
  operation : Operation
  /-- The payload, stored unchecked. -/
  payload : Json
  /-- An optional id tying the record to a request. -/
  correlationId : Option String
  deriving Repr

namespace NewRecord

/-- The record of an operation on an entity: its kind's tag, its key and its JSON form. -/
def forEntity (op : Operation) (c : Change) (correlationId : Option String) : NewRecord :=
  ⟨c.kind.tag, c.key, op, c.toJson, correlationId⟩

end NewRecord

/-- A row of the outbox table, as stored. -/
structure OutboxRow where
  /-- The id, unique in the table. -/
  id : Int
  /-- The entity type. -/
  entityType : String
  /-- The key of the entity. -/
  entityId : Int
  /-- The operation's tag. -/
  operation : String
  /-- The payload, as it reads back. -/
  payload : Json
  /-- The status's tag. -/
  status : String
  /-- How many times the record failed. -/
  retryCount : Int
  /-- The message of the last failure. -/
  error : Option String
  /-- When the record was written. -/
  createdAt : Instant
  /-- When the record was completed. -/
  processedAt : Option Instant
  /-- An optional id tying the record to a request. -/
  correlationId : Option String
  /-- When a processor last claimed the record. -/
  claimedAt : Option Instant
  /-- When the record last failed. -/
  failedAt : Option Instant
  deriving Repr

/-- The typed reading of a row. -/
structure OutboxRecord where
  /-- The id. -/
  id : Int
  /-- The entity type. -/
  entityType : String
  /-- The key of the entity. -/
  entityId : Int
  /-- The operation. -/
  operation : Operation
  /-- The payload. -/
  payload : Json
  /-- The status. -/
  status : OutboxStatus
  /-- How many times the record failed. -/
  retryCount : Int
  /-- The message of the last failure. -/
  error : Option String
  /-- When the record was written. -/
  createdAt : Instant
  /-- When the record was completed. -/
  processedAt : Option Instant
  /-- An optional id tying the record to a request. -/
  correlationId : Option String
  /-- When a processor last claimed the record. -/
  claimedAt : Option Instant
  /-- When the record last failed. -/
  failedAt : Option Instant
  deriving Repr

/-- A timestamp or `null`. -/
def optStamp (stamp : Instant → Json) : Option Instant → Json
  | some t => stamp t
  | none => .null

namespace OutboxRow

/-- The typed record of a row; an unknown operation or status tag is an internal
failure naming the row. -/
def toRecord (r : OutboxRow) : Except Failure OutboxRecord :=
  match Operation.ofTag? r.operation with
  | none => .error (.internal ["outbox record " ++ toString r.id ++ " has unknown operation"]
      (.message (unknownVariantMessage r.operation)))
  | some op =>
    match OutboxStatus.ofTag? r.status with
    | none => .error (.internal ["outbox record " ++ toString r.id ++ " has unknown status"]
        (.message (unknownVariantMessage r.status)))
    | some st =>
      .ok { id := r.id, entityType := r.entityType, entityId := r.entityId, operation := op,
            payload := r.payload, status := st, retryCount := r.retryCount, error := r.error,
            createdAt := r.createdAt, processedAt := r.processedAt,
            correlationId := r.correlationId, claimedAt := r.claimedAt, failedAt := r.failedAt }

/-- The row as JSON, tags as stored and timestamps written by `stamp`. -/
def toJson (stamp : Instant → Json) (r : OutboxRow) : Json :=
  Json.object
    [("id", Json.int r.id), ("entity_type", .string r.entityType),
     ("entity_id", Json.int r.entityId), ("operation", .string r.operation),
     ("payload", r.payload), ("status", .string r.status), ("retry_count", Json.int r.retryCount),
     ("error", Json.optString r.error), ("created_at", stamp r.createdAt),
     ("processed_at", optStamp stamp r.processedAt),
     ("correlation_id", Json.optString r.correlationId),
     ("claimed_at", optStamp stamp r.claimedAt), ("failed_at", optStamp stamp r.failedAt)]

end OutboxRow

namespace OutboxRecord

/-- A timestamp of a record: milliseconds and `Z`. -/
def stampMillis (t : Instant) : Json := .string (t.format .millis)

/-- The record as JSON, timestamps written by `stamp`. -/
def toJson (stamp : Instant → Json) (r : OutboxRecord) : Json :=
  Json.object
    [("id", Json.int r.id), ("entity_type", .string r.entityType),
     ("entity_id", Json.int r.entityId), ("operation", .string r.operation.tag),
     ("payload", r.payload), ("status", .string r.status.tag),
     ("retry_count", Json.int r.retryCount), ("error", Json.optString r.error),
     ("created_at", stamp r.createdAt), ("processed_at", optStamp stamp r.processedAt),
     ("correlation_id", Json.optString r.correlationId),
     ("claimed_at", optStamp stamp r.claimedAt), ("failed_at", optStamp stamp r.failedAt)]

/-- The order in which records are processed: by creation time, then id. -/
def fifoBefore (a b : OutboxRecord) : Bool :=
  a.createdAt.before b.createdAt || (a.createdAt = b.createdAt && a.id ≤ b.id)

end OutboxRecord

end OutboxReplicator
