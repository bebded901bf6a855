import OutboxReplicator.Outbox.Record
/-!
# The outbox table

The outbox is a table of rows in id order.  Ids are signed 64-bit and come from a
sequence: a new row gets one more than the largest id the table ever held (and 1 at
first), and a row written with its own id raises the sequence to it.  Once the
sequence holds the largest id the table is full.  Nothing is ever deleted.  A write
reports the id it gave, and a negative id there aborts.

Reads select and order rows:

* pending and retryable rows by creation time, then id;
* failed rows by failure time, latest first and rows without one last, then id,
  highest first.

A read's limit is a signed 64-bit query parameter, and a larger one aborts.  Every
selected row must read back: a retry count that grew past its 32-bit column fails the
read as a database fault, before any row's tags are read.

Times are compared as the table stores them, as text (`TimestampStyle.stored`).

Updates are guarded: claiming needs a pending row; marking processed or failed needs a
row that is not completed; requeueing takes failed rows that have retries left and
failed no later than a cutoff; releasing takes processing rows claimed no later than a
cutoff.  A cutoff is the current time less a span, which fails for a span too long to
represent and aborts for one that reaches before the calendar.
-/

namespace OutboxReplicator

/-- The outbox table. -/
structure Outbox where
  /-- The rows, in ascending id order. -/
  rows : List OutboxRow
  /-- The largest id the table ever held. -/
  lastId : Int
  deriving Repr

/-- Counts of records by status. -/
structure OutboxStats where
  /-- Pending records. -/
  pending : Nat
  /-- Records held by a processor. -/
  processing : Nat
  /-- Completed records. -/
  completed : Nat
  /-- Failed records. -/
  failed : Nat
  /-- Failed records without retries left. -/
  exhausted : Nat
  deriving DecidableEq, Repr

namespace OutboxStats

/-- The stats as JSON. -/
def toJson (s : OutboxStats) : Json :=
  Json.object
    [("pending", Json.nat s.pending), ("processing", Json.nat s.processing),
     ("completed", Json.nat s.completed), ("failed", Json.nat s.failed),
     ("exhausted", Json.nat s.exhausted)]

end OutboxStats

namespace Instant

/-- The text an instant is stored and compared as. -/
def storedText (t : Instant) : String := t.format .stored

/-- Whether `a` is stored as a text not after `b`'s. -/
def storedNotAfter (a b : Instant) : Bool := a.storedText ≤ b.storedText

end Instant

namespace Outbox

/-- The empty table. -/
def empty : Outbox := ⟨[], 0⟩

/-- Put a row among rows in id order. -/
def insertById (r : OutboxRow) : List OutboxRow → List OutboxRow
  | [] => [r]
  | s :: rest => if r.id < s.id then r :: s :: rest else s :: insertById r rest

/-- The row with an id. -/
def find? (o : Outbox) (id : Int) : Option OutboxRow := o.rows.find? (·.id == id)

/-- The table with the row of the same id replaced. -/
def replace (o : Outbox) (r : OutboxRow) : Outbox :=
  { o with rows := o.rows.map fun s => if s.id == r.id then r else s }

/-- The largest id: ids are signed 64-bit. -/
def maxId : Int := Int.pow 2 63 - 1

/-- The next id of the sequence, unless the table is full. -/
def nextId (o : Outbox) : Except DatabaseError Int :=
  if o.lastId < maxId then .ok (o.lastId + 1) else .error .full

/-- Write a new record created at `now`, with the next id of the sequence. -/
def append (o : Outbox) (now : Instant) (r : NewRecord) : Except DatabaseError (Int × Outbox) := do
  let id ← o.nextId
  let row : OutboxRow :=
    { id, entityType := r.entityType, entityId := r.entityId, operation := r.operation.tag,
      payload := Json.reread r.payload, status := OutboxStatus.pending.tag, retryCount := 0,
      error := none,
      createdAt := now, processedAt := none, correlationId := r.correlationId,
      claimedAt := none, failedAt := none }
  pure (id, { rows := o.rows ++ [row], lastId := id })

/-- Write records one after another, each created at its own time, stopping at the
first error. -/
def appendAll (o : Outbox) : List (Instant × NewRecord) → Except DatabaseError (List Int × Outbox)
  | [] => .ok ([], o)
  | (t, r) :: rest => do
    let (id, o) ← o.append t r
    let (ids, o) ← appendAll o rest
    pure (id :: ids, o)

/-- Write a row as given, its payload as stored; a row without an id takes the next
one.  An id already in the table is refused. -/
def insertRow (o : Outbox) (id? : Option Int) (mk : Int → OutboxRow) :
    Except DatabaseError (Int × Outbox) := do
  let id ← match id? with
    | some id => pure id
    | none => o.nextId
  if (o.find? id).isSome then .error .duplicateId
  else
    let row := mk id
    pure (id, { rows := insertById { row with payload := Json.reread row.payload } o.rows,
                lastId := max o.lastId id })

/-- The abort of a write that reports a negative id. -/
def negativeIdAbort : String := "internal error: entered unreachable code: negative last_insert_rowid"

/-- Write a row as `insertRow` does and report its id; a negative id aborts, and the row
stays written. -/
def seed (o : Outbox) (id? : Option Int) (mk : Int → OutboxRow) : Except Fault Int × Outbox :=
  match o.insertRow id? mk with
  | .error e => (.error (.database e), o)
  | .ok (id, o) => (if id < 0 then .error (.abort negativeIdAbort) else .ok id, o)

/-- Creation order as stored: creation text, then id. -/
def createdOrder (a b : OutboxRow) : Bool :=
  a.createdAt.storedText < b.createdAt.storedText ||
    (a.createdAt.storedText == b.createdAt.storedText && a.id ≤ b.id)

/-- Failure order: latest failure first, rows without one last, then highest id first. -/
def failedOrder (a b : OutboxRow) : Bool :=
  match a.failedAt, b.failedAt with
  | some x, some y =>
    y.storedText < x.storedText || (x.storedText == y.storedText && b.id ≤ a.id)
  | some _, none => true
  | none, some _ => false
  | none, none => b.id ≤ a.id

/-- The least and the greatest retry count that the column holds: it is signed 32-bit. -/
def retryCountRange : Int × Int := (-Int.pow 2 31, Int.pow 2 31 - 1)

/-- Why a row does not read back, if it does not: its retry count is out of the
column's range. -/
def unreadable (r : OutboxRow) : Option DatabaseError :=
  if retryCountRange.2 < r.retryCount then some (.outOfColumnRange "retry_count" true)
  else if r.retryCount < retryCountRange.1 then some (.outOfColumnRange "retry_count" false)
  else none

/-- All rows in id order as read back, or the error of the first that does not read. -/
def readRows (o : Outbox) : Except DatabaseError (List OutboxRow) :=
  match o.rows.findSome? unreadable with
  | some e => .error e
  | none => .ok o.rows

/-- Read rows as records, failing at the first row with an unknown tag. -/
def readAll (rows : List OutboxRow) : Except Failure (List OutboxRecord) :=
  rows.mapM OutboxRow.toRecord

/-- Read selected rows as records in a read with a context: a row that does not read
back fails the read as a database fault, and then the first row with an unknown tag
fails it. -/
def readSelected (context : String) (rows : List OutboxRow) : Except Failure (List OutboxRecord) :=
  if (rows.findSome? unreadable).isSome then .error (Failure.database context .other)
  else readAll rows

/-- The largest limit of a read: it is a signed 64-bit query parameter. -/
def maxLimit : Nat := Nat.pow 2 63 - 1

/-- The abort of a limit that no query parameter holds. -/
def limitAbort : String :=
  "called `Result::unwrap()` on an `Err` value: TryFromIntError(PosOverflow)"

/-- A read under a limit: a limit above `maxLimit` aborts before anything is read. -/
def limited {α : Type} (limit : Nat) (read : Except Failure α) : Except Fault α :=
  if maxLimit < limit then .error (.abort limitAbort) else read.mapError .failure

/-- Up to `limit` pending records, oldest first. -/
def pending (o : Outbox) (limit : Nat) : Except Fault (List OutboxRecord) :=
  limited limit <| readSelected "fetch pending outbox records"
    (((o.rows.filter (·.status == OutboxStatus.pending.tag)).mergeSort createdOrder).take limit)

/-- Up to `limit` failed records with retries left, oldest first. -/
def retryable (o : Outbox) (maxRetry : Int) (limit : Nat) : Except Fault (List OutboxRecord) :=
  limited limit <| readSelected "fetch retryable outbox records"
    (((o.rows.filter fun r => r.status == OutboxStatus.failed.tag && r.retryCount < maxRetry).mergeSort
      createdOrder).take limit)

/-- Up to `limit` failed records, latest failure first, for a limit that a query
parameter holds. -/
def failedRecords (o : Outbox) (limit : Nat) : Except Failure (List OutboxRecord) :=
  readSelected "list failed outbox records"
    (((o.rows.filter (·.status == OutboxStatus.failed.tag)).mergeSort failedOrder).take limit)

/-- Up to `limit` failed records, latest failure first. -/
def failedListing (o : Outbox) (limit : Nat) : Except Fault (List OutboxRecord) :=
  limited limit (o.failedRecords limit)

/-- Claim a pending record: it becomes processing, claimed now.  Tells whether it was
claimed. -/
def claim (o : Outbox) (now : Instant) (id : Int) : Bool × Outbox :=
  match o.find? id with
  | some r =>
    if r.status == OutboxStatus.pending.tag then
      (true, o.replace { r with status := OutboxStatus.processing.tag, claimedAt := some now })
    else (false, o)
  | none => (false, o)

/-- Mark a record that is not completed as completed now, clearing its error. -/
def markProcessed (o : Outbox) (now : Instant) (id : Int) : Outbox :=
  match o.find? id with
  | some r =>
    if r.status == OutboxStatus.completed.tag then o
    else o.replace { r with status := OutboxStatus.completed.tag, processedAt := some now,
                            error := none }
  | none => o

/-- Mark a record that is not completed as failed now with a message, counting the
failure. -/
def markFailed (o : Outbox) (now : Instant) (id : Int) (message : String) : Outbox :=
  match o.find? id with
  | some r =>
    if r.status == OutboxStatus.completed.tag then o
    else o.replace { r with status := OutboxStatus.failed.tag, error := some message,
                            retryCount := r.retryCount + 1, failedAt := some now }
  | none => o

/-- Whether a failed row is due for another try at a cutoff. -/
def dueForRetry (maxRetry : Int) (cutoff : Instant) (r : OutboxRow) : Bool :=
  r.status == OutboxStatus.failed.tag && r.retryCount < maxRetry &&
    match r.failedAt with
    | some t => t.storedNotAfter cutoff
    | none => false

/-- Whether a processing row's claim is stale at a cutoff. -/
def staleClaim (cutoff : Instant) (r : OutboxRow) : Bool :=
  r.status == OutboxStatus.processing.tag &&
    match r.claimedAt with
    | some t => t.storedNotAfter cutoff
    | none => false

/-- Make failed rows due at the cutoff pending again; tells how many. -/
def requeue (o : Outbox) (maxRetry : Int) (cutoff : Instant) : Nat × Outbox :=
  ((o.rows.filter (dueForRetry maxRetry cutoff)).length,
   { o with rows := o.rows.map fun r =>
      if dueForRetry maxRetry cutoff r then { r with status := OutboxStatus.pending.tag } else r })

/-- Make processing rows with stale claims pending and unclaimed; tells how many. -/
def release (o : Outbox) (cutoff : Instant) : Nat × Outbox :=
  ((o.rows.filter (staleClaim cutoff)).length,
   { o with rows := o.rows.map fun r =>
      if staleClaim cutoff r then { r with status := OutboxStatus.pending.tag, claimedAt := none }
      else r })

/-- Counts by status; tags that name no status are not counted. -/
def stats (o : Outbox) (maxRetry : Int) : OutboxStats :=
  let count (tag : String) := (o.rows.filter (·.status == tag)).length
  { pending := count OutboxStatus.pending.tag, processing := count OutboxStatus.processing.tag,
    completed := count OutboxStatus.completed.tag, failed := count OutboxStatus.failed.tag,
    exhausted := (o.rows.filter fun r =>
      r.status == OutboxStatus.failed.tag && maxRetry ≤ r.retryCount).length }

/-- The cutoff a span before `now`: a span too long to represent is an internal failure,
and a cutoff before the calendar aborts. -/
def cutoff (now : Instant) (span : Span) : Except Fault Instant :=
  match now.minus span with
  | .ok t => .ok t
  | .error .spanTooLong =>
    .error (.failure (.internal ["duration out of range"]
      (.message "Source duration value is out of range for the target type")))
  | .error .beforeCalendar => .error (.abort "`DateTime - TimeDelta` overflowed")

end Outbox

end OutboxReplicator
