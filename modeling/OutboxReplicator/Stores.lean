import OutboxReplicator.Outbox.Table
import OutboxReplicator.Replica.Apply
import OutboxReplicator.Processor.Options
/-!
# The stores of a replicator

A replicator works on two stores and a clock: the outbox of the primary database, the
replica of the secondary database, and the time source.  Every operation here reads
the clock where it needs the current time, so the times it writes never go back in the
order the operations run.

Writing records happens in a transaction: one after another, each at its own time, or
as a batch sharing one time.  A transaction that is rolled back, or that a failed
write ends, leaves the outbox as it was, its sequence of ids included.
-/

namespace OutboxReplicator

/-- The outbox, the replica and the clock. -/
structure Stores where
  /-- The primary outbox. -/
  outbox : Outbox
  /-- The secondary replica. -/
  replica : Replica
  /-- The time source. -/
  clock : Clock

namespace Stores

/-- Empty stores whose clock starts at an instant and ticks a microsecond a reading. -/
def start (t : Instant) : Stores := ⟨Outbox.empty, Replica.empty, .ticking t⟩

/-- Read the clock. -/
def now (s : Stores) : Instant × Stores :=
  let (t, c) := s.clock.read
  (t, { s with clock := c })

/-- Give each record the time of a clock reading, one reading per record. -/
def stampEach (s : Stores) : List NewRecord → List (Instant × NewRecord) × Stores
  | [] => ([], s)
  | r :: rest =>
    let (t, s) := s.now
    let (out, s) := stampEach s rest
    ((t, r) :: out, s)

/-- Write records in one transaction, each at its own time or (`batch`) all at one
time; the outbox keeps them only if the transaction commits.  Gives their ids; an
error of a write ends the transaction, which then keeps nothing. -/
def publish (s : Stores) (records : List NewRecord) (batch commit : Bool) :
    Except Fault (List Int) × Stores :=
  let (stamped, s) :=
    if batch then
      let (t, s) := s.now
      (records.map fun r => (t, r), s)
    else s.stampEach records
  match s.outbox.appendAll stamped with
  | .error e => (.error (.database e), s)
  | .ok (ids, outbox) => (.ok ids, if commit then { s with outbox } else s)

/-- Make processing records whose claim is older than `span` pending again. -/
def releaseStale (s : Stores) (span : Span) : Except Fault Nat × Stores :=
  let (t, s) := s.now
  match Outbox.cutoff t span with
  | .error e => (.error e, s)
  | .ok c =>
    let (n, outbox) := s.outbox.release c
    (.ok n, { s with outbox })

/-- Make failed records with retries left whose failure is older than `span` pending
again. -/
def requeueDue (s : Stores) (maxRetry : Int) (span : Span) : Except Fault Nat × Stores :=
  let (t, s) := s.now
  match Outbox.cutoff t span with
  | .error e => (.error e, s)
  | .ok c =>
    let (n, outbox) := s.outbox.requeue maxRetry c
    (.ok n, { s with outbox })

/-- Claim a pending record now. -/
def claim (s : Stores) (id : Int) : Bool × Stores :=
  let (t, s) := s.now
  let (ok, outbox) := s.outbox.claim t id
  (ok, { s with outbox })

/-- Mark a record processed now. -/
def markProcessed (s : Stores) (id : Int) : Stores :=
  let (t, s) := s.now
  { s with outbox := s.outbox.markProcessed t id }

/-- Mark a record failed now. -/
def markFailed (s : Stores) (id : Int) (message : String) : Stores :=
  let (t, s) := s.now
  { s with outbox := s.outbox.markFailed t id message }

/-- Replicate a record's change into the replica. -/
def replicate (s : Stores) (entityType : String) (op : Operation) (payload : Json) :
    Except Failure Outcome × Stores :=
  match s.replica.replicate entityType op payload with
  | .ok (o, replica) => (.ok o, { s with replica })
  | .error f => (.error f, s)

end Stores

end OutboxReplicator
