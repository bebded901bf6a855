import OutboxReplicator.Stores
/-!
# One processing cycle

A cycle does, in order:

1. release claims older than the claim timeout;
2. requeue failed records with retries left that failed longer than the retry delay
   ago;
3. take up to a batch of pending records, oldest first (a fault here ends the cycle
   with that fault);
4. for each record, in creation order: claim it, replicate it, and mark it processed,
   or failed with the failure's message.

A failure of the first two steps counts as nothing done and the cycle goes on; an
abort ends the cycle at once.  Whatever was written before a cycle ends stays.
-/

namespace OutboxReplicator

/-- What happened to one record of a cycle. -/
inductive RecordOutcome where
  /-- Claimed and delivered. -/
  | completed
  /-- Claimed, but the delivery failed. -/
  | failed
  /-- Not claimed: it was no longer pending. -/
  | skipped
  deriving DecidableEq, Repr

namespace Processor

/-- Claim, replicate and mark one record. -/
def processRecord (s : Stores) (r : OutboxRecord) : RecordOutcome × Stores :=
  let (claimed, s) := s.claim r.id
  if !claimed then (.skipped, s)
  else
    match s.replicate r.entityType r.operation r.payload with
    | (.ok _, s) => (.completed, s.markProcessed r.id)
    | (.error f, s) => (.failed, s.markFailed r.id f.failureMessage)

/-- Process records in order, counting outcomes into the report. -/
def processAll (s : Stores) (report : CycleReport) : List OutboxRecord → CycleReport × Stores
  | [] => (report, s)
  | r :: rest =>
    let (o, s) := processRecord s r
    let report := match o with
      | .completed => { report with completed := report.completed + 1 }
      | .failed => { report with failed := report.failed + 1 }
      | .skipped => { report with skipped := report.skipped + 1 }
    processAll s report rest

/-- The count of a housekeeping step, or its abort; any other fault counts as zero. -/
def housekeepingCount : Except Fault Nat → Except String Nat
  | .ok n => .ok n
  | .error (.failure _) => .ok 0
  | .error (.database _) => .ok 0
  | .error (.abort m) => .error m

/-- Run one cycle. -/
def cycle (opts : OutboxOptions) (s : Stores) : Except Fault CycleReport × Stores :=
  let (rel, s) := s.releaseStale opts.claimTimeout
  match housekeepingCount rel with
  | .error m => (.error (.abort m), s)
  | .ok released =>
    let (req, s) := s.requeueDue opts.maxRetryCount opts.retryDelay
    match housekeepingCount req with
    | .error m => (.error (.abort m), s)
    | .ok requeued =>
      match s.outbox.pending opts.batchSize with
      | .error f => (.error f, s)
      | .ok batch =>
        let batch := batch.mergeSort OutboxRecord.fifoBefore
        let (report, s) :=
          processAll s { released, requeued, fetched := batch.length } batch
        (.ok report, s)

end Processor

end OutboxReplicator
