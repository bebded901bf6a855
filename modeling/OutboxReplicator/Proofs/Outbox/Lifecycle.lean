import OutboxReplicator.Proofs.Processor.Steps
/-!
# The life of an outbox record

The stores answer a fixed set of calls (`Action`): the writer's publish, the store's
claim, marks, requeue and release, its reads, and a processor's cycle, each under any
options.  A state is reachable when some sequence of calls leads to it from stores with
an empty outbox (`Stores.Reachable`).

`outbox_lifecycle` says of every reachable state and every call from it:

* every row is consistent (`OutboxRow.Consistent`): its status names one, the completion
  time is set exactly on completed rows, a completed row has no error, a failed row has
  its failure time, its error and at least one failure counted, a processing row has its
  claim time, and the retry count is never negative;
* the call changes the table as `Outbox.Evolves` allows: rows go through guarded updates
  and new rows are appended, so no row is removed, the columns fixed at write time never
  change, the retry count grows by exactly the failures recorded and by nothing else,
  and a completed row never changes again.

Since a completed row has its completion time and never changes, that time is set once.
-/

namespace OutboxReplicator

/-- A call on the stores. -/
inductive Action where
  /-- Write records in a transaction, one at a time or as a batch, and commit or roll
  back. -/
  | publish (records : List NewRecord) (batch commit : Bool)
  /-- Claim a pending record. -/
  | claim (id : Int)
  /-- Mark a record processed. -/
  | markProcessed (id : Int)
  /-- Mark a record failed. -/
  | markFailed (id : Int) (message : String)
  /-- Requeue failed records that are due. -/
  | requeueDue (maxRetry : Int) (span : Span)
  /-- Release stale claims. -/
  | releaseStale (span : Span)
  /-- Read pending records. -/
  | readPending (limit : Nat)
  /-- Read failed records with retries left. -/
  | readRetryable (maxRetry : Int) (limit : Nat)
  /-- List failed records. -/
  | readFailed (limit : Nat)
  /-- Count records by status. -/
  | readStats (maxRetry : Int)
  /-- Run one processing cycle. -/
  | runCycle (opts : OutboxOptions)

namespace Stores

/-- The stores after a call.  A read answers from the tables and changes nothing. -/
def perform (s : Stores) : Action → Stores
  | .publish records batch commit => (s.publish records batch commit).2
  | .claim id => (s.claim id).2
  | .markProcessed id => s.markProcessed id
  | .markFailed id message => s.markFailed id message
  | .requeueDue maxRetry span => (s.requeueDue maxRetry span).2
  | .releaseStale span => (s.releaseStale span).2
  | .readPending _ | .readRetryable _ _ | .readFailed _ | .readStats _ => s
  | .runCycle opts => (Processor.cycle opts s).2

/-- The states that calls reach from stores with an empty outbox. -/
inductive Reachable : Stores → Prop where
  | start (replica : Replica) (clock : Clock) : Reachable ⟨Outbox.empty, replica, clock⟩
  | step {s : Stores} (a : Action) : Reachable s → Reachable (s.perform a)

end Stores

namespace Outbox

/-- How one call may change the table: every row goes through one sequence of guarded
updates and new rows are appended after them.  Row by row, the columns fixed at write
time stay, the retry count grows by the failures the updates record, and a completed row
stays as it is. -/
def Evolves (o o' : Outbox) : Prop :=
  ∃ (us : List RowUpdate) (fresh : List OutboxRow),
    o'.rows = o.rows.map (RowUpdate.applyAll us) ++ fresh ∧
    ∀ r ∈ o.rows,
      (RowUpdate.applyAll us r).origin = r.origin ∧
      (RowUpdate.applyAll us r).retryCount = r.retryCount + RowUpdate.failures us r ∧
      (r.status = OutboxStatus.completed.tag → RowUpdate.applyAll us r = r)

variable {o o' : Outbox}

/-- Updates followed by appended rows are an evolution: the row facts hold of every
sequence of updates. -/
theorem evolves_of_rows (us : List RowUpdate) (fresh : List OutboxRow)
    (rows : o'.rows = o.rows.map (RowUpdate.applyAll us) ++ fresh) : o.Evolves o' :=
  ⟨us, fresh, rows, fun r _ =>
    ⟨RowUpdate.applyAll_origin us r, RowUpdate.applyAll_retryCount us r,
      RowUpdate.applyAll_of_completed us⟩⟩

theorem evolves_update (us : List RowUpdate) : o.Evolves (o.update us) :=
  evolves_of_rows us [] (by simp)

theorem evolves_append {fresh : List OutboxRow} (rows : o'.rows = o.rows ++ fresh) :
    o.Evolves o' :=
  evolves_of_rows [] fresh (by simpa using rows)

end Outbox

namespace Stores

variable {s : Stores}

/-- Every call keeps the outbox well formed and changes it as an evolution. -/
theorem perform_outbox (wf : s.outbox.WellFormed) (a : Action) :
    (s.perform a).outbox.WellFormed ∧ s.outbox.Evolves (s.perform a).outbox := by
  have updated : ∀ {o : Outbox} (us : List RowUpdate), o = s.outbox.update us →
      o.WellFormed ∧ s.outbox.Evolves o := by
    rintro _ us rfl
    exact ⟨wf.update us, Outbox.evolves_update us⟩
  have distinct := wf.idsDistinct
  cases a with
  | publish records batch commit =>
    obtain ⟨wf', fresh, rows, -⟩ := s.publish_outbox records batch commit wf
    exact ⟨wf', Outbox.evolves_append rows⟩
  | claim id => exact updated _ (by rw [perform, claim_outbox, Outbox.claim_snd distinct])
  | markProcessed id =>
    exact updated _ (by rw [perform, markProcessed_outbox, Outbox.markProcessed_eq distinct])
  | markFailed id message =>
    exact updated _ (by rw [perform, markFailed_outbox, Outbox.markFailed_eq distinct])
  | requeueDue maxRetry span =>
    obtain ⟨us, requeued⟩ := s.requeueDue_outbox maxRetry span
    exact updated us requeued
  | releaseStale span =>
    obtain ⟨us, released⟩ := s.releaseStale_outbox span
    exact updated us released
  | readPending _ => exact updated [] (by simp [perform])
  | readRetryable _ _ => exact updated [] (by simp [perform])
  | readFailed _ => exact updated [] (by simp [perform])
  | readStats _ => exact updated [] (by simp [perform])
  | runCycle opts =>
    obtain ⟨us, cycled⟩ := Processor.cycle_updates opts s distinct
    exact updated us cycled

theorem Reachable.wellFormed (reach : s.Reachable) : s.outbox.WellFormed := by
  induction reach with
  | start replica clock => exact Outbox.empty_wellFormed
  | step a _ wf => exact (perform_outbox wf a).1

end Stores

/-- The lifecycle of outbox records: in every reachable state every row is consistent,
and every call changes the table only as an evolution allows. -/
theorem outbox_lifecycle {s : Stores} (reach : s.Reachable) (a : Action) :
    (∀ r ∈ s.outbox.rows, r.Consistent) ∧ s.outbox.Evolves (s.perform a).outbox :=
  ⟨reach.wellFormed.consistent, (Stores.perform_outbox reach.wellFormed a).2⟩

/-- After one committed publish the table is consistent, and marking its record failed
is an evolution. -/
theorem outbox_lifecycle_after_publish :
    let s := (Stores.start ⟨0, 0⟩).perform
      (.publish [⟨"ScreenPilot", 42, .insert, .null, none⟩] false true)
    s.Reachable ∧ (∀ r ∈ s.outbox.rows, r.Consistent) ∧
      s.outbox.Evolves (s.perform (.markFailed 1 "secondary unavailable")).outbox :=
  let reach := Stores.Reachable.step _ (Stores.Reachable.start Replica.empty (.ticking ⟨0, 0⟩))
  ⟨reach, outbox_lifecycle reach (.markFailed 1 "secondary unavailable")⟩

end OutboxReplicator
