import OutboxReplicator.Proofs.Outbox.ReadOrder
import OutboxReplicator.Proofs.Processor.Retries
/-!
# One cycle, step by step

A cycle releases stale claims, requeues due failures, reads a batch of pending records
and dispatches each of them.  Dispatching is said here as the processor promises it,
without the store's guards (`Processor.dispatch`): the record's row is claimed at one
reading of the clock, its change is delivered to the replica, and the row is marked at
the next reading, completed or failed with the failure's message
(`OutboxRow.dispatched`).  A failed delivery leaves the replica as it was, and the next
record is dispatched all the same.

On a table keyed by id whose batch rows are pending, the store's guarded writes do
exactly that (`Processor.processRecord_eq_dispatch`), so processing a batch is
dispatching it and every claim succeeds (`Processor.processAll_eq_dispatchAll`).  A
housekeeping step whose cutoff does not abort reports a count, or fails having only read
the clock (`Stores.releaseStale_returns`).  For creation times in years of four digits
the batch read is the first pending rows in creation order (`Outbox.pending_batch`), and
a cycle is these steps in turn (`cycle_runs_its_steps`).
-/

namespace OutboxReplicator

namespace OutboxRow

/-- A row whose record was dispatched: claimed at one time, then at a later one completed
when the delivery succeeded, or failed with the failure's message. -/
def dispatched (y : OutboxRow) (claimedAt markedAt : Instant) : Except Failure Outcome → OutboxRow
  | .ok _ =>
    { y with status := OutboxStatus.completed.tag, claimedAt := some claimedAt,
             processedAt := some markedAt, error := none }
  | .error f =>
    { y with status := OutboxStatus.failed.tag, claimedAt := some claimedAt,
             error := some f.failureMessage, retryCount := y.retryCount + 1, failedAt := some markedAt }

@[simp] theorem dispatched_id (y : OutboxRow) (claimedAt markedAt : Instant)
    (result : Except Failure Outcome) : (y.dispatched claimedAt markedAt result).id = y.id := by
  cases result <;> rfl

end OutboxRow

namespace RowUpdate

/-- The mark a delivery's result calls for: processed when it succeeded, failed with the
failure's message when not. -/
def mark (now : Instant) (id : Int) : Except Failure Outcome → RowUpdate
  | .ok _ => .markProcessed now id
  | .error f => .markFailed now id f.failureMessage

variable {z : OutboxRow} {t₀ t₁ : Instant} {result : Except Failure Outcome}

/-- Claiming a pending row and marking it by a delivery's result dispatches it. -/
theorem claim_mark_pending (pending : z.status = OutboxStatus.pending.tag) :
    applyAll [.claim t₀ z.id, .mark t₁ z.id result] z = z.dispatched t₀ t₁ result := by
  cases result <;> simp [applyAll, apply, mark, pending, OutboxRow.dispatched, OutboxStatus.tag]

/-- Claiming and marking an id leaves the rows of other ids. -/
theorem claim_mark_other {id : Int} (other : z.id ≠ id) :
    applyAll [.claim t₀ id, .mark t₁ id result] z = z := by
  cases result <;> simp [applyAll, apply, mark, other]

end RowUpdate

namespace Outbox

variable {o : Outbox}

/-- On a table keyed by id, claiming a pending row and marking it by a delivery's result
dispatches that row and leaves the others. -/
theorem update_claim_mark (distinct : o.IdsDistinct) {y : OutboxRow} (found : y ∈ o.rows)
    (pending : y.status = OutboxStatus.pending.tag) (t₀ t₁ : Instant) (result : Except Failure Outcome) :
    o.update [.claim t₀ y.id, .mark t₁ y.id result] =
      { o with rows := o.rows.map fun z => if z.id = y.id then z.dispatched t₀ t₁ result else z } := by
  simp only [update]
  congr 1
  refine List.map_congr_left fun z mem => ?_
  by_cases same : z.id = y.id
  · -- ids are distinct, so the row of that id is the pending one
    have isY : z = y := List.inj_on_of_nodup_map distinct mem found same
    subst isY
    rw [if_pos rfl, RowUpdate.claim_mark_pending pending]
  · rw [if_neg same, RowUpdate.claim_mark_other same]

end Outbox

namespace Processor

/-- Dispatch a record as the processor promises: its row is claimed at the clock's next
reading, its change delivered to the replica, and the row marked by the delivery's result
at the reading after.  A failed delivery leaves the replica as it was.  Gives the
delivery's result. -/
def dispatch (s : Stores) (x : OutboxRecord) : Except Failure Outcome × Stores :=
  let (result, delivered) := s.replicate x.entityType x.operation x.payload
  (result, { delivered with
    outbox := { s.outbox with rows := s.outbox.rows.map fun y =>
      if y.id = x.id then y.dispatched s.clock.next s.clock.read.2.next result else y }
    clock := s.clock.read.2.read.2 })

/-- Dispatch records in turn, each from where the ones before left the stores; gives each
delivery's result. -/
def dispatchAll (s : Stores) : List OutboxRecord → List (Except Failure Outcome) × Stores
  | [] => ([], s)
  | x :: rest =>
    let (result, s) := dispatch s x
    let (results, s) := dispatchAll s rest
    (result :: results, s)

/-- The outcome a delivery's result gives a record. -/
def outcomeOf : Except Failure Outcome → RecordOutcome
  | .ok _ => .completed
  | .error _ => .failed

variable {s : Stores} {x : OutboxRecord}

theorem dispatch_rows (s : Stores) (x : OutboxRecord) :
    (dispatch s x).2.outbox.rows = s.outbox.rows.map fun y =>
      if y.id = x.id then y.dispatched s.clock.next s.clock.read.2.next (dispatch s x).1 else y :=
  rfl

/-- Dispatching keeps the table's ids. -/
theorem dispatch_ids (s : Stores) (x : OutboxRecord) :
    (dispatch s x).2.outbox.rows.map OutboxRow.id = s.outbox.rows.map OutboxRow.id := by
  rw [dispatch_rows]
  exact Outbox.ids_map fun y => by split <;> simp

/-- Dispatching a record leaves the rows of other ids. -/
theorem dispatch_other {z : OutboxRow} (found : z ∈ s.outbox.rows) (other : z.id ≠ x.id) :
    z ∈ (dispatch s x).2.outbox.rows := by
  rw [dispatch_rows]
  exact List.mem_map.mpr ⟨z, found, if_neg other⟩

theorem dispatchAll_length (s : Stores) (records : List OutboxRecord) :
    (dispatchAll s records).1.length = records.length := by
  induction records generalizing s with
  | nil => rfl
  | cons x rest induction => simp [dispatchAll, induction]

/-- Every delivery of a batch either succeeds or fails. -/
theorem dispatchAll_counts (s : Stores) (records : List OutboxRecord) :
    (dispatchAll s records).1.countP Except.isOk + (dispatchAll s records).1.countP (!·.isOk) =
      records.length := by
  rw [← dispatchAll_length s records, List.length_eq_countP_add_countP Except.isOk]
  simp

/-- On a table keyed by id, processing a record whose row is pending is dispatching it:
the claim succeeds, and the mark follows the delivery. -/
theorem processRecord_eq_dispatch (distinct : s.outbox.IdsDistinct) {y : OutboxRow}
    (found : y ∈ s.outbox.rows) (sameId : y.id = x.id) (pending : y.status = OutboxStatus.pending.tag) :
    processRecord s x = (outcomeOf (dispatch s x).1, (dispatch s x).2) := by
  have won : (s.outbox.claim s.clock.next x.id).1 = true :=
    (Outbox.claim_fst_iff distinct _ _).mpr ⟨y, found, sameId, pending⟩
  have claimed := Outbox.claim_snd distinct s.clock.next x.id
  have distinct₁ := distinct.update [.claim s.clock.next x.id]
  -- both sides are the claim and the mark of the delivery's result, as one update
  have marked : ∀ result : Except Failure Outcome,
      (s.outbox.update [.claim s.clock.next x.id]).update [.mark s.clock.read.2.next x.id result] =
        { s.outbox with rows := s.outbox.rows.map fun z =>
          if z.id = x.id then z.dispatched s.clock.next s.clock.read.2.next result else z } := by
    intro result
    rw [Outbox.update_update, ← sameId]
    exact Outbox.update_claim_mark distinct found pending _ _ result
  simp only [processRecord, Stores.claim_eq, won, claimed, Bool.not_true, Bool.false_eq_true, if_false,
    dispatch, Stores.replicate]
  cases delivery : s.replica.replicate x.entityType x.operation x.payload with
  | ok delivered =>
    simp only [Stores.markProcessed_eq, Outbox.markProcessed_eq distinct₁]
    rw [← marked (.ok delivered.1)]
    rfl
  | error f =>
    simp only [Stores.markFailed_eq, Outbox.markFailed_eq distinct₁]
    rw [← marked (.error f)]
    rfl

/-- Dispatching the first of records of distinct pending rows keeps the table keyed by id
and the rows of the other records pending. -/
theorem dispatch_keeps_pending {rest : List OutboxRecord} (distinct : s.outbox.IdsDistinct)
    (nodup : ((x :: rest).map (·.id)).Nodup)
    (pending : ∀ x' ∈ x :: rest, ∃ y ∈ s.outbox.rows, y.id = x'.id ∧ y.status = OutboxStatus.pending.tag) :
    (dispatch s x).2.outbox.IdsDistinct ∧
      ∀ x' ∈ rest, ∃ y ∈ (dispatch s x).2.outbox.rows,
        y.id = x'.id ∧ y.status = OutboxStatus.pending.tag := by
  refine ⟨by rw [Outbox.IdsDistinct, dispatch_ids]; exact distinct, fun x' mem => ?_⟩
  -- the rows of the later records have other ids, so they stay pending
  obtain ⟨y', found', sameId', isPending'⟩ := pending x' (List.mem_cons_of_mem x mem)
  have other : y'.id ≠ x.id := by
    rw [sameId']
    exact fun same => (List.nodup_cons.mp nodup).1 (List.mem_map.mpr ⟨x', mem, same⟩)
  exact ⟨y', dispatch_other found' other, sameId', isPending'⟩

/-- On a table keyed by id, processing records of distinct pending rows dispatches them in
turn and claims every one: the report counts the deliveries that succeeded as completed
and the others as failed, and skips none. -/
theorem processAll_eq_dispatchAll (report : CycleReport) (records : List OutboxRecord)
    (distinct : s.outbox.IdsDistinct) (nodup : (records.map (·.id)).Nodup)
    (pending : ∀ x ∈ records, ∃ y ∈ s.outbox.rows, y.id = x.id ∧ y.status = OutboxStatus.pending.tag) :
    processAll s report records =
      ({ report with completed := report.completed + (dispatchAll s records).1.countP Except.isOk,
                     failed := report.failed + (dispatchAll s records).1.countP (!·.isOk) },
        (dispatchAll s records).2) := by
  induction records generalizing s report with
  | nil => simp [processAll, dispatchAll]
  | cons x rest induction =>
    obtain ⟨y, found, sameId, isPending⟩ := pending x List.mem_cons_self
    obtain ⟨distinct', pending'⟩ := dispatch_keeps_pending distinct nodup pending
    simp only [processAll, processRecord_eq_dispatch distinct found sameId isPending, dispatchAll]
    rw [induction _ distinct' (List.nodup_cons.mp nodup).2 pending']
    -- one more completed or one more failed, by the first delivery
    cases (dispatch s x).1 with
    | ok delivered =>
      have counted : (Except.ok delivered : Except Failure Outcome).isOk = true := rfl
      simp only [outcomeOf, List.countP_cons, counted, Bool.not_true, if_true, Bool.false_eq_true,
        if_false, Prod.mk.injEq, and_true]
      cases report
      simp only [CycleReport.mk.injEq, true_and, and_true]
      omega
    | error f =>
      have counted : (Except.error f : Except Failure Outcome).isOk = false := rfl
      simp only [outcomeOf, List.countP_cons, counted, Bool.not_false, if_true, Bool.false_eq_true,
        if_false, Prod.mk.injEq, and_true]
      cases report
      simp only [CycleReport.mk.injEq, true_and, and_true]
      omega

end Processor

/-! ## Housekeeping and the batch -/

namespace Stores

variable {s : Stores} {span : Span}

/-- A release whose cutoff does not abort reports its count, or fails having only read
the clock; a cycle counts the failure as nothing released. -/
theorem releaseStale_returns (returns : ∀ m, Outbox.cutoff s.clock.next span ≠ .error (.abort m)) :
    Processor.housekeepingCount (s.releaseStale span).1 = .ok ((s.releaseStale span).1.toOption.getD 0) ∧
      ((s.releaseStale span).1.toOption = none →
        (s.releaseStale span).2 = { s with clock := s.clock.read.2 }) := by
  simp only [releaseStale, now, Clock.read]
  split
  next e cut =>
    cases e with
    | abort m => exact absurd cut (returns m)
    | failure f => exact ⟨rfl, fun _ => rfl⟩
    | database d => exact ⟨rfl, fun _ => rfl⟩
  next c _ => exact ⟨rfl, fun missing => by cases missing⟩

/-- A requeue whose cutoff does not abort reports its count, or fails having only read
the clock; a cycle counts the failure as nothing requeued. -/
theorem requeueDue_returns (maxRetry : Int)
    (returns : ∀ m, Outbox.cutoff s.clock.next span ≠ .error (.abort m)) :
    Processor.housekeepingCount (s.requeueDue maxRetry span).1 =
        .ok ((s.requeueDue maxRetry span).1.toOption.getD 0) ∧
      ((s.requeueDue maxRetry span).1.toOption = none →
        (s.requeueDue maxRetry span).2 = { s with clock := s.clock.read.2 }) := by
  simp only [requeueDue, now, Clock.read]
  split
  next e cut =>
    cases e with
    | abort m => exact absurd cut (returns m)
    | failure f => exact ⟨rfl, fun _ => rfl⟩
    | database d => exact ⟨rfl, fun _ => rfl⟩
  next c _ => exact ⟨rfl, fun missing => by cases missing⟩

theorem releaseStale_clock (s : Stores) (span : Span) :
    (s.releaseStale span).2.clock = s.clock.read.2 := by
  simp only [releaseStale, now, Clock.read]
  split <;> rfl

end Stores

namespace Outbox

variable {o : Outbox} {b : Nat} {batch : List OutboxRecord}

theorem readAll_of_readSelected {context : String} {rows : List OutboxRow} {records : List OutboxRecord}
    (read : readSelected context rows = .ok records) : readAll rows = .ok records := by
  unfold readSelected at read
  split at read
  · cases read
  · exact read

/-- The records of a pending read on a table keyed by id are of distinct pending rows. -/
theorem pending_read_rows (distinct : o.IdsDistinct) (read : o.pending b = .ok batch) :
    (batch.map (·.id)).Nodup ∧
      ∀ x ∈ batch, ∃ y ∈ o.rows, y.id = x.id ∧ y.status = OutboxStatus.pending.tag := by
  refine ⟨selected_nodup distinct (limited_ok read), fun x mem => ?_⟩
  obtain ⟨y, found, isPending, readY⟩ := pending_rows read x mem
  exact ⟨y, found, (OutboxRow.toRecord_ok readY).1.symm, isPending⟩

/-- A pending read that succeeds returns, as records stored, the first pending rows by
creation time, then id, for creation times in years of four digits. -/
theorem pending_batch (created : ∀ y ∈ o.rows, y.createdAt.FourDigitYear) (read : o.pending b = .ok batch) :
    batch.map OutboxRecord.toRow =
      ((o.rows.filter (·.status == OutboxStatus.pending.tag)).mergeSort OutboxRow.fifoBefore).take b := by
  rw [readAll_eq_ok_iff.mp (readAll_of_readSelected (limited_ok read))]
  -- on these rows the stored order is the time order
  have sameSort := @List.map_mergeSort _ _ createdOrder OutboxRow.fifoBefore id
    (o.rows.filter (·.status == OutboxStatus.pending.tag)) fun a found a' found' =>
      createdOrder_eq_fifoBefore (created a (List.mem_filter.mp found).1)
        (created a' (List.mem_filter.mp found').1)
  rw [List.map_id, List.map_id] at sameSort
  rw [sameSort]

/-- Such a batch is in processing order already. -/
theorem pending_batch_sorted (created : ∀ y ∈ o.rows, y.createdAt.FourDigitYear)
    (read : o.pending b = .ok batch) : batch.mergeSort OutboxRecord.fifoBefore = batch := by
  have sorted : (batch.map OutboxRecord.toRow).Pairwise fun a a' => a.fifoBefore a' = true := by
    rw [pending_batch created read]
    exact (@List.pairwise_mergeSort _ OutboxRow.fifoBefore
      (fun _ _ _ ab bc => OutboxRow.fifoBefore_trans ab bc) OutboxRow.fifoBefore_total _).sublist
      (List.take_sublist _ _)
  exact List.mergeSort_of_pairwise (List.pairwise_map.mp sorted)

end Outbox

namespace Processor

variable {opts : OutboxOptions} {s : Stores}

/-- Housekeeping rewrites rows by updates, so every row keeps its creation time. -/
theorem housekept_createdAt :
    ∀ y ∈ (housekept opts s).outbox.rows, ∃ z ∈ s.outbox.rows, y.createdAt = z.createdAt := by
  obtain ⟨us₁, released⟩ := Stores.releaseStale_outbox s opts.claimTimeout
  obtain ⟨us₂, requeued⟩ :=
    Stores.requeueDue_outbox (s.releaseStale opts.claimTimeout).2 opts.maxRetryCount opts.retryDelay
  intro y found
  rw [housekept, requeued, released, Outbox.update_update, Outbox.update_rows] at found
  obtain ⟨z, found', rfl⟩ := List.mem_map.mp found
  exact ⟨z, found', congrArg RowOrigin.createdAt (RowUpdate.applyAll_origin _ z)⟩

theorem housekept_idsDistinct (distinct : s.outbox.IdsDistinct) : (housekept opts s).outbox.IdsDistinct := by
  obtain ⟨us₁, released⟩ := Stores.releaseStale_outbox s opts.claimTimeout
  obtain ⟨us₂, requeued⟩ :=
    Stores.requeueDue_outbox (s.releaseStale opts.claimTimeout).2 opts.maxRetryCount opts.retryDelay
  rw [housekept, requeued, released]
  exact (distinct.update us₁).update us₂

/-- After housekeeping that reports its counts, a cycle reads a batch and processes it
sorted, or ends with the read's fault. -/
theorem cycle_of_counts {released requeued : Nat}
    (releasedCount : housekeepingCount (s.releaseStale opts.claimTimeout).1 = .ok released)
    (requeuedCount : housekeepingCount ((s.releaseStale opts.claimTimeout).2.requeueDue
      opts.maxRetryCount opts.retryDelay).1 = .ok requeued) :
    cycle opts s = match (housekept opts s).outbox.pending opts.batchSize with
      | .error f => (.error f, housekept opts s)
      | .ok batch =>
        let processed := processAll (housekept opts s)
          { released, requeued, fetched := (batch.mergeSort OutboxRecord.fifoBefore).length }
          (batch.mergeSort OutboxRecord.fifoBefore)
        (.ok processed.1, processed.2) := by
  -- split on the read first, so that both sides reduce to the same branch
  cases read : (housekept opts s).outbox.pending opts.batchSize with
  | error f =>
    simp only [housekept] at read
    simp only [cycle, releasedCount, requeuedCount, housekept, read]
  | ok batch =>
    simp only [housekept] at read
    simp only [cycle, releasedCount, requeuedCount, housekept, read]

end Processor

/-! ## One cycle -/

/-- One cycle of a processor, on a table keyed by id, under options whose housekeeping
steps do not abort:

* it releases stale claims and then requeues due failures, and reports each step's
  count, or 0 for a step that failed, which then changed nothing;
* a pending read that fails ends the cycle with its fault, nothing claimed;
* otherwise, for creation times in years of four digits, the batch is the first pending
  rows by creation time, then id, up to the batch size; the cycle dispatches them in
  that order, claiming each, and reports them fetched, the successful deliveries
  completed, the others failed, and none skipped. -/
theorem cycle_runs_its_steps (opts : OutboxOptions) (s : Stores) (distinct : s.outbox.IdsDistinct)
    (releaseReturns : ∀ m, Outbox.cutoff s.clock.next opts.claimTimeout ≠ .error (.abort m))
    (requeueReturns : ∀ m, Outbox.cutoff s.clock.read.2.next opts.retryDelay ≠ .error (.abort m)) :
    let released := s.releaseStale opts.claimTimeout
    let requeued := released.2.requeueDue opts.maxRetryCount opts.retryDelay
    (released.1.toOption = none → released.2.outbox = s.outbox) ∧
    (requeued.1.toOption = none → requeued.2.outbox = released.2.outbox) ∧
    (∀ e, requeued.2.outbox.pending opts.batchSize = .error e →
      Processor.cycle opts s = (.error e, requeued.2)) ∧
    ∀ batch, requeued.2.outbox.pending opts.batchSize = .ok batch →
      (∀ y ∈ s.outbox.rows, y.createdAt.FourDigitYear) →
      batch.map OutboxRecord.toRow = ((requeued.2.outbox.rows.filter
          (·.status == OutboxStatus.pending.tag)).mergeSort OutboxRow.fifoBefore).take opts.batchSize ∧
        Processor.cycle opts s =
          (.ok { released := released.1.toOption.getD 0, requeued := requeued.1.toOption.getD 0,
                 fetched := batch.length,
                 completed := (Processor.dispatchAll requeued.2 batch).1.countP Except.isOk,
                 failed := (Processor.dispatchAll requeued.2 batch).1.countP (!·.isOk) },
            (Processor.dispatchAll requeued.2 batch).2) ∧
        (Processor.dispatchAll requeued.2 batch).1.countP Except.isOk +
          (Processor.dispatchAll requeued.2 batch).1.countP (!·.isOk) = batch.length := by
  dsimp only
  obtain ⟨releasedCount, releasedQuiet⟩ := Stores.releaseStale_returns releaseReturns
  have requeueReturns' : ∀ m, Outbox.cutoff (s.releaseStale opts.claimTimeout).2.clock.next
      opts.retryDelay ≠ .error (.abort m) := by
    rw [Stores.releaseStale_clock]
    exact requeueReturns
  obtain ⟨requeuedCount, requeuedQuiet⟩ := Stores.requeueDue_returns opts.maxRetryCount requeueReturns'
  have ran := Processor.cycle_of_counts releasedCount requeuedCount
  refine ⟨fun none => by rw [releasedQuiet none], fun none => by rw [requeuedQuiet none],
    fun e failed => ?_, fun batch read created => ?_⟩
  · rw [ran, Processor.housekept, failed]
  · -- the batch comes from pending rows of the housekept table, which keeps creation times
    have read' : (Processor.housekept opts s).outbox.pending opts.batchSize = .ok batch := read
    have distinct₂ : (Processor.housekept opts s).outbox.IdsDistinct :=
      Processor.housekept_idsDistinct distinct
    have created₂ : ∀ y ∈ (Processor.housekept opts s).outbox.rows, y.createdAt.FourDigitYear := by
      intro y found
      obtain ⟨z, found', same⟩ := Processor.housekept_createdAt y found
      exact same ▸ created z found'
    obtain ⟨nodup, pendingRows⟩ := Outbox.pending_read_rows distinct₂ read'
    refine ⟨Outbox.pending_batch created₂ read', ?_, ?_⟩
    · rw [ran, read']
      dsimp only
      rw [Outbox.pending_batch_sorted created₂ read',
        Processor.processAll_eq_dispatchAll _ batch distinct₂ nodup pendingRows]
      simp only [Nat.zero_add]
      rfl
    · exact Processor.dispatchAll_counts _ batch

/-- Three pending pilot records created an hour apart on 2024-01-01, on a clock at
2024-05-01T10:00:00Z, under options that take two records a cycle: housekeeping returns,
the read takes the two earliest records, and the cycle reports both fetched and each of
them completed or failed. -/
theorem cycle_steps_for_three_pending_pilots :
    let row (id created : Int) : OutboxRow := ⟨id, "ScreenPilot", id, "Insert", .obj [], "Pending",
      0, none, ⟨created, 0⟩, none, none, none, none⟩
    let s : Stores := ⟨⟨[row 1 1704067200, row 2 1704070800, row 3 1704074400], 3⟩, Replica.empty,
      .ticking ⟨1714557600, 0⟩⟩
    let opts : OutboxOptions := { batchSize := 2 }
    let requeued := (s.releaseStale opts.claimTimeout).2.requeueDue opts.maxRetryCount opts.retryDelay
    s.outbox.IdsDistinct ∧
      (∀ m, Outbox.cutoff s.clock.next opts.claimTimeout ≠ .error (.abort m)) ∧
      (∀ m, Outbox.cutoff s.clock.read.2.next opts.retryDelay ≠ .error (.abort m)) ∧
      ∃ batch, requeued.2.outbox.pending opts.batchSize = .ok batch ∧ batch.map (·.id) = [1, 2] ∧
        (Processor.cycle opts s).1.toOption.map (·.fetched) = some 2 ∧
        (Processor.cycle opts s).1.toOption.map (fun r => r.completed + r.failed) = some 2 := by
  intro row s opts
  have distinct : s.outbox.IdsDistinct := by
    show ([1, 2, 3] : List Int).Nodup
    decide
  have releaseReturns : ∀ m, Outbox.cutoff s.clock.next opts.claimTimeout ≠ .error (.abort m) :=
    Outbox.cutoff_returns_of_recent (by decide) (by decide)
  have requeueReturns : ∀ m, Outbox.cutoff s.clock.read.2.next opts.retryDelay ≠ .error (.abort m) :=
    Outbox.cutoff_returns_of_recent (by decide) (by decide)
  -- housekeeping finds nothing to release or requeue
  obtain ⟨released, releasedEq, -⟩ := Stores.releaseStale_quiet (by decide) releaseReturns
  obtain ⟨requeuedResult, requeuedEq, -⟩ :=
    @Stores.requeueDue_quiet { s with clock := s.clock.read.2 } opts.retryDelay opts.maxRetryCount
      (by decide) requeueReturns
  have housekept : ((s.releaseStale opts.claimTimeout).2.requeueDue opts.maxRetryCount opts.retryDelay).2.outbox = s.outbox := by
    simp only [releasedEq, requeuedEq]
  -- the rows are pending in creation order, so the read takes the first two
  obtain ⟨x₁, stored₁⟩ := OutboxRow.stored_of_tags (show (row 1 1704067200).operation =
    Operation.insert.tag from rfl) (show (row 1 1704067200).status = OutboxStatus.pending.tag from rfl)
  obtain ⟨x₂, stored₂⟩ := OutboxRow.stored_of_tags (show (row 2 1704070800).operation =
    Operation.insert.tag from rfl) (show (row 2 1704070800).status = OutboxStatus.pending.tag from rfl)
  obtain ⟨x₃, stored₃⟩ := OutboxRow.stored_of_tags (show (row 3 1704074400).operation =
    Operation.insert.tag from rfl) (show (row 3 1704074400).status = OutboxStatus.pending.tag from rfl)
  have stored : [x₁, x₂, x₃].map OutboxRecord.toRow =
      ((s.releaseStale opts.claimTimeout).2.requeueDue opts.maxRetryCount opts.retryDelay).2.outbox.rows.filter
        (·.status == OutboxStatus.pending.tag) := by
    rw [housekept, List.map_cons, List.map_cons, List.map_cons, List.map_nil, stored₁, stored₂, stored₃]
    rfl
  have read : ((s.releaseStale opts.claimTimeout).2.requeueDue opts.maxRetryCount opts.retryDelay).2.outbox.pending opts.batchSize =
      .ok [x₁, x₂] :=
    Outbox.pending_of_sorted stored (by rw [housekept]; decide +kernel) (by rw [housekept]; decide)
      (by decide)
  have created : ∀ y ∈ s.outbox.rows, y.createdAt.FourDigitYear := by
    unfold Instant.FourDigitYear
    decide +kernel
  obtain ⟨-, cycled, counted⟩ :=
    (cycle_runs_its_steps opts s distinct releaseReturns requeueReturns).2.2.2 [x₁, x₂] read created
  refine ⟨distinct, releaseReturns, requeueReturns, [x₁, x₂], read, ?_, by rw [cycled]; rfl, ?_⟩
  · have id₁ : x₁.id = 1 := congrArg OutboxRow.id stored₁
    have id₂ : x₂.id = 2 := congrArg OutboxRow.id stored₂
    simp only [List.map_cons, List.map_nil, id₁, id₂]
  · rw [cycled]
    exact congrArg some counted

/-- Two pending pilot records, created at 10000-01-01T00:00:00Z and at
2024-01-01T00:00:00Z, under options that take one record a cycle: the second is the
earlier, yet the cycle dispatches the first, whose stored creation time starts with `+`,
and leaves the second as it was. -/
theorem far_future_record_is_dispatched_first :
    let late : OutboxRow := ⟨1, "ScreenPilot", 1, "Insert", .obj [], "Pending", 0, none,
      ⟨253402300800, 0⟩, none, none, none, none⟩
    let early : OutboxRow := ⟨2, "ScreenPilot", 2, "Insert", .obj [], "Pending", 0, none,
      ⟨1704067200, 0⟩, none, none, none, none⟩
    let s : Stores := ⟨⟨[late, early], 2⟩, Replica.empty, .ticking ⟨1714557600, 0⟩⟩
    early.createdAt.before late.createdAt = true ∧
      ∃ (t₀ t₁ : Instant) (result : Except Failure Outcome),
        (Processor.cycle { batchSize := 1 } s).2.outbox.rows = [late.dispatched t₀ t₁ result, early] := by
  intro late early s
  let opts : OutboxOptions := { batchSize := 1 }
  -- housekeeping finds nothing to release or requeue, and reads the clock twice
  have releaseReturns : ∀ m, Outbox.cutoff s.clock.next opts.claimTimeout ≠ .error (.abort m) :=
    Outbox.cutoff_returns_of_recent (by decide) (by decide)
  have requeueReturns : ∀ m, Outbox.cutoff s.clock.read.2.next opts.retryDelay ≠ .error (.abort m) :=
    Outbox.cutoff_returns_of_recent (by decide) (by decide)
  obtain ⟨released, releasedEq, releasedCount⟩ :=
    Stores.releaseStale_quiet (by decide) releaseReturns
  obtain ⟨requeued, requeuedEq, requeuedCount⟩ :=
    @Stores.requeueDue_quiet { s with clock := s.clock.read.2 } opts.retryDelay opts.maxRetryCount
      (by decide) requeueReturns
  have ran := @Processor.cycle_of_counts opts s 0 0 (by rw [releasedEq]; exact releasedCount)
    (by rw [releasedEq]; exact requeuedEq ▸ requeuedCount)
  have housekept : (Processor.housekept opts s).outbox = s.outbox := by
    rw [Processor.housekept, releasedEq]
    dsimp only
    rw [requeuedEq]
  -- the late record's text sorts first, so the read takes it
  have lateYear : 9999 < late.createdAt.date.year := by decide
  have earlyYear : 0 ≤ early.createdAt.date.year ∧ early.createdAt.date.year ≤ 9999 := by decide
  have textFirst := Instant.storedText_lt_of_year_large lateYear earlyYear
  have sorted : [late, early].Pairwise fun a a' => Outbox.createdOrder a a' = true :=
    List.pairwise_pair.mpr (by simp only [Outbox.createdOrder, decide_eq_true textFirst, Bool.true_or])
  obtain ⟨x, storedLate⟩ := OutboxRow.stored_of_tags (show late.operation = Operation.insert.tag from rfl)
    (show late.status = OutboxStatus.pending.tag from rfl)
  obtain ⟨x', storedEarly⟩ := OutboxRow.stored_of_tags
    (show early.operation = Operation.insert.tag from rfl) (show early.status = OutboxStatus.pending.tag from rfl)
  have stored : [x, x'].map OutboxRecord.toRow =
      (Processor.housekept opts s).outbox.rows.filter (·.status == OutboxStatus.pending.tag) := by
    rw [housekept, List.map_cons, List.map_cons, List.map_nil, storedLate, storedEarly]
    rfl
  have read : (Processor.housekept opts s).outbox.pending opts.batchSize = .ok [x] :=
    Outbox.pending_of_sorted stored (by rw [housekept]; exact sorted) (by rw [housekept]; decide) (by decide)
  -- the one record is dispatched: its row is the late one
  have lateId : x.id = late.id := congrArg OutboxRow.id storedLate
  have distinct : (Processor.housekept opts s).outbox.IdsDistinct := by
    rw [Outbox.IdsDistinct, housekept]
    decide
  have pendingRow : ∀ r ∈ [x], ∃ y ∈ (Processor.housekept opts s).outbox.rows,
      y.id = r.id ∧ y.status = OutboxStatus.pending.tag := by
    intro r mem
    rw [List.mem_singleton.mp mem, housekept]
    exact ⟨late, List.mem_cons_self, lateId.symm, rfl⟩
  refine ⟨by decide, (Processor.housekept opts s).clock.next, (Processor.housekept opts s).clock.read.2.next,
    (Processor.dispatch (Processor.housekept opts s) x).1, ?_⟩
  rw [ran, read]
  dsimp only
  rw [List.mergeSort_singleton, Processor.processAll_eq_dispatchAll _ [x] distinct (by simp) pendingRow]
  simp only [Processor.dispatchAll, Processor.dispatch_rows, housekept, lateId]
  show List.map _ [late, early] = _
  simp [late, early]

end OutboxReplicator
