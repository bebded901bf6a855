import OutboxReplicator.Proofs.Processor.Housekeeping
import OutboxReplicator.Proofs.Outbox.Readable
/-!
# A malformed record stops its cycle

After housekeeping, a cycle reads its batch in one read: the first pending rows in
stored creation order, up to the batch size (`Outbox.pendingWindow`).  The read turns
every row of that window into a record, and a single row that does not read back fails
it as a whole (`Outbox.pending_ok_iff`); the cycle passes the read's failure on.  So a
cycle reports exactly when every row of its window reads back
(`Processor.cycle_ok_iff`), and a pending row whose operation tag names no operation
ends the cycle with the internal failure naming the first such row: no record of the
window is claimed, delivered or marked, the well-formed ones included, and the replica
does not change (`Processor.cycle_of_unknown_operation`).  Rows outside the window take
no part in the read.
-/

namespace OutboxReplicator

namespace Outbox

variable {o : Outbox}

/-- On a table of pending rows in stored creation order, the pending window is the
first rows. -/
theorem pendingWindow_of_sorted (pendingRows : ∀ y ∈ o.rows, y.status = OutboxStatus.pending.tag)
    (sorted : o.rows.Pairwise fun a a' => createdOrder a a' = true) (limit : Nat) :
    o.pendingWindow limit = o.rows.take limit := by
  have all : o.rows.filter (·.status == OutboxStatus.pending.tag) = o.rows :=
    List.filter_eq_self.mpr fun y found => by simp [pendingRows y found]
  rw [pendingWindow, all, List.mergeSort_of_pairwise sorted]

end Outbox

namespace Processor

variable {opts : OutboxOptions} {s : Stores}

section

variable (releaseReturns :
    ¬ (opts.claimTimeout.fits = true ∧ opts.claimTimeout.ReachesBeforeCalendar s.clock.next))
  (requeueReturns :
    ¬ (opts.retryDelay.fits = true ∧ opts.retryDelay.ReachesBeforeCalendar s.clock.read.2.next))

include releaseReturns requeueReturns

/-- Under housekeeping that does not abort and a batch size that a query parameter
holds, a cycle reports exactly when every row of its window reads back. -/
theorem cycle_ok_iff (fits : opts.batchSize ≤ Outbox.maxLimit) :
    (∃ report, (cycle opts s).1 = .ok report) ↔
      ∀ y ∈ (housekept opts s).outbox.pendingWindow opts.batchSize, y.Readable := by
  obtain ⟨released, requeued, releasedCount, requeuedCount⟩ :=
    housekeeping_counts releaseReturns requeueReturns
  rw [← Outbox.pending_ok_iff fits, cycle_of_counts releasedCount requeuedCount]
  split <;> simp [*]

/-- Under housekeeping that does not abort, a window whose retry counts fit and whose
first malformed row has an unknown operation tag ends the cycle with that row's failure,
leaving the stores as housekeeping left them. -/
theorem cycle_of_unknown_operation (fits : opts.batchSize ≤ Outbox.maxLimit)
    {pre post : List OutboxRow} {y : OutboxRow}
    (window : (housekept opts s).outbox.pendingWindow opts.batchSize = pre ++ y :: post)
    (counts : ∀ z ∈ pre ++ y :: post,
      Outbox.retryCountRange.1 ≤ z.retryCount ∧ z.retryCount ≤ Outbox.retryCountRange.2)
    (before : ∀ z ∈ pre, ∃ op : Operation, z.operation = op.tag)
    (unknown : ∀ op : Operation, y.operation ≠ op.tag) :
    cycle opts s = (.error (.failure y.unknownOperation), housekept opts s) := by
  obtain ⟨released, requeued, releasedCount, requeuedCount⟩ :=
    housekeeping_counts releaseReturns requeueReturns
  rw [cycle_of_counts releasedCount requeuedCount,
    Outbox.pending_of_unknown_operation fits window (window ▸ counts) before unknown]

end

/-- Housekeeping that does not abort leaves a table of pending rows as it was, having read
the clock twice. -/
theorem housekept_of_pending (pendingRows : ∀ y ∈ s.outbox.rows, y.status = OutboxStatus.pending.tag)
    (releaseReturns :
      ¬ (opts.claimTimeout.fits = true ∧ opts.claimTimeout.ReachesBeforeCalendar s.clock.next))
    (requeueReturns :
      ¬ (opts.retryDelay.fits = true ∧ opts.retryDelay.ReachesBeforeCalendar s.clock.read.2.next)) :
    housekept opts s = { s with clock := s.clock.read.2.read.2 } := by
  have noClaims : ∀ y ∈ s.outbox.rows, y.status ≠ OutboxStatus.processing.tag := fun y found => by
    rw [pendingRows y found]
    decide
  have noFailed : ∀ y ∈ s.outbox.rows, y.status ≠ OutboxStatus.failed.tag := fun y found => by
    rw [pendingRows y found]
    decide
  obtain ⟨_, released, _⟩ :=
    Stores.releaseStale_quiet noClaims (Outbox.cutoff_returns_iff.mpr releaseReturns)
  obtain ⟨_, requeued, _⟩ := @Stores.requeueDue_quiet { s with clock := s.clock.read.2 }
    opts.retryDelay opts.maxRetryCount noFailed (Outbox.cutoff_returns_iff.mpr requeueReturns)
  rw [housekept, released]
  exact congrArg Prod.snd requeued

/-- On a table of pending rows in stored creation order, under housekeeping that does not
abort, a cycle's window is the first rows up to the batch size. -/
theorem window_of_pending (pendingRows : ∀ y ∈ s.outbox.rows, y.status = OutboxStatus.pending.tag)
    (sorted : s.outbox.rows.Pairwise fun a a' => Outbox.createdOrder a a' = true)
    (releaseReturns :
      ¬ (opts.claimTimeout.fits = true ∧ opts.claimTimeout.ReachesBeforeCalendar s.clock.next))
    (requeueReturns :
      ¬ (opts.retryDelay.fits = true ∧ opts.retryDelay.ReachesBeforeCalendar s.clock.read.2.next)) :
    (housekept opts s).outbox.pendingWindow opts.batchSize = s.outbox.rows.take opts.batchSize := by
  rw [housekept_of_pending pendingRows releaseReturns requeueReturns]
  exact Outbox.pendingWindow_of_sorted pendingRows sorted opts.batchSize

end Processor

/-! ## The cycle as a whole -/

/-- Under options whose housekeeping does not abort and whose batch size a query
parameter holds, a cycle reads the window of the first pending rows in stored creation
order after housekeeping, and:

* it reports exactly when every row of the window reads back;
* when the window's retry counts fit and the window holds a row with an unknown
  operation tag, the cycle fails as a whole with the internal failure naming the first
  such row, and leaves the stores as housekeeping left them: none of the window's
  records, the well-formed ones before and after that row included, is claimed,
  delivered or marked, and the replica does not change. -/
theorem malformed_record_fails_its_cycle (opts : OutboxOptions) (s : Stores)
    (releaseReturns :
      ¬ (opts.claimTimeout.fits = true ∧ opts.claimTimeout.ReachesBeforeCalendar s.clock.next))
    (requeueReturns :
      ¬ (opts.retryDelay.fits = true ∧ opts.retryDelay.ReachesBeforeCalendar s.clock.read.2.next))
    (fits : opts.batchSize ≤ Outbox.maxLimit) :
    let window := (Processor.housekept opts s).outbox.pendingWindow opts.batchSize
    ((∃ report, (Processor.cycle opts s).1 = .ok report) ↔ ∀ y ∈ window, y.Readable) ∧
    ∀ pre y post, window = pre ++ y :: post →
      (∀ z ∈ window, Outbox.retryCountRange.1 ≤ z.retryCount ∧ z.retryCount ≤ Outbox.retryCountRange.2) →
      (∀ z ∈ pre, ∃ op : Operation, z.operation = op.tag) → (∀ op : Operation, y.operation ≠ op.tag) →
      Processor.cycle opts s = (.error (.failure y.unknownOperation), Processor.housekept opts s) ∧
        (Processor.cycle opts s).2.replica = s.replica := by
  intro window
  refine ⟨Processor.cycle_ok_iff releaseReturns requeueReturns fits,
    fun pre y post split counts before unknown => ?_⟩
  have failed := Processor.cycle_of_unknown_operation releaseReturns requeueReturns fits split
    (fun z found => counts z (split ▸ found)) before unknown
  exact ⟨failed, by rw [failed]; exact Processor.housekept_replica opts s⟩

/-- Two pending pilot records under the default options, the second with operation
`Upsert`: the cycle fails with the second record's failure before it claims the first. -/
theorem malformed_second_record_fails_its_cycle :
    let good : OutboxRow := ⟨1, "ScreenPilot", 1, "Insert", .obj [], "Pending", 0, none,
      ⟨1704067200, 0⟩, none, none, none, none⟩
    let bad : OutboxRow := ⟨2, "ScreenPilot", 2, "Upsert", .obj [], "Pending", 0, none,
      ⟨1704153600, 0⟩, none, none, none, none⟩
    let s : Stores := ⟨⟨[good, bad], 2⟩, Replica.empty, .ticking ⟨1782864000, 0⟩⟩
    let opts : OutboxOptions := {}
    ¬ (opts.claimTimeout.fits = true ∧ opts.claimTimeout.ReachesBeforeCalendar s.clock.next) ∧
      ¬ (opts.retryDelay.fits = true ∧ opts.retryDelay.ReachesBeforeCalendar s.clock.read.2.next) ∧
      opts.batchSize ≤ Outbox.maxLimit ∧
      (Processor.housekept opts s).outbox.pendingWindow opts.batchSize = [good] ++ bad :: [] ∧
      Processor.cycle opts s = (.error (.failure bad.unknownOperation), Processor.housekept opts s) := by
  intro good bad s opts
  have releaseReturns :
      ¬ (opts.claimTimeout.fits = true ∧ opts.claimTimeout.ReachesBeforeCalendar s.clock.next) := by
    decide
  have requeueReturns :
      ¬ (opts.retryDelay.fits = true ∧ opts.retryDelay.ReachesBeforeCalendar s.clock.read.2.next) := by
    decide
  have fits : opts.batchSize ≤ Outbox.maxLimit := by decide
  have pendingRows : ∀ y ∈ s.outbox.rows, y.status = OutboxStatus.pending.tag := by decide
  have sorted : s.outbox.rows.Pairwise fun a a' => Outbox.createdOrder a a' = true := by decide
  have window : (Processor.housekept opts s).outbox.pendingWindow opts.batchSize = [good] ++ bad :: [] :=
    Processor.window_of_pending pendingRows sorted releaseReturns requeueReturns
  have unknown : ∀ op : Operation, bad.operation ≠ op.tag := by
    intro op
    cases op <;> decide
  have cycle := (malformed_record_fails_its_cycle opts s releaseReturns requeueReturns fits).2 [good] bad []
    window (by rw [window]; decide) (fun z found => ⟨.insert, by rw [List.mem_singleton.mp found]; rfl⟩)
    unknown
  exact ⟨releaseReturns, requeueReturns, fits, window, cycle.1⟩

/-- Two pending pilot records under the default options, the first with operation
`Upsert` and the second well-formed: the cycle fails as a whole with the first record's
failure and changes neither the outbox nor the replica, so the well-formed record is not
processed. -/
theorem malformed_record_blocks_its_batch :
    let bad : OutboxRow := ⟨1, "ScreenPilot", 1, "Upsert", .obj [], "Pending", 0, none,
      ⟨1704067200, 0⟩, none, none, none, none⟩
    let good : OutboxRow := ⟨2, "ScreenPilot", 2, "Insert", .obj [], "Pending", 0, none,
      ⟨1704153600, 0⟩, none, none, none, none⟩
    let s : Stores := ⟨⟨[bad, good], 2⟩, Replica.empty, .ticking ⟨1782864000, 0⟩⟩
    (Processor.cycle {} s).1 = .error (.failure bad.unknownOperation) ∧
      (Processor.cycle {} s).2.outbox = s.outbox ∧ (Processor.cycle {} s).2.replica = s.replica := by
  intro bad good s
  let opts : OutboxOptions := {}
  have releaseReturns :
      ¬ (opts.claimTimeout.fits = true ∧ opts.claimTimeout.ReachesBeforeCalendar s.clock.next) := by
    decide
  have requeueReturns :
      ¬ (opts.retryDelay.fits = true ∧ opts.retryDelay.ReachesBeforeCalendar s.clock.read.2.next) := by
    decide
  have pendingRows : ∀ y ∈ s.outbox.rows, y.status = OutboxStatus.pending.tag := by decide
  have sorted : s.outbox.rows.Pairwise fun a a' => Outbox.createdOrder a a' = true := by decide
  have housekept := Processor.housekept_of_pending pendingRows releaseReturns requeueReturns
  have window : (Processor.housekept opts s).outbox.pendingWindow opts.batchSize = [] ++ bad :: [good] :=
    Processor.window_of_pending pendingRows sorted releaseReturns requeueReturns
  have unknown : ∀ op : Operation, bad.operation ≠ op.tag := by
    intro op
    cases op <;> decide
  have cycle := Processor.cycle_of_unknown_operation releaseReturns requeueReturns (by decide) window
    (by decide) (by simp) unknown
  rw [cycle, housekept]
  exact ⟨rfl, rfl, rfl⟩

end OutboxReplicator
