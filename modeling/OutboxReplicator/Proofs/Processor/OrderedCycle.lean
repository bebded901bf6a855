import OutboxReplicator.Proofs.Processor.Drain
/-!
# Cycles on a table in creation order

A pending read sorts the pending rows by stored creation text, and a cycle sorts its
batch again by creation time and id.  On a table in order (`Outbox.InOrder`) neither
sort moves anything: a cycle reads the first pending rows in table order and processes
them as read, which is `Processor.orderedCycle` (`Processor.cycle_eq_orderedCycle`).
Updates keep the columns fixed at write time, so a table in order stays so through
every cycle, and a run of cycles is a run of ordered cycles
(`Processor.cycles_eq_orderedCycles`).
-/

namespace OutboxReplicator

namespace Outbox

variable {rows rows' : List OutboxRow}

theorem InOrder.sublist (order : InOrder rows) (sub : rows'.Sublist rows) : InOrder rows' :=
  ⟨order.ordered.sublist sub, fun r mem => order.plain r (sub.subset mem)⟩

/-- Order is a fact of the columns fixed at write time. -/
theorem InOrder.of_origins (order : InOrder rows)
    (same : rows'.map OutboxRow.origin = rows.map OutboxRow.origin) : InOrder rows' := by
  constructor
  · have ordered : (rows.map OutboxRow.origin).Pairwise
        fun a b : RowOrigin => a.id < b.id ∧ b.createdAt.before a.createdAt = false :=
      List.pairwise_map.mpr order.ordered
    rw [← same] at ordered
    exact List.pairwise_map.mp ordered
  · intro r' mem
    obtain ⟨r, found, sameOrigin⟩ : ∃ r ∈ rows, r.origin = r'.origin := by
      rw [← List.mem_map, ← same]
      exact List.mem_map_of_mem mem
    have created : r.createdAt = r'.createdAt := congrArg RowOrigin.createdAt sameOrigin
    exact created ▸ order.plain r found

theorem InOrder.map {f : OutboxRow → OutboxRow} (order : InOrder rows)
    (keeps : ∀ y ∈ rows, (f y).origin = y.origin) : InOrder (rows.map f) :=
  order.of_origins (by rw [List.map_map]; exact List.map_congr_left keeps)

theorem InOrder.update {o : Outbox} (order : InOrder o.rows) (us : List RowUpdate) :
    InOrder (o.update us).rows :=
  order.map fun y _ => RowUpdate.applyAll_origin us y

theorem InOrder.idsDistinct {o : Outbox} (order : InOrder o.rows) : o.IdsDistinct :=
  List.pairwise_map.mpr (order.ordered.imp fun ordered => Int.ne_of_lt ordered.1)

/-- The pending read of a table in order reads the first pending rows. -/
theorem InOrder.pending {o : Outbox} (order : InOrder o.rows) (limit : Nat) :
    o.pending limit = limited limit (readSelected "fetch pending outbox records"
      ((o.rows.filter (·.status == OutboxStatus.pending.tag)).take limit)) := by
  unfold Outbox.pending
  rw [(order.sublist List.filter_sublist).createdOrder_sorted]

theorem limited_ok {α : Type} {limit : Nat} {read : Except Failure α} {a : α}
    (fetched : limited limit read = .ok a) : read = .ok a := by
  unfold limited at fetched
  split at fetched
  · cases fetched
  · cases read with
    | error f => cases fetched
    | ok b => simpa [Except.mapError] using fetched

/-- Records read from rows in order are sorted for processing already. -/
theorem InOrder.fifo_sorted {context : String} {batch : List OutboxRecord} (order : InOrder rows)
    (read : readSelected context rows = .ok batch) :
    batch.mergeSort OutboxRecord.fifoBefore = batch := by
  unfold readSelected at read
  split at read
  · cases read
  · exact OutboxRecord.fifo_sorted (records_ordered order.ordered (forall₂_of_readAll read))

end Outbox

namespace Processor

/-- A cycle on a table in order: the first pending rows in table order are read and
processed as read. -/
def orderedCycle (opts : OutboxOptions) (s : Stores) : Except Fault CycleReport × Stores :=
  let (rel, s) := s.releaseStale opts.claimTimeout
  match housekeepingCount rel with
  | .error m => (.error (.abort m), s)
  | .ok released =>
    let (req, s) := s.requeueDue opts.maxRetryCount opts.retryDelay
    match housekeepingCount req with
    | .error m => (.error (.abort m), s)
    | .ok requeued =>
      match Outbox.limited opts.batchSize (Outbox.readSelected "fetch pending outbox records"
          ((s.outbox.rows.filter (·.status == OutboxStatus.pending.tag)).take opts.batchSize)) with
      | .error f => (.error f, s)
      | .ok batch =>
        let (report, s) := processAll s { released, requeued, fetched := batch.length } batch
        (.ok report, s)

/-- Ordered cycles one after another: each cycle's result, and the stores after the last. -/
def orderedCycles (opts : OutboxOptions) : Nat → Stores → List (Except Fault CycleReport) × Stores
  | 0, s => ([], s)
  | k + 1, s =>
    let (result, s) := orderedCycle opts s
    let (results, s) := orderedCycles opts k s
    (result :: results, s)

variable {opts : OutboxOptions} {s : Stores}

/-- On a table in order a cycle is an ordered cycle. -/
theorem cycle_eq_orderedCycle (order : Outbox.InOrder s.outbox.rows) :
    cycle opts s = orderedCycle opts s := by
  obtain ⟨us₁, released⟩ := Stores.releaseStale_outbox s opts.claimTimeout
  obtain ⟨us₂, requeued⟩ :=
    Stores.requeueDue_outbox (s.releaseStale opts.claimTimeout).2 opts.maxRetryCount opts.retryDelay
  -- the table the pending read sees is the first one through two updates
  have order₂ : Outbox.InOrder ((s.releaseStale opts.claimTimeout).2.requeueDue
      opts.maxRetryCount opts.retryDelay).2.outbox.rows := by
    rw [requeued, released]
    exact (order.update us₁).update us₂
  simp only [cycle, orderedCycle]
  -- the two cycles differ only in the sorts, so follow both through the same branches
  generalize housekeepingCount (s.releaseStale opts.claimTimeout).1 = releasedCount
  cases releasedCount with
  | error m => rfl
  | ok released =>
    generalize housekeepingCount ((s.releaseStale opts.claimTimeout).2.requeueDue
      opts.maxRetryCount opts.retryDelay).1 = requeuedCount
    cases requeuedCount with
    | error m => rfl
    | ok requeued =>
      rw [order₂.pending]
      generalize fetched : Outbox.limited opts.batchSize _ = pendingRead
      cases pendingRead with
      | error f => rfl
      | ok batch =>
        simp only
        rw [(order₂.sublist ((List.take_sublist _ _).trans List.filter_sublist)).fifo_sorted
          (Outbox.limited_ok fetched)]

/-- A cycle keeps a table in order. -/
theorem cycle_inOrder (order : Outbox.InOrder s.outbox.rows) :
    Outbox.InOrder (cycle opts s).2.outbox.rows := by
  obtain ⟨us, cycled⟩ := cycle_updates opts s order.idsDistinct
  rw [cycled]
  exact order.update us

/-- On a table in order every run of cycles is a run of ordered cycles. -/
theorem cycles_eq_orderedCycles (k : Nat) (order : Outbox.InOrder s.outbox.rows) :
    cycles opts k s = orderedCycles opts k s := by
  induction k generalizing s with
  | zero => rfl
  | succ k induction =>
    rw [cycles_succ, induction (cycle_inOrder order), cycle_eq_orderedCycle order]
    rfl

end Processor

end OutboxReplicator
