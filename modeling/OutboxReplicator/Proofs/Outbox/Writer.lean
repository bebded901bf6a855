import OutboxReplicator.Proofs.Outbox.RowUpdate
/-!
# Writing records

The writer appends a row for each record it is given: the row takes the next id of the
sequence and is fresh, that is pending, never claimed, failed or completed, and tagged
with a known operation (`OutboxRow.Fresh`).  A publish that commits appends these rows
in order; one that rolls back or fails leaves the table as it was.

A table that only the writer and the store's updates have written is well formed
(`Outbox.WellFormed`): its ids ascend and stay at or below the sequence, and every row
is consistent.  Both kinds of writes keep it so (`Outbox.WellFormed.update`,
`Stores.publish_outbox`).
-/

namespace OutboxReplicator

namespace OutboxRow

/-- A row as the writer leaves it. -/
structure Fresh (r : OutboxRow) : Prop where
  pending : r.status = OutboxStatus.pending.tag
  operation_known : ∃ op : Operation, r.operation = op.tag
  retryCount_zero : r.retryCount = 0
  error_none : r.error = none
  processedAt_none : r.processedAt = none
  claimedAt_none : r.claimedAt = none
  failedAt_none : r.failedAt = none

/-- The row the writer writes for a record: fresh, with the record's entity type, key,
operation and correlation id, and the payload as its stored text reads back. -/
structure WrittenFrom (r : NewRecord) (y : OutboxRow) : Prop where
  fresh : y.Fresh
  entityType_eq : y.entityType = r.entityType
  entityId_eq : y.entityId = r.entityId
  operation_eq : y.operation = r.operation.tag
  payload_eq : y.payload = Json.reread r.payload
  correlationId_eq : y.correlationId = r.correlationId

theorem Fresh.consistent {r : OutboxRow} (fresh : r.Fresh) : r.Consistent where
  status_known := ⟨.pending, fresh.pending⟩
  processed_iff_completed := by simp [fresh.pending, fresh.processedAt_none]
  completed_without_error := by simp [fresh.pending]
  failed_recorded := by simp [fresh.pending]
  processing_claimed := by simp [fresh.pending]
  retryCount_nonneg := by simp [fresh.retryCount_zero]

end OutboxRow

namespace Outbox

/-- What a table that only the writer and the store have written satisfies. -/
structure WellFormed (o : Outbox) : Prop where
  ids_ascending : o.rows.Pairwise (fun a b => a.id < b.id)
  ids_le_lastId : ∀ r ∈ o.rows, r.id ≤ o.lastId
  consistent : ∀ r ∈ o.rows, r.Consistent

variable {o o' : Outbox}

theorem WellFormed.idsDistinct (wf : o.WellFormed) : o.IdsDistinct := by
  unfold IdsDistinct
  rw [List.Nodup, List.pairwise_map]
  exact wf.ids_ascending.imp fun ascending => Int.ne_of_lt ascending

theorem empty_wellFormed : Outbox.empty.WellFormed :=
  ⟨List.Pairwise.nil, by simp [empty], by simp [empty]⟩

theorem WellFormed.update (wf : o.WellFormed) (us : List RowUpdate) :
    (o.update us).WellFormed where
  ids_ascending := by
    rw [update_rows, List.pairwise_map]
    simpa using wf.ids_ascending
  ids_le_lastId := by
    simp only [update_rows, List.mem_map, update_lastId]
    rintro _ ⟨r, mem, rfl⟩
    simpa using wf.ids_le_lastId r mem
  consistent := by
    simp only [update_rows, List.mem_map]
    rintro _ ⟨r, mem, rfl⟩
    exact RowUpdate.applyAll_consistent us (wf.consistent r mem)

/-- A write that succeeds appends the record's row, created at the given time, with the
next id of the sequence, and moves the sequence to it. -/
theorem append_ok {now : Instant} {r : NewRecord} {id : Int} (written : o.append now r = .ok (id, o')) :
    id = o.lastId + 1 ∧ o'.lastId = id ∧
      ∃ row, o'.rows = o.rows ++ [row] ∧ row.id = id ∧ row.createdAt = now ∧ row.WrittenFrom r := by
  simp only [append, nextId] at written
  split at written
  next =>
    simp only [bind, Except.bind, pure, Except.pure, Except.ok.injEq, Prod.mk.injEq] at written
    obtain ⟨rfl, rfl⟩ := written
    exact ⟨rfl, rfl, _, rfl, rfl, rfl,
      ⟨⟨rfl, ⟨r.operation, rfl⟩, rfl, rfl, rfl, rfl, rfl⟩, rfl, rfl, rfl, rfl, rfl⟩⟩
  next => simp [bind, Except.bind] at written

theorem WellFormed.append {now : Instant} {r : NewRecord} {id : Int} (wf : o.WellFormed)
    (written : o.append now r = .ok (id, o')) : o'.WellFormed := by
  obtain ⟨rfl, lastId, row, rows, rowId, -, writtenRow⟩ := append_ok written
  refine ⟨?_, ?_, ?_⟩
  · rw [rows, List.pairwise_append]
    refine ⟨wf.ids_ascending, by simp, ?_⟩
    intro a mem b memRow
    simp only [List.mem_singleton] at memRow
    subst memRow
    have := wf.ids_le_lastId a mem
    omega
  · intro a mem
    rw [rows, List.mem_append, List.mem_singleton] at mem
    rcases mem with old | rfl
    · have := wf.ids_le_lastId a old
      omega
    · omega
  · intro a mem
    rw [rows, List.mem_append, List.mem_singleton] at mem
    rcases mem with old | rfl
    · exact wf.consistent a old
    · exact writtenRow.fresh.consistent

/-- Writing records one after another appends one fresh row for each, created at the
record's time, and keeps the table well formed. -/
theorem WellFormed.appendAll (wf : o.WellFormed) {stamped : List (Instant × NewRecord)}
    {ids : List Int} (written : o.appendAll stamped = .ok (ids, o')) :
    o'.WellFormed ∧ ∃ fresh : List OutboxRow, o'.rows = o.rows ++ fresh ∧
      fresh.map OutboxRow.createdAt = stamped.map Prod.fst ∧ ∀ row ∈ fresh, row.Fresh := by
  induction stamped generalizing o ids with
  | nil =>
    simp only [Outbox.appendAll, Except.ok.injEq, Prod.mk.injEq] at written
    obtain ⟨-, rfl⟩ := written
    exact ⟨wf, [], by simp, rfl, by simp⟩
  | cons first rest induction =>
    obtain ⟨t, r⟩ := first
    simp only [Outbox.appendAll, bind, Except.bind] at written
    split at written
    next => cases written
    next step appended =>
      obtain ⟨id, o₁⟩ := step
      split at written
      next => cases written
      next tail appendedRest =>
        obtain ⟨restIds, o₂⟩ := tail
        simp only [pure, Except.pure, Except.ok.injEq, Prod.mk.injEq] at written
        obtain ⟨-, rfl⟩ := written
        obtain ⟨-, -, row, rows₁, -, created, writtenRow⟩ := append_ok appended
        obtain ⟨wf₂, freshRest, rows₂, times, freshAll⟩ :=
          induction (wf.append appended) appendedRest
        refine ⟨wf₂, row :: freshRest, by simp [rows₂, rows₁], by simp [created, times], ?_⟩
        intro a mem
        rcases List.mem_cons.mp mem with rfl | later
        · exact writtenRow.fresh
        · exact freshAll a later

end Outbox

end OutboxReplicator
