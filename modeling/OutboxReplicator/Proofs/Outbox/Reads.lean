import OutboxReplicator.Proofs.Processor.OrderedCycle
/-!
# What the reads return

Every read of the outbox selects rows, sorts them and takes the first ones, then reads
each as a record.  A record it returns is therefore the reading of a row of the table
that the selection keeps (`Outbox.selected_rows`), with the row's id, and on a table of
distinct ids each row is read once (`Outbox.selected_nodup`).  The pending read keeps
pending rows, and the retryable read failed rows with retries left.
-/

namespace OutboxReplicator

namespace Outbox

/-- Rows mapped by a function that keeps ids have the same ids. -/
theorem ids_map {rows : List OutboxRow} {f : OutboxRow → OutboxRow} (keeps : ∀ y, (f y).id = y.id) :
    (rows.map f).map OutboxRow.id = rows.map OutboxRow.id := by
  rw [List.map_map]
  exact List.map_congr_left fun y _ => keeps y

/-- Every record read from rows is the reading of one of them. -/
theorem exists_row_of_readAll {rows : List OutboxRow} {records : List OutboxRecord}
    (read : readAll rows = .ok records) : ∀ x ∈ records, ∃ y ∈ rows, y.toRecord = .ok x := by
  induction forall₂_of_readAll read with
  | nil => simp
  | @cons y x rows records first _ induction =>
    intro z mem
    rcases List.mem_cons.mp mem with rfl | later
    · exact ⟨y, by simp, first⟩
    · obtain ⟨w, found, readW⟩ := induction (readAll_of_forall₂ ‹_›) z later
      exact ⟨w, List.mem_cons_of_mem _ found, readW⟩

/-- Records read from rows carry the rows' ids. -/
theorem ids_of_readAll {rows : List OutboxRow} {records : List OutboxRecord}
    (read : readAll rows = .ok records) : records.map (·.id) = rows.map OutboxRow.id := by
  induction forall₂_of_readAll read with
  | nil => rfl
  | cons first _ induction =>
    simp [(OutboxRow.toRecord_ok first).1, induction (readAll_of_forall₂ ‹_›)]

variable {o : Outbox} {limit : Nat} {batch : List OutboxRecord}

/-- A selection read takes the first rows of a sorted selection: each record it returns
is the reading of a row of the table that the selection keeps. -/
theorem selected_rows {p : OutboxRow → Bool} {le : OutboxRow → OutboxRow → Bool} {context : String}
    (read : readSelected context (((o.rows.filter p).mergeSort le).take limit) = .ok batch) :
    ∀ x ∈ batch, ∃ y ∈ o.rows, p y ∧ y.toRecord = .ok x := by
  unfold readSelected at read
  split at read
  · cases read
  · intro x mem
    obtain ⟨y, taken, readY⟩ := exists_row_of_readAll read x mem
    have selected := List.mem_filter.mp (List.mem_mergeSort.mp (List.mem_of_mem_take taken))
    exact ⟨y, selected.1, selected.2, readY⟩

/-- A selection read of a table with distinct ids returns each record once. -/
theorem selected_nodup {p : OutboxRow → Bool} {le : OutboxRow → OutboxRow → Bool} {context : String}
    (distinct : o.IdsDistinct)
    (read : readSelected context (((o.rows.filter p).mergeSort le).take limit) = .ok batch) :
    (batch.map (·.id)).Nodup := by
  unfold readSelected at read
  split at read
  · cases read
  · rw [ids_of_readAll read]
    have filtered : ((o.rows.filter p).map OutboxRow.id).Nodup :=
      distinct.sublist (List.filter_sublist.map _)
    have sorted : (((o.rows.filter p).mergeSort le).map OutboxRow.id).Nodup :=
      ((List.mergeSort_perm _ _).map _).nodup_iff.mpr filtered
    exact sorted.sublist ((List.take_sublist _ _).map _)

/-- The pending read returns records of pending rows. -/
theorem pending_rows (read : o.pending limit = .ok batch) :
    ∀ x ∈ batch, ∃ y ∈ o.rows, y.status = OutboxStatus.pending.tag ∧ y.toRecord = .ok x := by
  intro x mem
  simpa using selected_rows (limited_ok read) x mem

/-- The retryable read returns records of failed rows with retries left. -/
theorem retryable_rows {maxRetry : Int} (read : o.retryable maxRetry limit = .ok batch) :
    ∀ x ∈ batch, ∃ y ∈ o.rows, (y.status = OutboxStatus.failed.tag ∧ y.retryCount < maxRetry) ∧
      y.toRecord = .ok x := by
  intro x mem
  simpa using selected_rows (limited_ok read) x mem

/-- A record the pending read returns was read as pending. -/
theorem pending_read_status {x : OutboxRecord} {y : OutboxRow}
    (pending : y.status = OutboxStatus.pending.tag) (readY : y.toRecord = .ok x) :
    x.status = .pending := by
  unfold OutboxRow.toRecord at readY
  split at readY
  · cases readY
  · split at readY
    · cases readY
    · next st known =>
      cases readY
      rw [pending] at known
      simpa using known.symm

end Outbox

end OutboxReplicator
