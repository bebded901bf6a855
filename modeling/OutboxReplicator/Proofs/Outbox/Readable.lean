import OutboxReplicator.Proofs.Outbox.ReadOrder
import OutboxReplicator.Proofs.Outbox.Reads
/-!
# Which reads succeed

A read selects rows, sorts them, takes the first ones (its window) and reads each back
as a record.  It succeeds exactly when every row of its window reads back
(`OutboxRow.Readable`): the operation and status tags name an operation and a status,
and the retry count fits the 32-bit column (`Outbox.readSelected_ok_iff`).  Otherwise it
fails as a whole, whatever the other rows of the window hold.  A retry count out of
range fails it as a database fault; on a window whose counts fit, the first row with an
unknown operation tag fails it with the internal failure that names the row and its tag
(`Outbox.readAll_unknown_operation`).

The pending and retryable reads are such reads, under a limit that a query parameter
must hold (`Outbox.pending_ok_iff`, `Outbox.retryable_ok_iff`).
-/

namespace OutboxReplicator

namespace OutboxRow

/-- A row that reads back as a record. -/
structure Readable (y : OutboxRow) : Prop where
  /-- The operation tag names an operation. -/
  operation : ∃ op : Operation, y.operation = op.tag
  /-- The status tag names a status. -/
  status : ∃ st : OutboxStatus, y.status = st.tag
  /-- The retry count fits its column. -/
  retryCount : Outbox.retryCountRange.1 ≤ y.retryCount ∧ y.retryCount ≤ Outbox.retryCountRange.2

/-- The failure of reading a row whose operation tag names no operation. -/
def unknownOperation (y : OutboxRow) : Failure :=
  .internal ["outbox record " ++ toString y.id ++ " has unknown operation"]
    (.message (unknownVariantMessage y.operation))

theorem unreadable_eq_none_iff {y : OutboxRow} :
    Outbox.unreadable y = none ↔
      Outbox.retryCountRange.1 ≤ y.retryCount ∧ y.retryCount ≤ Outbox.retryCountRange.2 := by
  refine ⟨fun readable => ?_, unreadable_eq_none⟩
  unfold Outbox.unreadable at readable
  split at readable
  · cases readable
  · split at readable
    · cases readable
    · omega

/-- A row reads back exactly when it is a record stored and its retry count fits. -/
theorem readable_iff {y : OutboxRow} :
    y.Readable ↔ Outbox.unreadable y = none ∧ ∃ x, y.toRecord = .ok x := by
  constructor
  · rintro ⟨⟨op, opTag⟩, ⟨st, stTag⟩, counts⟩
    obtain ⟨x, stored⟩ := stored_of_tags opTag stTag
    exact ⟨unreadable_eq_none counts, x, toRecord_eq_ok_iff.mpr stored⟩
  · rintro ⟨readable, x, read⟩
    rw [← toRecord_eq_ok_iff.mp read]
    exact ⟨⟨x.operation, rfl⟩, ⟨x.status, rfl⟩, unreadable_eq_none_iff.mp (toRecord_eq_ok_iff.mp read ▸ readable)⟩

theorem toRecord_of_unknown_operation {y : OutboxRow} (unknown : ∀ op : Operation, y.operation ≠ op.tag) :
    y.toRecord = .error y.unknownOperation := by
  have none : Operation.ofTag? y.operation = none := by
    cases known : Operation.ofTag? y.operation with
    | none => rfl
    | some op => exact absurd (Operation.tag_of_ofTag? known).symm (unknown op)
  simp only [toRecord, none]
  rfl

end OutboxRow

namespace Outbox

variable {rows : List OutboxRow}

/-- Rows that are records stored read back as those records. -/
theorem readAll_of_stored (stored : ∀ y ∈ rows, ∃ x, y.toRecord = .ok x) :
    ∃ records, readAll rows = .ok records := by
  obtain ⟨records, storedAll⟩ := exists_stored fun y found => by
    obtain ⟨x, read⟩ := stored y found
    rw [← OutboxRow.toRecord_eq_ok_iff.mp read]
    exact ⟨x.operation, x.status, rfl, rfl⟩
  exact ⟨records, readAll_eq_ok_iff.mpr storedAll⟩

/-- Reading rows fails at the first row with an unknown operation tag, when every row
before it is a record stored. -/
theorem readAll_unknown_operation {pre post : List OutboxRow} {y : OutboxRow}
    (before : ∀ z ∈ pre, ∃ x, z.toRecord = .ok x) (unknown : ∀ op : Operation, y.operation ≠ op.tag) :
    readAll (pre ++ y :: post) = .error y.unknownOperation := by
  induction pre with
  | nil =>
    simp only [List.nil_append, readAll, List.mapM_cons, OutboxRow.toRecord_of_unknown_operation unknown]
    rfl
  | cons z pre induction =>
    obtain ⟨x, read⟩ := before z List.mem_cons_self
    have rest := induction fun w found => before w (List.mem_cons_of_mem z found)
    simp only [readAll] at rest
    simp only [List.cons_append, readAll, List.mapM_cons, read, rest]
    rfl

/-- A read of rows succeeds exactly when every row reads back. -/
theorem readSelected_ok_iff {context : String} :
    (∃ records, readSelected context rows = .ok records) ↔ ∀ y ∈ rows, y.Readable := by
  constructor
  · rintro ⟨records, read⟩ y found
    unfold readSelected at read
    split at read
    · cases read
    · next counts =>
      have readable : rows.findSome? unreadable = none := by simpa using counts
      have stored : y ∈ records.map OutboxRecord.toRow := (readAll_eq_ok_iff.mp read) ▸ found
      obtain ⟨x, _, rfl⟩ := List.mem_map.mp stored
      exact OutboxRow.readable_iff.mpr ⟨List.findSome?_eq_none_iff.mp readable _ found, x, x.toRow_toRecord⟩
  · intro readable
    rw [readSelected_readable fun y found => (readable y found).retryCount]
    exact readAll_of_stored fun y found => (OutboxRow.readable_iff.mp (readable y found)).2

/-- Records read from rows are as many as the rows. -/
theorem readSelected_length {context : String} {records : List OutboxRecord}
    (read : readSelected context rows = .ok records) : records.length = rows.length := by
  unfold readSelected at read
  split at read
  · cases read
  · rw [← readAll_eq_ok_iff.mp read, List.length_map]

theorem limited_ok_iff {α : Type} {limit : Nat} {read : Except Failure α} (fits : limit ≤ maxLimit) :
    (∃ a, limited limit read = .ok a) ↔ ∃ a, read = .ok a := by
  rw [limited_of_le fits]
  cases read <;> simp [Except.mapError]

/-! ## The pending and retryable reads -/

/-- The rows a pending read takes: pending rows in stored creation order, up to a limit. -/
def pendingWindow (o : Outbox) (limit : Nat) : List OutboxRow :=
  ((o.rows.filter (·.status == OutboxStatus.pending.tag)).mergeSort createdOrder).take limit

/-- The failed rows with retries left: those the retryable read selects. -/
def retryRows (o : Outbox) (maxRetry : Int) : List OutboxRow :=
  o.rows.filter fun y => y.status == OutboxStatus.failed.tag && y.retryCount < maxRetry

/-- The rows a retryable read takes: failed rows with retries left in stored creation
order, up to a limit. -/
def retryWindow (o : Outbox) (maxRetry : Int) (limit : Nat) : List OutboxRow :=
  ((o.retryRows maxRetry).mergeSort createdOrder).take limit

variable (o : Outbox) (maxRetry : Int) (limit : Nat)

theorem pending_eq :
    o.pending limit = limited limit (readSelected "fetch pending outbox records" (o.pendingWindow limit)) :=
  rfl

theorem retryable_eq : o.retryable maxRetry limit =
    limited limit (readSelected "fetch retryable outbox records" (o.retryWindow maxRetry limit)) :=
  rfl

variable {o maxRetry limit}

/-- A pending read under a limit that a query parameter holds succeeds exactly when
every row of its window reads back. -/
theorem pending_ok_iff (fits : limit ≤ maxLimit) :
    (∃ batch, o.pending limit = .ok batch) ↔ ∀ y ∈ o.pendingWindow limit, y.Readable := by
  rw [pending_eq, limited_ok_iff fits, readSelected_ok_iff]

/-- A retryable read under a limit that a query parameter holds succeeds exactly when
every row of its window reads back. -/
theorem retryable_ok_iff (fits : limit ≤ maxLimit) :
    (∃ batch, o.retryable maxRetry limit = .ok batch) ↔ ∀ y ∈ o.retryWindow maxRetry limit, y.Readable := by
  rw [retryable_eq, limited_ok_iff fits, readSelected_ok_iff]

/-- A retryable read returns as many records as its window holds. -/
theorem retryable_length {batch : List OutboxRecord} (read : o.retryable maxRetry limit = .ok batch) :
    batch.length = (o.retryWindow maxRetry limit).length :=
  readSelected_length (limited_ok read)

/-- A window wide enough for all failed rows with retries left holds all of them. -/
theorem retryWindow_perm (wide : (o.retryRows maxRetry).length ≤ limit) :
    (o.retryWindow maxRetry limit).Perm (o.retryRows maxRetry) := by
  rw [retryWindow, List.take_of_length_le (by rw [List.length_mergeSort]; exact wide)]
  exact List.mergeSort_perm _ _

/-- On a window whose retry counts fit, a pending read fails at the first row with an
unknown operation tag, naming it. -/
theorem pending_of_unknown_operation (fits : limit ≤ maxLimit) {pre post : List OutboxRow}
    {y : OutboxRow} (window : o.pendingWindow limit = pre ++ y :: post)
    (counts : ∀ z ∈ o.pendingWindow limit,
      retryCountRange.1 ≤ z.retryCount ∧ z.retryCount ≤ retryCountRange.2)
    (before : ∀ z ∈ pre, ∃ op : Operation, z.operation = op.tag)
    (unknown : ∀ op : Operation, y.operation ≠ op.tag) :
    o.pending limit = .error (.failure y.unknownOperation) := by
  -- the rows before `y` are pending, so they read as records
  have pendingRows : ∀ z ∈ o.pendingWindow limit, z.status = OutboxStatus.pending.tag := fun z found =>
    by simpa using (List.mem_filter.mp (List.mem_mergeSort.mp (List.mem_of_mem_take found))).2
  have stored : ∀ z ∈ pre, ∃ x, z.toRecord = .ok x := fun z found => by
    obtain ⟨op, opTag⟩ := before z found
    obtain ⟨x, storedZ⟩ := OutboxRow.stored_of_tags opTag
      (pendingRows z (window ▸ List.mem_append_left _ found))
    exact ⟨x, OutboxRow.toRecord_eq_ok_iff.mpr storedZ⟩
  rw [pending_eq, limited_of_le fits, readSelected_readable counts, window,
    readAll_unknown_operation stored unknown]
  rfl

end Outbox

end OutboxReplicator
