import Mathlib.Data.List.Nodup
import OutboxReplicator.Stores
/-!
# The outbox's updates, row by row

Every write the store makes to rows already in the table is one guarded `UPDATE`: it
visits every row, changes the rows its guard selects and leaves the others alone.
`RowUpdate` names the five of them (claim, mark processed, mark failed, requeue and
release) and `RowUpdate.apply` says what each does to one row.  On a table whose ids
are distinct the store's operations are exactly these maps (`Outbox.claim_snd`,
`Outbox.markProcessed_eq`, `Outbox.markFailed_eq`, `Outbox.requeue_snd`,
`Outbox.release_snd`).

Seen row by row, an update

* keeps the columns fixed at write time (`RowUpdate.apply_origin`);
* leaves a completed row alone (`RowUpdate.apply_of_completed`);
* raises the retry count by one exactly when it marks a row that is not completed as
  failed (`RowUpdate.apply_retryCount`);
* keeps a consistent row consistent (`RowUpdate.apply_consistent`).

The same facts hold of any sequence of updates (`RowUpdate.applyAll`), with the retry
count raised by the number of failures the sequence records (`RowUpdate.failures`).
-/

namespace OutboxReplicator

/-- The columns of a row that are fixed when it is written. -/
structure RowOrigin where
  /-- The id. -/
  id : Int
  /-- The entity type. -/
  entityType : String
  /-- The key of the entity. -/
  entityId : Int
  /-- The operation's tag. -/
  operation : String
  /-- The payload. -/
  payload : Json
  /-- The id tying the record to a request. -/
  correlationId : Option String
  /-- When the record was written. -/
  createdAt : Instant

namespace OutboxRow

/-- The columns of the row fixed at write time. -/
def origin (r : OutboxRow) : RowOrigin :=
  ⟨r.id, r.entityType, r.entityId, r.operation, r.payload, r.correlationId, r.createdAt⟩

/-- What holds of every row that only the writer and the store's updates have written:
the status names one, the completion time is set exactly on completed rows, a completed
row carries no error, a failed row carries its failure, and a processing row its claim. -/
structure Consistent (r : OutboxRow) : Prop where
  status_known : ∃ st : OutboxStatus, r.status = st.tag
  processed_iff_completed : r.processedAt.isSome ↔ r.status = OutboxStatus.completed.tag
  completed_without_error : r.status = OutboxStatus.completed.tag → r.error = none
  failed_recorded : r.status = OutboxStatus.failed.tag →
    r.failedAt.isSome ∧ r.error.isSome ∧ 1 ≤ r.retryCount
  processing_claimed : r.status = OutboxStatus.processing.tag → r.claimedAt.isSome
  retryCount_nonneg : 0 ≤ r.retryCount

end OutboxRow

namespace OutboxStatus

@[simp] theorem tag_inj {a b : OutboxStatus} : a.tag = b.tag ↔ a = b := by
  cases a <;> cases b <;> decide

end OutboxStatus

namespace OutboxRow.Consistent

variable {r : OutboxRow}

/-- A row that is not completed has no completion time. -/
theorem processedAt_eq_none (consistent : r.Consistent)
    (notCompleted : r.status ≠ OutboxStatus.completed.tag) : r.processedAt = none := by
  have unset : r.processedAt.isSome = false := by
    simpa [notCompleted] using consistent.processed_iff_completed.not
  simpa using unset

end OutboxRow.Consistent

/-- A guarded update of the outbox table. -/
inductive RowUpdate where
  /-- Claim the row with an id if it is pending. -/
  | claim (now : Instant) (id : Int)
  /-- Complete the row with an id unless it is completed. -/
  | markProcessed (now : Instant) (id : Int)
  /-- Fail the row with an id unless it is completed. -/
  | markFailed (now : Instant) (id : Int) (message : String)
  /-- Make failed rows due at a cutoff pending. -/
  | requeue (maxRetry : Int) (cutoff : Instant)
  /-- Make processing rows claimed no later than a cutoff pending and unclaimed. -/
  | release (cutoff : Instant)

namespace RowUpdate

/-- The row after the update: changed when the update's guard selects it. -/
def apply : RowUpdate → OutboxRow → OutboxRow
  | .claim now id, r =>
    if r.id = id ∧ r.status = OutboxStatus.pending.tag then
      { r with status := OutboxStatus.processing.tag, claimedAt := some now }
    else r
  | .markProcessed now id, r =>
    if r.id = id ∧ r.status ≠ OutboxStatus.completed.tag then
      { r with status := OutboxStatus.completed.tag, processedAt := some now, error := none }
    else r
  | .markFailed now id message, r =>
    if r.id = id ∧ r.status ≠ OutboxStatus.completed.tag then
      { r with status := OutboxStatus.failed.tag, error := some message,
               retryCount := r.retryCount + 1, failedAt := some now }
    else r
  | .requeue maxRetry cutoff, r =>
    if Outbox.dueForRetry maxRetry cutoff r then { r with status := OutboxStatus.pending.tag }
    else r
  | .release cutoff, r =>
    if Outbox.staleClaim cutoff r then
      { r with status := OutboxStatus.pending.tag, claimedAt := none }
    else r

/-- Whether the update records a failure of the row: it marks the row's id failed while
the row is not completed. -/
def failsRow : RowUpdate → OutboxRow → Bool
  | .markFailed _ id _, r => r.id == id && r.status != OutboxStatus.completed.tag
  | _, _ => false

/-- The row after a sequence of updates, applied in order. -/
def applyAll (us : List RowUpdate) (r : OutboxRow) : OutboxRow :=
  us.foldl (fun r u => u.apply r) r

/-- How many updates of a sequence, applied in order, record a failure of the row. -/
def failures : List RowUpdate → OutboxRow → Nat
  | [], _ => 0
  | u :: us, r => (if u.failsRow r then 1 else 0) + failures us (u.apply r)

/-! ## One update -/

@[simp] theorem apply_origin (u : RowUpdate) (r : OutboxRow) : (u.apply r).origin = r.origin := by
  cases u <;> simp only [apply] <;> split <;> rfl

@[simp] theorem apply_id (u : RowUpdate) (r : OutboxRow) : (u.apply r).id = r.id :=
  congrArg RowOrigin.id (apply_origin u r)

/-- No update selects a completed row. -/
theorem apply_of_completed (u : RowUpdate) {r : OutboxRow}
    (completed : r.status = OutboxStatus.completed.tag) : u.apply r = r := by
  cases u with
  | claim now id => simp [apply, completed]
  | markProcessed now id => simp [apply, completed]
  | markFailed now id message => simp [apply, completed]
  | requeue maxRetry cutoff => simp [apply, Outbox.dueForRetry, completed]
  | release cutoff => simp [apply, Outbox.staleClaim, completed]

/-- Only a recorded failure moves the retry count, and by one. -/
theorem apply_retryCount (u : RowUpdate) (r : OutboxRow) :
    (u.apply r).retryCount = r.retryCount + if u.failsRow r then 1 else 0 := by
  cases u with
  | markFailed now id message =>
    by_cases selected : r.id = id ∧ r.status ≠ OutboxStatus.completed.tag
    · simp [apply, failsRow, selected]
    · simp only [apply, failsRow, if_neg selected]
      simp [selected]
  | claim now id => simp only [apply, failsRow]; split <;> simp
  | markProcessed now id => simp only [apply, failsRow]; split <;> simp
  | requeue maxRetry cutoff => simp only [apply, failsRow]; split <;> simp
  | release cutoff => simp only [apply, failsRow]; split <;> simp

/-- Every update keeps a consistent row consistent. -/
theorem apply_consistent (u : RowUpdate) {r : OutboxRow} (consistent : r.Consistent) :
    (u.apply r).Consistent := by
  have nonneg := consistent.retryCount_nonneg
  cases u with
  | claim now id =>
    simp only [apply]
    split
    next selected =>
      have unprocessed := consistent.processedAt_eq_none (by simp [selected.2])
      constructor <;> simp [unprocessed, nonneg]
    next => exact consistent
  | markProcessed now id =>
    simp only [apply]
    split
    next =>
      constructor <;> simp [nonneg]
    next => exact consistent
  | markFailed now id message =>
    simp only [apply]
    split
    next selected =>
      have unprocessed := consistent.processedAt_eq_none selected.2
      constructor <;> simp [unprocessed] <;> omega
    next => exact consistent
  | requeue maxRetry cutoff =>
    simp only [apply]
    split
    next due =>
      have failed : r.status = OutboxStatus.failed.tag := by
        simp [Outbox.dueForRetry] at due
        exact due.1.1
      have unprocessed := consistent.processedAt_eq_none (by simp [failed])
      constructor <;> simp [unprocessed, nonneg]
    next => exact consistent
  | release cutoff =>
    simp only [apply]
    split
    next stale =>
      have processing : r.status = OutboxStatus.processing.tag := by
        simp [Outbox.staleClaim] at stale
        exact stale.1
      have unprocessed := consistent.processedAt_eq_none (by simp [processing])
      constructor <;> simp [unprocessed, nonneg]
    next => exact consistent

/-! ## Sequences of updates -/

@[simp] theorem applyAll_nil (r : OutboxRow) : applyAll [] r = r := rfl

@[simp] theorem map_applyAll_nil (rows : List OutboxRow) : rows.map (applyAll []) = rows :=
  List.map_id'' applyAll_nil rows

@[simp] theorem applyAll_cons (u : RowUpdate) (us : List RowUpdate) (r : OutboxRow) :
    applyAll (u :: us) r = applyAll us (u.apply r) := rfl

theorem applyAll_append (us vs : List RowUpdate) (r : OutboxRow) :
    applyAll (us ++ vs) r = applyAll vs (applyAll us r) := by
  simp [applyAll, List.foldl_append]

@[simp] theorem applyAll_origin (us : List RowUpdate) (r : OutboxRow) :
    (applyAll us r).origin = r.origin := by
  induction us generalizing r with
  | nil => rfl
  | cons u us ih => simp [ih]

@[simp] theorem applyAll_id (us : List RowUpdate) (r : OutboxRow) :
    (applyAll us r).id = r.id :=
  congrArg RowOrigin.id (applyAll_origin us r)

theorem applyAll_of_completed (us : List RowUpdate) {r : OutboxRow}
    (completed : r.status = OutboxStatus.completed.tag) : applyAll us r = r := by
  induction us with
  | nil => rfl
  | cons u us ih => simp [apply_of_completed u completed, ih]

/-- Over a sequence of updates the retry count grows by the failures recorded, and by
nothing else. -/
theorem applyAll_retryCount (us : List RowUpdate) (r : OutboxRow) :
    (applyAll us r).retryCount = r.retryCount + failures us r := by
  induction us generalizing r with
  | nil => simp [failures]
  | cons u us ih =>
    rw [applyAll_cons, ih, apply_retryCount, failures]
    split <;> push_cast <;> omega

theorem applyAll_consistent (us : List RowUpdate) {r : OutboxRow}
    (consistent : r.Consistent) : (applyAll us r).Consistent := by
  induction us generalizing r with
  | nil => exact consistent
  | cons u us ih => exact ih (u.apply_consistent consistent)

end RowUpdate

namespace Outbox

/-! ## The table under updates -/

/-- The table after a sequence of updates: every row updated, no row added. -/
def update (o : Outbox) (us : List RowUpdate) : Outbox :=
  { o with rows := o.rows.map (RowUpdate.applyAll us) }

/-- Whether the ids of the table's rows are distinct. -/
def IdsDistinct (o : Outbox) : Prop := (o.rows.map OutboxRow.id).Nodup

variable {o : Outbox}


@[simp] theorem update_lastId (o : Outbox) (us : List RowUpdate) : (o.update us).lastId = o.lastId :=
  rfl

@[simp] theorem update_rows (o : Outbox) (us : List RowUpdate) :
    (o.update us).rows = o.rows.map (RowUpdate.applyAll us) :=
  rfl

theorem update_update (o : Outbox) (us vs : List RowUpdate) :
    (o.update us).update vs = o.update (us ++ vs) := by
  simp [update, RowUpdate.applyAll_append, Function.comp_def]

theorem update_ids (o : Outbox) (us : List RowUpdate) :
    (o.update us).rows.map OutboxRow.id = o.rows.map OutboxRow.id := by
  simp [Function.comp_def]

theorem IdsDistinct.update (distinct : o.IdsDistinct) (us : List RowUpdate) :
    (o.update us).IdsDistinct := by
  rw [IdsDistinct, update_ids]
  exact distinct

/-- With distinct ids, the row found by an id is the only row with that id. -/
theorem eq_of_find? (distinct : o.IdsDistinct) {id : Int} {r : OutboxRow}
    (found : o.find? id = some r) {s : OutboxRow} (mem : s ∈ o.rows) (sameId : s.id = id) :
    s = r := by
  have rMem : r ∈ o.rows := List.mem_of_find?_eq_some found
  have rId : r.id = id := by simpa using List.find?_some found
  exact List.inj_on_of_nodup_map distinct mem rMem (sameId.trans rId.symm)

/-- Mapping the rows by a function that fixes each of them changes nothing. -/
theorem map_fixing {f : OutboxRow → OutboxRow} (fixes : ∀ s ∈ o.rows, f s = s) :
    { o with rows := o.rows.map f } = o := by
  have unchanged : o.rows.map f = o.rows := by
    rw [List.map_congr_left fixes]
    simp
  rw [unchanged]

@[simp] theorem update_nil (o : Outbox) : o.update [] = o :=
  map_fixing fun s _ => RowUpdate.applyAll_nil s

/-- Replacing the row found by an id with its image under `f` is mapping the rows by
`f`, when `f` keeps the id and fixes every other row. -/
theorem replace_found (distinct : o.IdsDistinct) {id : Int} {r : OutboxRow}
    (found : o.find? id = some r) {f : OutboxRow → OutboxRow} (keepsId : (f r).id = id)
    (fixesOthers : ∀ s, s.id ≠ id → f s = s) :
    o.replace (f r) = { o with rows := o.rows.map f } := by
  simp only [replace, keepsId]
  congr 1
  apply List.map_congr_left
  intro s mem
  by_cases sameId : s.id = id
  · obtain rfl := eq_of_find? distinct found mem sameId
    simp [sameId]
  · simp [sameId, fixesOthers s sameId]

/-! ## The store's updates are row maps -/

theorem requeue_snd (o : Outbox) (maxRetry : Int) (cutoff : Instant) :
    (o.requeue maxRetry cutoff).2 = o.update [.requeue maxRetry cutoff] :=
  rfl

theorem release_snd (o : Outbox) (cutoff : Instant) :
    (o.release cutoff).2 = o.update [.release cutoff] :=
  rfl

/-- With no row of the id, no update of the id selects a row. -/
theorem absent_of_find? {id : Int} (found : o.find? id = none) : ∀ s ∈ o.rows, s.id ≠ id := by
  simpa [find?] using found

theorem id_of_find? {id : Int} {r : OutboxRow} (found : o.find? id = some r) : r.id = id := by
  simpa using List.find?_some found

variable {id : Int} {r : OutboxRow} {u : RowUpdate}

/-- Storing the update's image of the row found by an id is the update, when it fixes the
rows of other ids. -/
theorem replace_found_update (distinct : o.IdsDistinct) (found : o.find? id = some r)
    (fixesOthers : ∀ s, s.id ≠ id → u.apply s = s) : o.replace (u.apply r) = o.update [u] :=
  replace_found distinct found (by simp [id_of_find? found]) (by simpa using fixesOthers)

/-- An update that fixes the row found by an id and the rows of other ids changes nothing. -/
theorem update_found_fixed (distinct : o.IdsDistinct) (found : o.find? id = some r)
    (fixesOthers : ∀ s, s.id ≠ id → u.apply s = s) (fixesFound : u.apply r = r) :
    o.update [u] = o := by
  refine map_fixing fun s mem => ?_
  by_cases sameId : s.id = id
  · obtain rfl := eq_of_find? distinct found mem sameId
    simpa using fixesFound
  · simpa using fixesOthers s sameId

/-- An update that fixes the rows of other ids changes nothing when no row has the id. -/
theorem update_absent (found : o.find? id = none)
    (fixesOthers : ∀ s, s.id ≠ id → u.apply s = s) : o.update [u] = o :=
  map_fixing fun s mem => by simpa using fixesOthers s (absent_of_find? found s mem)

theorem claim_snd (distinct : o.IdsDistinct) (now : Instant) (id : Int) :
    (o.claim now id).2 = o.update [.claim now id] := by
  have fixesOthers : ∀ s, s.id ≠ id → (RowUpdate.claim now id).apply s = s := by
    intro s other
    simp [RowUpdate.apply, other]
  unfold claim
  cases found : o.find? id with
  | none => exact (update_absent found fixesOthers).symm
  | some r =>
    have rId := id_of_find? found
    simp only
    split
    next pending =>
      have image : (RowUpdate.claim now id).apply r =
          { r with status := OutboxStatus.processing.tag, claimedAt := some now } := by
        simp_all [RowUpdate.apply]
      rw [← image]
      exact replace_found_update distinct found fixesOthers
    next notPending =>
      exact (update_found_fixed distinct found fixesOthers (by simp_all [RowUpdate.apply])).symm

theorem markProcessed_eq (distinct : o.IdsDistinct) (now : Instant) (id : Int) :
    o.markProcessed now id = o.update [.markProcessed now id] := by
  have fixesOthers : ∀ s, s.id ≠ id → (RowUpdate.markProcessed now id).apply s = s := by
    intro s other
    simp [RowUpdate.apply, other]
  unfold markProcessed
  cases found : o.find? id with
  | none => exact (update_absent found fixesOthers).symm
  | some r =>
    have rId := id_of_find? found
    simp only
    split
    next completed =>
      exact (update_found_fixed distinct found fixesOthers (by simp_all [RowUpdate.apply])).symm
    next notCompleted =>
      have image : (RowUpdate.markProcessed now id).apply r =
          { r with status := OutboxStatus.completed.tag, processedAt := some now,
                   error := none } := by
        simp_all [RowUpdate.apply]
      rw [← image]
      exact replace_found_update distinct found fixesOthers

theorem markFailed_eq (distinct : o.IdsDistinct) (now : Instant) (id : Int) (message : String) :
    o.markFailed now id message = o.update [.markFailed now id message] := by
  have fixesOthers : ∀ s, s.id ≠ id → (RowUpdate.markFailed now id message).apply s = s := by
    intro s other
    simp [RowUpdate.apply, other]
  unfold markFailed
  cases found : o.find? id with
  | none => exact (update_absent found fixesOthers).symm
  | some r =>
    have rId := id_of_find? found
    simp only
    split
    next completed =>
      exact (update_found_fixed distinct found fixesOthers (by simp_all [RowUpdate.apply])).symm
    next notCompleted =>
      have image : (RowUpdate.markFailed now id message).apply r =
          { r with status := OutboxStatus.failed.tag, error := some message,
                   retryCount := r.retryCount + 1, failedAt := some now } := by
        simp_all [RowUpdate.apply]
      rw [← image]
      exact replace_found_update distinct found fixesOthers

end Outbox

end OutboxReplicator
