import OutboxReplicator.Proofs.Outbox.Readable
/-!
# Counts by status

The stats count the rows of each status tag, and the failed rows whose retry count has
reached the maximum (`Outbox.stats_ofStatus`, `Outbox.stats_exhausted`).  Rows whose
tag names no status are not counted, so the four counts add up to the table's size
exactly when every tag names a status (`Outbox.stats_sum`).

The exhausted count and the retryable selection split the failed rows, for every
maximum, negative ones included (`Outbox.exhausted_add_retryRows`), and requeueing picks
only among the retryable rows (`Outbox.mem_retryRows_of_dueForRetry`).  The retryable read
sees the same rows: under a limit at least their number, it returns one record for each
of them, or fails as a whole when one of them does not read back
(`Outbox.retryable_whole`).  A failed row with retries left and an unknown operation tag
is such a row (`unknown_operation_fails_the_retryable_read`).
-/

namespace OutboxReplicator

namespace OutboxStats

/-- The count of a status. -/
def ofStatus (s : OutboxStats) : OutboxStatus → Nat
  | .pending => s.pending
  | .processing => s.processing
  | .completed => s.completed
  | .failed => s.failed

end OutboxStats

namespace Outbox

variable (o : Outbox) (maxRetry : Int)

/-- Each status count is the number of rows with that status's tag. -/
theorem stats_ofStatus (st : OutboxStatus) :
    (o.stats maxRetry).ofStatus st = o.rows.countP (·.status == st.tag) := by
  cases st <;> simp [stats, OutboxStats.ofStatus, List.countP_eq_length_filter]

theorem stats_exhausted :
    (o.stats maxRetry).exhausted =
      o.rows.countP fun y => y.status == OutboxStatus.failed.tag && maxRetry ≤ y.retryCount := by
  simp [stats, List.countP_eq_length_filter]

/-- Rows whose tags all name a status are counted once each, under their status. -/
theorem countP_statuses {rows : List OutboxRow} (statuses : ∀ y ∈ rows, ∃ st : OutboxStatus, y.status = st.tag) :
    rows.countP (·.status == OutboxStatus.pending.tag) + rows.countP (·.status == OutboxStatus.processing.tag) +
      rows.countP (·.status == OutboxStatus.completed.tag) + rows.countP (·.status == OutboxStatus.failed.tag) =
      rows.length := by
  induction rows with
  | nil => rfl
  | cons y rows induction =>
    have rest := induction fun z found => statuses z (List.mem_cons_of_mem y found)
    obtain ⟨st, tagged⟩ := statuses y List.mem_cons_self
    simp only [List.countP_cons, List.length_cons, tagged]
    cases st <;> simp [OutboxStatus.tag] at rest ⊢ <;> omega

/-- With every tag naming a status, the four counts add up to the table's size. -/
theorem stats_sum (statuses : ∀ y ∈ o.rows, ∃ st : OutboxStatus, y.status = st.tag) :
    (o.stats maxRetry).pending + (o.stats maxRetry).processing + (o.stats maxRetry).completed +
      (o.stats maxRetry).failed = o.rows.length := by
  have counted := countP_statuses statuses
  simp only [← stats_ofStatus o maxRetry, OutboxStats.ofStatus] at counted
  exact counted

/-- The failed rows are the exhausted ones and those with retries left. -/
theorem exhausted_add_retryRows :
    (o.stats maxRetry).exhausted + (o.retryRows maxRetry).length = (o.stats maxRetry).failed := by
  have failedRows := (o.stats_ofStatus maxRetry .failed).trans (List.countP_eq_length_filter ..)
  simp only [OutboxStats.ofStatus] at failedRows
  -- split the failed rows by their retry count
  have split := @List.length_eq_countP_add_countP _ (fun y : OutboxRow => maxRetry ≤ y.retryCount)
    (o.rows.filter (·.status == OutboxStatus.failed.tag))
  rw [stats_exhausted, failedRows, split, retryRows, List.countP_filter, List.countP_filter,
    ← List.countP_eq_length_filter]
  congr 1
  · exact List.countP_congr fun y _ => by simp [Bool.and_comm]
  · exact List.countP_congr fun y _ => by simp [Bool.and_comm]

/-- Requeueing moves only failed rows with retries left. -/
theorem mem_retryRows_of_dueForRetry {cutoff : Instant} {y : OutboxRow} (found : y ∈ o.rows)
    (due : dueForRetry maxRetry cutoff y = true) : y ∈ o.retryRows maxRetry := by
  simp only [dueForRetry, Bool.and_eq_true] at due
  exact List.mem_filter.mpr ⟨found, by simp only [Bool.and_eq_true]; exact due.1⟩

variable {o maxRetry}

/-- Under a limit at least the number of failed rows with retries left, the retryable
read returns one record for each of them, or fails when one of them does not read
back. -/
theorem retryable_whole {limit : Nat} (wide : (o.retryRows maxRetry).length ≤ limit)
    (fits : limit ≤ maxLimit) :
    ((∃ batch, o.retryable maxRetry limit = .ok batch) ↔ ∀ y ∈ o.retryRows maxRetry, y.Readable) ∧
      ∀ batch, o.retryable maxRetry limit = .ok batch → batch.length = (o.retryRows maxRetry).length := by
  have whole := retryWindow_perm wide
  refine ⟨?_, fun batch read => (retryable_length read).trans whole.length_eq⟩
  rw [retryable_ok_iff fits]
  exact forall_congr' fun y => imp_congr_left whole.mem_iff

end Outbox

namespace HttpResponse

/-- A GET of the stats answers them, counted under the options' maximum. -/
theorem get_stats (opts : OutboxOptions) (o : Outbox) {target : RequestTarget}
    (path : target.path = "/outbox/stats") :
    get opts o target = ⟨200, .json (o.stats opts.maxRetryCount).toJson⟩ := by
  unfold get
  simp only [path]
  rw [if_neg (by decide), if_neg (by decide), if_pos (by decide)]

end HttpResponse

/-! ## The stats as a whole -/

/-- On a table whose status tags all name a status, under any maximum of retries:

* each status count is the number of rows of that status, and the four counts add up to
  the table's size;
* the exhausted count is the number of failed rows whose retry count reached the
  maximum; with the failed rows that have retries left, the only rows requeueing picks,
  it makes up the failed count;
* under a limit from the number of those rows up to `2^63 - 1`, the retryable read
  returns one record for each of them when each reads back, and fails otherwise;
* a GET of `/outbox/stats` answers 200 with the stats under the options' maximum. -/
theorem stats_count_the_records (opts : OutboxOptions) (o : Outbox) (maxRetry : Int)
    (statuses : ∀ y ∈ o.rows, ∃ st : OutboxStatus, y.status = st.tag) :
    let stats := o.stats maxRetry
    (∀ st : OutboxStatus, stats.ofStatus st = o.rows.countP (·.status == st.tag)) ∧
    stats.pending + stats.processing + stats.completed + stats.failed = o.rows.length ∧
    stats.exhausted =
      o.rows.countP (fun y => y.status == OutboxStatus.failed.tag && maxRetry ≤ y.retryCount) ∧
    stats.exhausted + (o.retryRows maxRetry).length = stats.failed ∧
    (∀ cutoff, ∀ y ∈ o.rows, Outbox.dueForRetry maxRetry cutoff y = true → y ∈ o.retryRows maxRetry) ∧
    (∀ limit, (o.retryRows maxRetry).length ≤ limit → limit ≤ Outbox.maxLimit →
      ((∃ batch, o.retryable maxRetry limit = .ok batch) ↔ ∀ y ∈ o.retryRows maxRetry, y.Readable) ∧
      ∀ batch, o.retryable maxRetry limit = .ok batch → batch.length = (o.retryRows maxRetry).length) ∧
    ∀ target : RequestTarget, target.path = "/outbox/stats" →
      HttpResponse.get opts o target = ⟨200, .json (o.stats opts.maxRetryCount).toJson⟩ :=
  ⟨o.stats_ofStatus maxRetry, o.stats_sum maxRetry statuses, o.stats_exhausted maxRetry,
    o.exhausted_add_retryRows maxRetry, fun _ _ found due => o.mem_retryRows_of_dueForRetry maxRetry found due,
    fun _ wide fits => Outbox.retryable_whole wide fits, fun _ path => HttpResponse.get_stats opts o path⟩

/-- A table of a pending record, a failed one with retries left and an exhausted one:
the failed count is the exhausted one plus the one record the retryable read returns. -/
theorem stats_of_pending_retryable_and_exhausted :
    let pending : OutboxRow := ⟨1, "ScreenPilot", 1, "Insert", .obj [], "Pending", 0, none,
      ⟨1704067200, 0⟩, none, none, none, none⟩
    let retryable : OutboxRow := ⟨2, "ScreenPilot", 2, "Update", .obj [], "Failed", 1, some "boom",
      ⟨1704067200, 0⟩, none, none, none, some ⟨1704070800, 0⟩⟩
    let exhausted : OutboxRow := ⟨3, "ScreenPilot", 3, "Delete", .obj [], "Failed", 5, some "boom",
      ⟨1704067200, 0⟩, none, none, none, some ⟨1704070800, 0⟩⟩
    let o : Outbox := ⟨[pending, retryable, exhausted], 3⟩
    (∀ y ∈ o.rows, ∃ st : OutboxStatus, y.status = st.tag) ∧
      (o.stats 5).exhausted + (o.retryRows 5).length = (o.stats 5).failed ∧ (o.stats 5).failed = 2 := by
  intro pending retryable exhausted o
  have statuses : ∀ y ∈ o.rows, ∃ st : OutboxStatus, y.status = st.tag := by
    simp only [o, List.mem_cons, List.not_mem_nil, or_false, forall_eq_or_imp, forall_eq]
    exact ⟨⟨.pending, rfl⟩, ⟨.failed, rfl⟩, ⟨.failed, rfl⟩⟩
  exact ⟨statuses, (stats_count_the_records {} o 5 statuses).2.2.2.1, by decide⟩

/-- A failed record with retries left whose operation tag is `Upsert`: the stats count it
failed and not exhausted, yet the retryable read under the largest limit fails instead
of returning it, so the exhausted and the retryable records do not make up the failed
count. -/
theorem unknown_operation_fails_the_retryable_read :
    let row : OutboxRow := ⟨1, "ScreenPilot", 1, "Upsert", .obj [], "Failed", 0, some "boom",
      ⟨1704067200, 0⟩, none, none, none, some ⟨1704070800, 0⟩⟩
    let o : Outbox := ⟨[row], 1⟩
    (∀ y ∈ o.rows, ∃ st : OutboxStatus, y.status = st.tag) ∧
      (o.stats 5).failed = 1 ∧ (o.stats 5).exhausted = 0 ∧
      ¬ ∃ batch, o.retryable 5 Outbox.maxLimit = .ok batch := by
  intro row o
  have unknown : ¬ row.Readable := fun readable => by
    obtain ⟨op, tagged⟩ := readable.operation
    cases op <;> simp [row, Operation.tag] at tagged
  have selected : row ∈ o.retryRows 5 := List.mem_filter.mpr ⟨List.mem_singleton_self row, by decide⟩
  refine ⟨fun y found => ⟨.failed, by simp [o] at found; rw [found]; rfl⟩, by decide, by decide,
    fun read => unknown ?_⟩
  exact (Outbox.retryable_whole (by decide) (Nat.le_refl _)).1.mp read row selected

end OutboxReplicator
