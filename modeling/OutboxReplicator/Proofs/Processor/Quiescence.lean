import OutboxReplicator.Proofs.Processor.Dispatch
/-!
# Busy cycles are bounded by the retry budget, and idleness is final

A cycle is busy when it reports and is not idle (`Processor.busy`).  From a committed
outbox of `N` records, with retry limit `m`, a batch size of at least one and no retry
delay, `drain_stays_within_retry_budget` shows:

* a run has at most `N * max 1 m` busy cycles.  Every busy cycle attempts a record
  (`Processor.attempts_of_busy`): nothing is ever claimed between cycles, so it released
  nothing, and a record it requeued is pending for its read.  The retry account of
  `Accounted` allows each record at most `max 1 m` attempts (`Processor.runAttempts_le_budget`);
* once a cycle is idle, every row is completed, or failed with its retry count at
  `max 1 m` (`Processor.finished_of_idle`), and from then on every cycle reports an empty
  report and changes only the clock (`Processor.cycles_of_finished`).

The second part compares failure times with the requeue's cutoff as stored text.  It
holds for a clock that starts outside a leap second and is still in a year of four digits
when the idle cycle ends: every failure the outbox holds was stamped by an earlier
reading of that clock (`Stores.Stamped`).
-/

namespace OutboxReplicator

/-! ## Counting a log by id -/

/-- A log whose entries carry ids of a list, with at most `c` entries of each id, has at
most `c` entries per id of the list. -/
theorem length_le_of_count_by_id {log : List (Int × Bool)} {ids : List Int} {c : Nat}
    (covered : ∀ a ∈ log, a.1 ∈ ids) (each : ∀ id ∈ ids, (log.filter (·.1 == id)).length ≤ c) :
    log.length ≤ ids.length * c := by
  induction ids generalizing log with
  | nil =>
    have empty : log = [] := List.eq_nil_iff_forall_not_mem.mpr fun a mem => by
      simpa using covered a mem
    simp [empty]
  | cons id rest induction =>
    -- the entries of the first id, and the others, which carry ids of the rest
    have others : (log.filter fun a => !(a.1 == id)).length ≤ rest.length * c := by
      refine induction (fun a mem => ?_) (fun id' mem' => ?_)
      · obtain ⟨found, other⟩ := List.mem_filter.mp mem
        rcases List.mem_cons.mp (covered a found) with same | inRest
        · simp [same] at other
        · exact inRest
      · calc ((log.filter fun a => !(a.1 == id)).filter (·.1 == id')).length
            ≤ (log.filter (·.1 == id')).length := (List.filter_sublist.filter _).length_le
          _ ≤ c := each id' (List.mem_cons_of_mem id mem')
    have split : log.length =
        (log.filter (·.1 == id)).length + (log.filter fun a => !(a.1 == id)).length :=
      List.length_eq_length_filter_add _
    have first := each id List.mem_cons_self
    rw [List.length_cons, Nat.succ_mul]
    omega

/-! ## What a housekeeping count says -/

namespace Stores

variable {s : Stores} {span : Span} {maxRetry : Int} {n : Nat}

theorem requeueDue_clock (s : Stores) (maxRetry : Int) (span : Span) :
    (s.requeueDue maxRetry span).2.clock = s.clock.read.2 := by
  simp only [requeueDue, now, Clock.read]
  split <;> rfl

/-- With no row claimed, releasing counts nothing, whether or not its cutoff returns. -/
theorem releaseStale_count_unclaimed
    (unclaimed : ∀ y ∈ s.outbox.rows, y.status ≠ OutboxStatus.processing.tag)
    (counted : Processor.housekeepingCount (s.releaseStale span).1 = .ok n) : n = 0 := by
  cases moved : s.clock.next.minus span with
  | ok c =>
    rw [releaseStale_of_minus moved] at counted
    simp only [Processor.housekeepingCount, Except.ok.injEq] at counted
    rw [← counted, List.length_eq_zero_iff, List.filter_eq_nil_iff]
    intro y found
    simp [Outbox.staleClaim, unclaimed y found]
  | error e =>
    cases e <;>
      simp [releaseStale, now, Clock.read, Outbox.cutoff, moved, Processor.housekeepingCount] at counted
    exact counted.symm

/-- A requeue that counts a row leaves a pending row. -/
theorem requeueDue_pending_of_count
    (counted : Processor.housekeepingCount (s.requeueDue maxRetry span).1 = .ok n) (some : 0 < n) :
    ∃ y ∈ (s.requeueDue maxRetry span).2.outbox.rows, y.status = OutboxStatus.pending.tag := by
  cases moved : s.clock.next.minus span with
  | ok c =>
    rw [requeueDue_of_minus moved] at counted ⊢
    simp only [Processor.housekeepingCount, Except.ok.injEq] at counted
    obtain ⟨y, due⟩ := List.exists_mem_of_length_pos (counted ▸ some)
    obtain ⟨found, isDue⟩ := List.mem_filter.mp due
    refine ⟨RowUpdate.applyAll [.requeue maxRetry c] y, ?_, ?_⟩
    · rw [Outbox.update_rows]
      exact List.mem_map_of_mem found
    · simp [RowUpdate.applyAll, RowUpdate.apply, isDue]
  | error e =>
    cases e <;>
      simp [requeueDue, now, Clock.read, Outbox.cutoff, moved, Processor.housekeepingCount] at counted
    omega

end Stores

/-! ## Reads of pending rows -/

namespace Outbox

variable {o : Outbox} {b : Nat} {batch : List OutboxRecord}

/-- A pending read returns as many records as there are pending rows, up to its limit. -/
theorem pending_length (read : o.pending b = .ok batch) :
    batch.length = min b (o.rows.filter (·.status == OutboxStatus.pending.tag)).length := by
  have rows := congrArg List.length (readAll_eq_ok_iff.mp (readAll_of_readSelected (limited_ok read)))
  simpa [List.length_mergeSort] using rows

/-- A pending read that returns has a limit that fits a query parameter. -/
theorem pending_fits (read : o.pending b = .ok batch) : b ≤ maxLimit := by
  unfold pending limited at read
  split at read
  · cases read
  · omega

/-- With no pending row, a read whose limit fits returns nothing. -/
theorem pending_none (none : ∀ y ∈ o.rows, y.status ≠ OutboxStatus.pending.tag) (fits : b ≤ maxLimit) :
    o.pending b = .ok [] := by
  have empty : o.rows.filter (·.status == OutboxStatus.pending.tag) = [] :=
    List.filter_eq_nil_iff.mpr fun y found => by simpa using none y found
  rw [pending, empty, limited_of_le fits]
  simp [readSelected, readAll, Except.mapError]
  rfl

/-- The records of a pending read on a table keyed by id, sorted, are of distinct pending
rows. -/
theorem sorted_batch_pending (distinct : o.IdsDistinct) (read : o.pending b = .ok batch) :
    ((batch.mergeSort OutboxRecord.fifoBefore).map (·.id)).Nodup ∧
      ∀ x ∈ batch.mergeSort OutboxRecord.fifoBefore, ∃ y ∈ o.rows,
        y.id = x.id ∧ y.status = OutboxStatus.pending.tag := by
  obtain ⟨nodup, pending⟩ := pending_read_rows distinct read
  exact ⟨((List.mergeSort_perm _ _).map _).nodup_iff.mpr nodup,
    fun x mem => pending x (List.mem_mergeSort.mp mem)⟩

end Outbox

/-! ## A busy cycle attempts a record -/

namespace Processor

/-- Whether a cycle reported, and was not idle. -/
def busy : Except Fault CycleReport → Bool
  | .ok report => !report.isIdle
  | .error _ => false

variable {opts : OutboxOptions} {s : Stores} {report : CycleReport}

/-- On a table keyed by id, processing records of distinct pending rows attempts every one
of them. -/
theorem batchAttempts_length (records : List OutboxRecord) (distinct : s.outbox.IdsDistinct)
    (nodup : (records.map (·.id)).Nodup)
    (pending : ∀ x ∈ records, ∃ y ∈ s.outbox.rows, y.id = x.id ∧ y.status = OutboxStatus.pending.tag) :
    (batchAttempts s records).length = records.length := by
  induction records generalizing s with
  | nil => rfl
  | cons x rest induction =>
    obtain ⟨y, found, sameId, isPending⟩ := pending x List.mem_cons_self
    have claimed : (s.claim x.id).1 = true := by
      rw [Stores.claim_eq]
      exact (Outbox.claim_fst_iff distinct _ _).mpr ⟨y, found, sameId, isPending⟩
    obtain ⟨distinct', pending'⟩ := dispatch_keeps_pending distinct nodup pending
    have later := induction distinct' (List.nodup_cons.mp nodup).2 pending'
    simp only [batchAttempts, claimed, if_true, processRecord_eq_dispatch distinct found sameId isPending,
      List.length_append, List.length_cons, List.length_nil, later]
    omega

theorem cycleAttempts_of_read {released requeued : Nat} {batch : List OutboxRecord}
    (releasedCount : housekeepingCount (s.releaseStale opts.claimTimeout).1 = .ok released)
    (requeuedCount : housekeepingCount ((s.releaseStale opts.claimTimeout).2.requeueDue
      opts.maxRetryCount opts.retryDelay).1 = .ok requeued)
    (read : (housekept opts s).outbox.pending opts.batchSize = .ok batch) :
    cycleAttempts opts s = batchAttempts (housekept opts s) (batch.mergeSort OutboxRecord.fifoBefore) := by
  rw [housekept] at read
  simp only [cycleAttempts, releasedCount, requeuedCount, read, housekept]

/-- On a table keyed by id, a cycle that reports counted its housekeeping, read a batch,
and dispatched it sorted, attempting every record of it: the report carries the counts
and the batch's size. -/
theorem cycle_ok (distinct : s.outbox.IdsDistinct) (ran : (cycle opts s).1 = .ok report) :
    ∃ batch, housekeepingCount (s.releaseStale opts.claimTimeout).1 = .ok report.released ∧
      housekeepingCount ((s.releaseStale opts.claimTimeout).2.requeueDue opts.maxRetryCount
        opts.retryDelay).1 = .ok report.requeued ∧
      (housekept opts s).outbox.pending opts.batchSize = .ok batch ∧ report.fetched = batch.length ∧
      (cycle opts s).2 = (dispatchAll (housekept opts s) (batch.mergeSort OutboxRecord.fifoBefore)).2 ∧
      (cycleAttempts opts s).length = batch.length := by
  -- a cycle that aborts in its housekeeping does not report
  cases releasedCount : housekeepingCount (s.releaseStale opts.claimTimeout).1 with
  | error msg => simp [cycle, releasedCount] at ran
  | ok released =>
    cases requeuedCount : housekeepingCount ((s.releaseStale opts.claimTimeout).2.requeueDue
        opts.maxRetryCount opts.retryDelay).1 with
    | error msg => simp [cycle, releasedCount, requeuedCount] at ran
    | ok requeued =>
      have cycled := cycle_of_counts releasedCount requeuedCount
      cases read : (housekept opts s).outbox.pending opts.batchSize with
      | error f => simp [cycled, read] at ran
      | ok batch =>
        have housekeptDistinct : (housekept opts s).outbox.IdsDistinct := housekept_idsDistinct distinct
        obtain ⟨nodup, pending⟩ := Outbox.sorted_batch_pending housekeptDistinct read
        have attempted := cycleAttempts_of_read releasedCount requeuedCount read
        rw [read] at cycled
        dsimp only at cycled
        rw [cycled, processAll_eq_dispatchAll _ _ housekeptDistinct nodup pending] at ran ⊢
        simp only [Except.ok.injEq] at ran
        subst ran
        refine ⟨batch, rfl, rfl, rfl, List.length_mergeSort _, rfl, ?_⟩
        rw [attempted, batchAttempts_length _ housekeptDistinct nodup pending, List.length_mergeSort]

/-- Under an account, a busy cycle with a batch size of at least one attempts a record:
it released nothing, so it requeued a record, which its read fetched, or it fetched one. -/
theorem attempts_of_busy {m : Int} {log : List (Int × Bool)} (account : Accounted m log s)
    (batch : 1 ≤ opts.batchSize) (isBusy : busy (cycle opts s).1 = true) :
    0 < (cycleAttempts opts s).length := by
  cases ran : (cycle opts s).1 with
  | error f => simp [ran, busy] at isBusy
  | ok report =>
    obtain ⟨records, releasedCount, requeuedCount, read, fetched, -, attempted⟩ :=
      cycle_ok account.distinct ran
    have released := Stores.releaseStale_count_unclaimed account.unclaimed releasedCount
    have size := Outbox.pending_length read
    rw [ran] at isBusy
    simp only [busy, CycleReport.isIdle, Bool.not_eq_true', Bool.and_eq_false_iff, beq_eq_false_iff_ne,
      ne_eq] at isBusy
    rw [attempted]
    by_cases requeuedNone : report.requeued = 0
    · omega
    · -- the requeued row is pending for the read
      obtain ⟨y, found, isPending⟩ :=
        Stores.requeueDue_pending_of_count requeuedCount (Nat.pos_of_ne_zero requeuedNone)
      have somePending : 0 < ((housekept opts s).outbox.rows.filter
          (·.status == OutboxStatus.pending.tag)).length :=
        List.length_pos_of_mem (List.mem_filter.mpr ⟨found, by simp [isPending]⟩)
      omega

/-- Under an account, with a batch size of at least one, a run has no more busy cycles
than attempts. -/
theorem busy_le_attempts {m : Int} {log : List (Int × Bool)} (account : Accounted m log s)
    (limit : opts.maxRetryCount = m) (batch : 1 ≤ opts.batchSize) (k : Nat) :
    (cycles opts k s).1.countP busy ≤ (runAttempts opts k s).length := by
  induction k generalizing s log with
  | zero => simp [cycles, runAttempts]
  | succ k induction =>
    have later := induction (account.cycle limit).1
    rw [cycles_succ, runAttempts, List.countP_cons, List.length_append]
    by_cases isBusy : busy (cycle opts s).1 = true
    · have attempted := attempts_of_busy account batch isBusy
      simp only [isBusy, if_true]
      omega
    · simp only [isBusy, Bool.false_eq_true, if_false]
      omega

/-! ## The attempts of a run stay within the retry budget -/

theorem housekept_ids (opts : OutboxOptions) (s : Stores) :
    (housekept opts s).outbox.rows.map OutboxRow.id = s.outbox.rows.map OutboxRow.id := by
  obtain ⟨us₁, released⟩ := Stores.releaseStale_outbox s opts.claimTimeout
  obtain ⟨us₂, requeued⟩ :=
    Stores.requeueDue_outbox (s.releaseStale opts.claimTimeout).2 opts.maxRetryCount opts.retryDelay
  rw [housekept, requeued, released, Outbox.update_ids, Outbox.update_ids]

theorem cycles_ids (opts : OutboxOptions) (k : Nat) (distinct : s.outbox.IdsDistinct) :
    (cycles opts k s).2.outbox.rows.map OutboxRow.id = s.outbox.rows.map OutboxRow.id := by
  obtain ⟨us, ran⟩ := cycles_updates opts k distinct
  rw [ran, Outbox.update_ids]

/-- Every attempt of a run is of a row the run started with. -/
theorem runAttempts_ids (distinct : s.outbox.IdsDistinct) (k : Nat) :
    ∀ a ∈ runAttempts opts k s, a.1 ∈ s.outbox.rows.map OutboxRow.id := by
  induction k generalizing s with
  | zero => simp [runAttempts]
  | succ k induction =>
    intro a mem
    rcases List.mem_append.mp mem with first | later
    · -- an attempt of the first cycle is of a row its read returned
      obtain ⟨batch, read, x, fetched, sameId, -⟩ := cycleAttempts_fetched opts s a first
      obtain ⟨y, found, -, readY⟩ := Outbox.pending_rows read x fetched
      rw [← housekept_ids opts s, ← sameId, (OutboxRow.toRecord_ok readY).1]
      exact List.mem_map_of_mem found
    · have sameIds := cycles_ids opts 1 distinct
      have distinct' : (cycle opts s).2.outbox.IdsDistinct := by
        rw [Outbox.IdsDistinct]
        exact sameIds ▸ distinct
      rw [← sameIds]
      exact induction distinct' a later

/-- From a committed outbox, a run attempts each record at most `max 1 m` times, so at
most `N * max 1 m` times in all. -/
theorem runAttempts_le_budget (opts : OutboxOptions) (committed : ∀ y ∈ s.outbox.rows, y.Fresh)
    (distinct : s.outbox.IdsDistinct) (k : Nat) :
    ((runAttempts opts k s).length : Int) ≤ s.outbox.rows.length * max 1 opts.maxRetryCount := by
  have account : Accounted opts.maxRetryCount (runAttempts opts k s) (cycles opts k s).2 := by
    simpa using ((Accounted.of_committed committed distinct).run rfl k).1
  -- each record's attempts are within its budget
  have each : ∀ id ∈ s.outbox.rows.map OutboxRow.id,
      ((runAttempts opts k s).filter (·.1 == id)).length ≤ (max 1 opts.maxRetryCount).toNat := by
    intro id mem
    rw [← cycles_ids opts k distinct] at mem
    obtain ⟨y, found, rfl⟩ := List.mem_map.mp mem
    have within := (account.rows y found).attempts_le
    have attempts : ((((runAttempts opts k s).count (y.id, false) +
        (runAttempts opts k s).count (y.id, true) : Nat)) : Int) ≤ max 1 opts.maxRetryCount :=
      Int.le_trans (by exact_mod_cast Nat.le_add_right _ _) within
    rw [attempts_of_id]
    omega
  have bound := length_le_of_count_by_id (runAttempts_ids distinct k) each
  rw [List.length_map] at bound
  have positive : (0 : Int) ≤ max 1 opts.maxRetryCount := by omega
  calc ((runAttempts opts k s).length : Int)
      ≤ ((s.outbox.rows.length * (max 1 opts.maxRetryCount).toNat : Nat) : Int) := by exact_mod_cast bound
    _ = s.outbox.rows.length * max 1 opts.maxRetryCount := by
      rw [Int.natCast_mul, Int.toNat_of_nonneg positive]

/-- A cycle reads the clock forward. -/
theorem cycle_clock (opts : OutboxOptions) (s : Stores) :
    s.clock.next.seconds ≤ (cycle opts s).2.clock.next.seconds := by
  have released := Stores.releaseStale_clock s opts.claimTimeout
  have first := Clock.seconds_le_read s.clock
  have second := Clock.seconds_le_read s.clock.read.2
  rcases cycle_cases opts s with ended | ended | ⟨report, batch, ended⟩ <;> rw [ended]
  · rw [released]
    exact first
  · rw [Stores.requeueDue_clock, released]
    omega
  · have processed := processAll_clock ((s.releaseStale opts.claimTimeout).2.requeueDue
      opts.maxRetryCount opts.retryDelay).2 report batch
    rw [Stores.requeueDue_clock, released] at processed
    omega

theorem cycles_clock (opts : OutboxOptions) (k : Nat) (s : Stores) :
    s.clock.next.seconds ≤ (cycles opts k s).2.clock.next.seconds := by
  induction k generalizing s with
  | zero => exact Int.le_refl _
  | succ k induction =>
    rw [cycles_succ]
    exact Int.le_trans (cycle_clock opts s) (induction _)

theorem cycles_succ_right (opts : OutboxOptions) (k : Nat) (s : Stores) :
    (cycles opts (k + 1) s).2 = (cycle opts (cycles opts k s).2).2 :=
  cycles_add opts k 1 s

/-- One more cycle adds its result after the others. -/
theorem cycles_succ_results (opts : OutboxOptions) (k : Nat) (s : Stores) :
    (cycles opts (k + 1) s).1 = (cycles opts k s).1 ++ [(cycle opts (cycles opts k s).2).1] := by
  induction k generalizing s with
  | zero => rfl
  | succ k induction =>
    rw [cycles_succ opts (k + 1) s, induction, cycles_succ opts k s]
    rfl

theorem housekept_clock (opts : OutboxOptions) (s : Stores) :
    (housekept opts s).clock = s.clock.read.2.read.2 := by
  rw [housekept, Stores.requeueDue_clock, Stores.releaseStale_clock]

end Processor

/-! ## Failures stamped by earlier readings of the clock -/

theorem Instant.notAfter_trans {a b c : Instant} (ab : a.notAfter b = true) (bc : b.notAfter c = true) :
    a.notAfter c = true := by
  simp only [Instant.notAfter, Instant.before, Bool.not_eq_true', decide_eq_false_iff_not] at *
  omega

/-- Moving a time outside a leap second back by nothing, within the calendar, gives the
time itself. -/
theorem Instant.minus_zero {t c : Instant} (notLeap : t.nanos < Instant.nanosPerSecond)
    (moved : t.minus (Span.ofSeconds 0) = .ok c) : c = t := by
  unfold Instant.minus at moved
  split at moved
  · cases moved
  · dsimp only at moved
    split at moved
    · cases moved
    · cases moved
      obtain ⟨seconds, nanos⟩ := t
      simp only [Span.ofSeconds, Instant.nanosPerSecond, Instant.mk.injEq] at notLeap ⊢
      omega

namespace OutboxRow

/-- A row's failures as the clock stamped them by `now`: its retry count is never
negative, a failed row has failed at least once and carries its failure time, and every
failure time is a reading outside a leap second, from year 0 on, no later than `now`. -/
structure FailedBefore (now : Instant) (y : OutboxRow) : Prop where
  retryCount_nonneg : 0 ≤ y.retryCount
  of_failed : y.status = OutboxStatus.failed.tag → 1 ≤ y.retryCount ∧ y.failedAt.isSome
  stamp : ∀ t, y.failedAt = some t →
    t.nanos < Instant.nanosPerSecond ∧ 0 ≤ t.date.year ∧ t.notAfter now = true

variable {now now' : Instant} {y : OutboxRow}

theorem Fresh.failedBefore (fresh : y.Fresh) : y.FailedBefore now where
  retryCount_nonneg := Int.le_of_eq fresh.retryCount_zero.symm
  of_failed := fun failed => by rw [fresh.pending] at failed; simp at failed
  stamp := fun t stamped => by rw [fresh.failedAt_none] at stamped; cases stamped

theorem FailedBefore.later (stamped : y.FailedBefore now) (later : now.notAfter now' = true) :
    y.FailedBefore now' where
  retryCount_nonneg := stamped.retryCount_nonneg
  of_failed := stamped.of_failed
  stamp := fun t stampedAt => by
    obtain ⟨nanos, year, notAfter⟩ := stamped.stamp t stampedAt
    exact ⟨nanos, year, Instant.notAfter_trans notAfter later⟩

/-- Requeueing a row keeps its failures. -/
theorem FailedBefore.requeue (stamped : y.FailedBefore now) :
    FailedBefore now { y with status := OutboxStatus.pending.tag } where
  retryCount_nonneg := stamped.retryCount_nonneg
  of_failed := fun pending => by simp at pending
  stamp := stamped.stamp

/-- Dispatching a row whose failures were stamped by the mark's reading, itself outside a
leap second from year 0 on, leaves its failures stamped by any later reading. -/
theorem FailedBefore.dispatched {t₁ : Instant} (stamped : y.FailedBefore t₁)
    (nanos : t₁.nanos < Instant.nanosPerSecond) (year : 0 ≤ t₁.date.year)
    (later : t₁.notAfter now' = true) (t₀ : Instant) (result : Except Failure Outcome) :
    (y.dispatched t₀ t₁ result).FailedBefore now' := by
  have kept := stamped.later later
  cases result with
  | ok delivered =>
    exact ⟨kept.retryCount_nonneg, fun failed => by simp [OutboxRow.dispatched] at failed, kept.stamp⟩
  | error f =>
    have nonneg := stamped.retryCount_nonneg
    refine ⟨by simp only [OutboxRow.dispatched]; omega, fun _ => ⟨by simp only [OutboxRow.dispatched]; omega, rfl⟩,
      fun t stampedAt => ?_⟩
    simp only [OutboxRow.dispatched, Option.some.injEq] at stampedAt
    subst stampedAt
    exact ⟨nanos, year, later⟩

/-- A failed row whose failure was stamped before a reading outside a leap second, in a
year up to 9999, and that the requeue's guard passes over at that reading, has no retries
left. -/
theorem FailedBefore.exhausted {m : Int} {c : Instant} (stamped : y.FailedBefore c)
    (failed : y.status = OutboxStatus.failed.tag) (cutNanos : c.nanos < Instant.nanosPerSecond)
    (cutYear : c.date.year ≤ 9999) (passed : Outbox.dueForRetry m c y = false) : m ≤ y.retryCount := by
  obtain ⟨-, failedAt⟩ := stamped.of_failed failed
  obtain ⟨t, stampedAt⟩ := Option.isSome_iff_exists.mp failedAt
  obtain ⟨tNanos, tYear, notAfter⟩ := stamped.stamp t stampedAt
  have earlier : t.seconds ≤ c.seconds := by
    simp only [Instant.notAfter, Instant.before, Bool.not_eq_true', decide_eq_false_iff_not] at notAfter
    omega
  have fourDigits : t.FourDigitYear :=
    ⟨tYear, Int.le_trans (Instant.year_le_of_seconds_le earlier) cutYear, .inl tNanos⟩
  -- with a retry left the guard would pass the row
  refine Int.not_lt.mp fun retriesLeft => ?_
  have due : Outbox.dueForRetry m c y = true :=
    (Outbox.dueForRetry_iff (fun t' stampedAt' => by
      rw [stampedAt] at stampedAt'
      cases stampedAt'
      exact fourDigits) cutNanos cutYear).mpr ⟨failed, retriesLeft, t, stampedAt, notAfter⟩
  rw [passed] at due
  cases due

/-- A failed row's retry count is within its budget of attempts. -/
theorem RetryAccount.retryCount_le {m : Int} {log : List (Int × Bool)} (account : y.RetryAccount m log)
    (failed : y.status = OutboxStatus.failed.tag) : y.retryCount ≤ max 1 m := by
  have within := account.attempts_le
  have notPending : y.status ≠ OutboxStatus.pending.tag := by
    rw [failed]
    simp
  simp only [notPending, if_false, Nat.add_zero] at within
  rw [account.retryCount_eq]
  omega

end OutboxRow

namespace Stores

/-- The clock reads outside a leap second, from year 0 on, and every failure the outbox
holds was stamped by the clock's next reading. -/
structure Stamped (s : Stores) : Prop where
  nanos : s.clock.next.nanos < Instant.nanosPerSecond
  year : 0 ≤ s.clock.next.date.year
  rows : ∀ y ∈ s.outbox.rows, y.FailedBefore s.clock.next

variable {s : Stores} {m : Int} {log : List (Int × Bool)}

theorem Stamped.of_committed (committed : ∀ y ∈ s.outbox.rows, y.Fresh) (start : s.clock.next.Plain) :
    s.Stamped :=
  ⟨start.1, start.2.1, fun y found => (committed y found).failedBefore⟩

/-- Reading the clock keeps the stamps. -/
theorem Stamped.tick (stamped : s.Stamped) : Stamped { s with clock := s.clock.read.2 } :=
  ⟨Clock.next_nanos _,
    Int.le_trans stamped.year (Instant.year_le_of_seconds_le (Clock.seconds_le_read s.clock)),
    fun y found => (stamped.rows y found).later (Clock.notAfter_read s.clock)⟩

theorem Stamped.releaseStale (stamped : s.Stamped)
    (unclaimed : ∀ y ∈ s.outbox.rows, y.status ≠ OutboxStatus.processing.tag) (span : Span) :
    (s.releaseStale span).2.Stamped := by
  rw [releaseStale_unclaimed unclaimed]
  exact stamped.tick

theorem Stamped.requeueDue (stamped : s.Stamped) (maxRetry : Int) (span : Span) :
    (s.requeueDue maxRetry span).2.Stamped := by
  obtain ⟨due, rows, -, -⟩ := s.requeueDue_rows maxRetry span
  have ticked := stamped.tick
  have clock := s.requeueDue_clock maxRetry span
  refine ⟨clock ▸ ticked.nanos, clock ▸ ticked.year, fun y' found => ?_⟩
  rw [rows] at found
  obtain ⟨y, mem, rfl⟩ := List.mem_map.mp found
  rw [clock]
  split
  · exact (ticked.rows y mem).requeue
  · exact ticked.rows y mem

theorem Stamped.dispatch (stamped : s.Stamped) (x : OutboxRecord) :
    (Processor.dispatch s x).2.Stamped := by
  have once := stamped.tick
  have twice := once.tick
  refine ⟨twice.nanos, twice.year, fun y' found => ?_⟩
  rw [Processor.dispatch_rows] at found
  obtain ⟨y, mem, rfl⟩ := List.mem_map.mp found
  split
  · exact (once.rows y mem).dispatched once.nanos once.year (Clock.notAfter_read _) _ _
  · exact twice.rows y mem

theorem Stamped.dispatchAll (stamped : s.Stamped) (records : List OutboxRecord) :
    (Processor.dispatchAll s records).2.Stamped := by
  induction records generalizing s with
  | nil => exact stamped
  | cons x rest induction => exact induction (stamped.dispatch x)

/-- Under an account, a cycle keeps the stamps: its housekeeping only reads the clock or
requeues, and it dispatches the batch it reads. -/
theorem Stamped.cycle (stamped : s.Stamped) (account : Accounted m log s) (opts : OutboxOptions) :
    (Processor.cycle opts s).2.Stamped := by
  have released := stamped.releaseStale account.unclaimed opts.claimTimeout
  have housekept : (Processor.housekept opts s).Stamped := released.requeueDue _ _
  rcases Processor.cycle_attempts opts s with ⟨-, ended | ended⟩ | ⟨report, batch, read, ended, -⟩
  · rw [ended]
    exact released
  · rw [ended]
    exact housekept
  · have distinct : (Processor.housekept opts s).outbox.IdsDistinct :=
      Processor.housekept_idsDistinct account.distinct
    obtain ⟨nodup, pending⟩ := Outbox.sorted_batch_pending distinct read
    rw [ended, Processor.processAll_eq_dispatchAll report _ distinct nodup pending]
    exact housekept.dispatchAll _

theorem Stamped.run (stamped : s.Stamped) (account : Accounted m log s) (opts : OutboxOptions)
    (limit : opts.maxRetryCount = m) (k : Nat) : (Processor.cycles opts k s).2.Stamped := by
  induction k generalizing s log with
  | zero => exact stamped
  | succ k induction =>
    rw [Processor.cycles_succ]
    exact induction (stamped.cycle account opts) (account.cycle limit).1

/-- With no delay, a requeue that counts cuts off at the clock's reading itself: it counts
and moves the rows the guard passes at that reading. -/
theorem requeueDue_no_delay {maxRetry : Int} {n : Nat}
    (counted : Processor.housekeepingCount (s.requeueDue maxRetry (Span.ofSeconds 0)).1 = .ok n) :
    n = (s.outbox.rows.filter (Outbox.dueForRetry maxRetry s.clock.next)).length ∧
      (s.requeueDue maxRetry (Span.ofSeconds 0)).2 =
        { s with clock := s.clock.read.2, outbox := s.outbox.update [.requeue maxRetry s.clock.next] } := by
  cases moved : s.clock.next.minus (Span.ofSeconds 0) with
  | ok c =>
    obtain rfl := Instant.minus_zero (Clock.next_nanos s.clock) moved
    rw [requeueDue_of_minus moved] at counted ⊢
    simp only [Processor.housekeepingCount, Except.ok.injEq] at counted
    exact ⟨counted.symm, rfl⟩
  | error e =>
    -- a span of nothing fits, so only the calendar's start stops the cutoff, and that aborts
    cases e with
    | spanTooLong =>
      have fits : (Span.ofSeconds 0).fits = true := by decide
      simp [Instant.minus, fits] at moved
      split at moved <;> cases moved
    | beforeCalendar =>
      simp [requeueDue, now, Clock.read, Outbox.cutoff, moved, Processor.housekeepingCount] at counted

end Stores

/-! ## An idle cycle is final -/

namespace Processor

variable {opts : OutboxOptions} {s : Stores} {report : CycleReport} {m : Int} {log : List (Int × Bool)}

/-- Under an account and stamps, with a batch size of at least one and no retry delay, a
cycle that reports idle, with the clock still in a year of four digits when it ends, finds
every row completed, or failed with its retry count at `max 1 m`: the requeue passed over
every failed row at the cycle's own time, so none had a retry left. -/
theorem finished_of_idle (account : Accounted m log s) (limit : opts.maxRetryCount = m)
    (stamped : s.Stamped) (batch : 1 ≤ opts.batchSize) (noDelay : opts.retryDelay = Span.ofSeconds 0)
    (ran : (cycle opts s).1 = .ok report) (idle : report.isIdle = true)
    (year : (cycle opts s).2.clock.next.date.year ≤ 9999) :
    ∀ y ∈ s.outbox.rows, y.status = OutboxStatus.completed.tag ∨
      (y.status = OutboxStatus.failed.tag ∧ y.retryCount = max 1 m) := by
  subst limit
  obtain ⟨records, -, requeuedCount, read, fetched, ended, -⟩ := cycle_ok account.distinct ran
  simp only [CycleReport.isIdle, Bool.and_eq_true, beq_iff_eq] at idle
  obtain ⟨⟨noneFetched, -⟩, noneRequeued⟩ := idle
  -- releasing only read the clock, and the requeue cut off at its own reading
  have ticked := stamped.tick
  rw [Stores.releaseStale_unclaimed account.unclaimed, noDelay] at requeuedCount
  obtain ⟨counted, requeued⟩ := Stores.requeueDue_no_delay requeuedCount
  have passed : ∀ y ∈ s.outbox.rows,
      Outbox.dueForRetry opts.maxRetryCount s.clock.read.2.next y = false := by
    have none : (s.outbox.rows.filter (Outbox.dueForRetry opts.maxRetryCount s.clock.read.2.next)).length = 0 := by
      rw [← noneRequeued]
      exact counted.symm
    intro y found
    simpa using List.filter_eq_nil_iff.mp (List.length_eq_zero_iff.mp none) y found
  have housekeptRows : (housekept opts s).outbox.rows = s.outbox.rows := by
    rw [housekept, Stores.releaseStale_unclaimed account.unclaimed, noDelay, requeued]
    show (s.outbox.update [.requeue opts.maxRetryCount s.clock.read.2.next]).rows = s.outbox.rows
    rw [Outbox.update_rows]
    calc s.outbox.rows.map (RowUpdate.applyAll [.requeue opts.maxRetryCount s.clock.read.2.next])
        = s.outbox.rows.map id := List.map_congr_left fun y found => by
          simp [RowUpdate.applyAll, RowUpdate.apply, passed y found]
      _ = s.outbox.rows := List.map_id _
  -- the read found no pending row, so the cycle ended after its housekeeping
  have noPending : ∀ y ∈ s.outbox.rows, y.status ≠ OutboxStatus.pending.tag := by
    have size := Outbox.pending_length read
    rw [housekeptRows] at size
    intro y found isPending
    have somePending : 0 < (s.outbox.rows.filter (·.status == OutboxStatus.pending.tag)).length :=
      List.length_pos_of_mem (List.mem_filter.mpr ⟨found, by simp [isPending]⟩)
    omega
  have empty : records = [] := List.length_eq_zero_iff.mp (fetched ▸ noneFetched)
  rw [ended, empty, List.mergeSort_nil] at year
  have nowYear : s.clock.read.2.next.date.year ≤ 9999 :=
    Int.le_trans (Instant.year_le_of_seconds_le (Clock.seconds_le_read s.clock.read.2))
      (by rw [← housekept_clock opts s]; exact year)
  intro y found
  rcases (account.rows y found).settled with pending | failed | completed
  · exact absurd pending (noPending y found)
  · have exhausted := (ticked.rows y found).exhausted failed ticked.nanos nowYear (passed y found)
    have once := ((stamped.rows y found).of_failed failed).1
    have budget := (account.rows y found).retryCount_le failed
    exact .inr ⟨failed, by omega⟩
  · exact .inl completed

/-- On finished rows, a cycle whose housekeeping returns and whose batch size fits a read
reads the clock twice, changes nothing else, and reports nothing. -/
theorem cycle_of_finished (finished : ∀ y ∈ s.outbox.rows, y.Finished opts.maxRetryCount)
    (releaseReturns : ∀ msg, Outbox.cutoff s.clock.next opts.claimTimeout ≠ .error (.abort msg))
    (requeueReturns : ∀ msg, Outbox.cutoff s.clock.read.2.next opts.retryDelay ≠ .error (.abort msg))
    (fits : opts.batchSize ≤ Outbox.maxLimit) :
    cycle opts s = (.ok {}, { s with clock := s.clock.read.2.read.2 }) := by
  -- a finished row is neither claimed, nor due, nor pending
  have unclaimed : ∀ y ∈ s.outbox.rows, y.status ≠ OutboxStatus.processing.tag := by
    intro y found processing
    rcases finished y found with completed | ⟨failed, -⟩
    · rw [processing] at completed
      simp at completed
    · rw [processing] at failed
      simp at failed
  have passes : ∀ c, ∀ y ∈ s.outbox.rows, Outbox.dueForRetry opts.maxRetryCount c y = false := by
    intro c y found
    rcases finished y found with completed | ⟨-, exhausted⟩
    · simp [Outbox.dueForRetry, completed]
    · simp only [Outbox.dueForRetry, Bool.and_eq_false_iff, decide_eq_false_iff_not]
      exact .inl (.inr (Int.not_lt.mpr exhausted))
  have notPending : ∀ y ∈ s.outbox.rows, y.status ≠ OutboxStatus.pending.tag := by
    intro y found pending
    rcases finished y found with completed | ⟨failed, -⟩
    · rw [pending] at completed
      simp at completed
    · rw [pending] at failed
      simp at failed
  obtain ⟨released, releasedState, releasedCount⟩ := Stores.releaseStale_quiet unclaimed releaseReturns
  obtain ⟨requeued, requeuedState, requeuedCount⟩ :=
    @Stores.requeueDue_passes { s with clock := s.clock.read.2 } opts.retryDelay opts.maxRetryCount
      passes requeueReturns
  have releasedCount' : housekeepingCount (s.releaseStale opts.claimTimeout).1 = .ok 0 := by
    rw [releasedState]
    exact releasedCount
  have requeuedCount' : housekeepingCount ((s.releaseStale opts.claimTimeout).2.requeueDue
      opts.maxRetryCount opts.retryDelay).1 = .ok 0 := by
    simp only [releasedState, requeuedState]
    exact requeuedCount
  have housekeptState : housekept opts s = { s with clock := s.clock.read.2.read.2 } := by
    simp only [housekept, releasedState, requeuedState]
  rw [cycle_of_counts releasedCount' requeuedCount', housekeptState, Outbox.pending_none notPending fits]
  simp only [List.mergeSort_nil, List.length_nil, processAll]

/-- On finished rows, cycles whose housekeeping returns from the clock's reading on, and
whose batch size fits a read, report nothing and change only the clock. -/
theorem cycles_of_finished (finished : ∀ y ∈ s.outbox.rows, y.Finished opts.maxRetryCount)
    (returns : ∀ t : Instant, s.clock.next.seconds ≤ t.seconds → ∀ msg,
      Outbox.cutoff t opts.claimTimeout ≠ .error (.abort msg) ∧
        Outbox.cutoff t opts.retryDelay ≠ .error (.abort msg))
    (fits : opts.batchSize ≤ Outbox.maxLimit) (d : Nat) :
    (cycle opts (cycles opts d s).2).1 = .ok {} ∧ (cycles opts d s).2.outbox = s.outbox := by
  -- a cycle from the same rows and a clock no earlier changes only the clock
  have step : ∀ u : Stores, u.outbox = s.outbox → s.clock.next.seconds ≤ u.clock.next.seconds →
      cycle opts u = (.ok {}, { u with clock := u.clock.read.2.read.2 }) := by
    intro u sameRows later
    refine cycle_of_finished (by rw [sameRows]; exact finished) (fun msg => (returns _ later msg).1)
      (fun msg => (returns _ (Int.le_trans later (Clock.seconds_le_read u.clock)) msg).2) fits
  have kept : ∀ d, (cycles opts d s).2.outbox = s.outbox ∧
      s.clock.next.seconds ≤ (cycles opts d s).2.clock.next.seconds := by
    intro d
    induction d with
    | zero => exact ⟨rfl, Int.le_refl _⟩
    | succ d induction =>
      obtain ⟨sameRows, later⟩ := induction
      rw [cycles_succ_right, step _ sameRows later]
      exact ⟨sameRows, Int.le_trans later
        (Int.le_trans (Clock.seconds_le_read _) (Clock.seconds_le_read _))⟩
  obtain ⟨sameRows, later⟩ := kept d
  exact ⟨by rw [step _ sameRows later], sameRows⟩

end Processor

/-! ## Draining within the retry budget -/

/-- A run of cycles from a committed outbox of `N` records, with retry limit `m`, a batch
size of at least one, no retry delay, and housekeeping whose cutoffs do not abort from the
run's start on:

* whatever the deliveries do, at most `N * max 1 m` of its cycles are busy, reporting a
  release, a requeue or a fetch;
* once a cycle reports idle, on a clock that started outside a leap second and is still in
  a year of four digits when that cycle ends, every record is completed, or failed with its
  retry count at `max 1 m`, and from then on every cycle reports an empty report and the
  outbox stays as it is. -/
theorem drain_stays_within_retry_budget (opts : OutboxOptions) (s : Stores)
    (committed : ∀ y ∈ s.outbox.rows, y.Fresh) (distinct : s.outbox.IdsDistinct)
    (batch : 1 ≤ opts.batchSize) (noDelay : opts.retryDelay = Span.ofSeconds 0)
    (returns : ∀ t : Instant, s.clock.next.seconds ≤ t.seconds → ∀ msg,
      Outbox.cutoff t opts.claimTimeout ≠ .error (.abort msg) ∧
        Outbox.cutoff t opts.retryDelay ≠ .error (.abort msg)) :
    let m := opts.maxRetryCount
    (∀ k, ((Processor.cycles opts k s).1.countP Processor.busy : Int) ≤ s.outbox.rows.length * max 1 m) ∧
    ∀ j report, (Processor.cycle opts (Processor.cycles opts j s).2).1 = .ok report →
      report.isIdle = true → s.clock.next.Plain →
      (Processor.cycles opts (j + 1) s).2.clock.next.date.year ≤ 9999 →
      (∀ y ∈ (Processor.cycles opts j s).2.outbox.rows, y.status = OutboxStatus.completed.tag ∨
          (y.status = OutboxStatus.failed.tag ∧ y.retryCount = max 1 m)) ∧
      ∀ d, (Processor.cycle opts (Processor.cycles opts (j + d) s).2).1 = .ok {} ∧
        (Processor.cycles opts (j + d) s).2.outbox = (Processor.cycles opts j s).2.outbox := by
  intro m
  have account₀ : Accounted m [] s := Accounted.of_committed committed distinct
  refine ⟨fun k => ?_, fun j report ran idle start year => ?_⟩
  · -- every busy cycle logs an attempt, and the log stays within the budget
    have busy := Processor.busy_le_attempts account₀ rfl batch k
    have budget := Processor.runAttempts_le_budget opts committed distinct k
    exact Int.le_trans (Int.ofNat_le.mpr busy) budget
  · have account : Accounted m (Processor.runAttempts opts j s) (Processor.cycles opts j s).2 := by
      simpa using (account₀.run rfl j).1
    have stamped := (Stores.Stamped.of_committed committed start).run account₀ opts rfl j
    rw [Processor.cycles_succ_right] at year
    have finished := Processor.finished_of_idle account rfl stamped batch noDelay ran idle year
    -- the idle cycle read its batch, so the batch size fits a read
    obtain ⟨records, -, -, read, -⟩ := Processor.cycle_ok account.distinct ran
    have fits := Outbox.pending_fits read
    have exhausted : ∀ y ∈ (Processor.cycles opts j s).2.outbox.rows, y.Finished m := by
      intro y found
      rcases finished y found with completed | ⟨failed, retries⟩
      · exact .inl completed
      · exact .inr ⟨failed, by omega⟩
    have later : ∀ t : Instant, (Processor.cycles opts j s).2.clock.next.seconds ≤ t.seconds → ∀ msg,
        Outbox.cutoff t opts.claimTimeout ≠ .error (.abort msg) ∧
          Outbox.cutoff t opts.retryDelay ≠ .error (.abort msg) :=
      fun t after msg => returns t (Int.le_trans (Processor.cycles_clock opts j s) after) msg
    refine ⟨finished, fun d => ?_⟩
    rw [Processor.cycles_add opts j d s]
    exact Processor.cycles_of_finished exhausted later fits d

/-- A pilot enrolment and a record whose payload does not decode, written one after the
other at 2024-05-01T10:00:00Z, with two tries allowed and no retry delay: the first cycle
completes the enrolment and fails the other record, the second requeues it and fails it
again, and the third is idle.  No more than four cycles of any run are busy; after the
second every record is completed or failed twice, and every later cycle is idle and
changes no row. -/
theorem two_records_drain_within_budget :
    let s := ((Stores.start ⟨1714557600, 0⟩).publish
      [⟨"ScreenPilot", 1, .insert,
        .array [.number (.unsigned 1), .number (.unsigned 3),
          .string "550e8400-e29b-41d4-a716-446655440000", .number (.unsigned 1),
          .string "admin", .string "2024-05-01T10:00:00Z"], none⟩,
       ⟨"ScreenPilot", 2, .insert, .obj [], none⟩] false true).2
    let opts : OutboxOptions := { maxRetryCount := 2, retryDelay := Span.ofSeconds 0 }
    (∀ y ∈ s.outbox.rows, y.Fresh) ∧ s.outbox.IdsDistinct ∧
      (∀ t : Instant, s.clock.next.seconds ≤ t.seconds → ∀ msg,
        Outbox.cutoff t opts.claimTimeout ≠ .error (.abort msg) ∧
          Outbox.cutoff t opts.retryDelay ≠ .error (.abort msg)) ∧
      (Processor.cycles opts 3 s).1.map Except.toOption =
        [some { fetched := 2, completed := 1, failed := 1 },
         some { requeued := 1, fetched := 1, failed := 1 }, some {}] ∧
      (∀ k, ((Processor.cycles opts k s).1.countP Processor.busy : Int) ≤ 4) ∧
      (∀ y ∈ (Processor.cycles opts 2 s).2.outbox.rows, y.status = OutboxStatus.completed.tag ∨
          (y.status = OutboxStatus.failed.tag ∧ y.retryCount = 2)) ∧
      ∀ d, (Processor.cycle opts (Processor.cycles opts (2 + d) s).2).1 = .ok {} ∧
        (Processor.cycles opts (2 + d) s).2.outbox = (Processor.cycles opts 2 s).2.outbox := by
  intro s opts
  have backlog : Outbox.Backlog s.outbox.rows := by
    apply Outbox.Backlog.of_publish
    constructor
    · decide +kernel
    · unfold Instant.Plain
      decide +kernel
  have distinct : s.outbox.IdsDistinct := backlog.inOrder.idsDistinct
  have returns : ∀ t : Instant, s.clock.next.seconds ≤ t.seconds → ∀ msg,
      Outbox.cutoff t opts.claimTimeout ≠ .error (.abort msg) ∧
        Outbox.cutoff t opts.retryDelay ≠ .error (.abort msg) := by
    intro t later msg
    have recent : 0 ≤ t.seconds := Int.le_trans (by decide) later
    exact ⟨Outbox.cutoff_returns_of_recent recent (by decide) msg,
      Outbox.cutoff_returns_of_recent recent (by decide) msg⟩
  -- the run, evaluated on the table in order
  have run : (Processor.cycles opts 3 s).1.map Except.toOption =
      [some { fetched := 2, completed := 1, failed := 1 },
       some { requeued := 1, fetched := 1, failed := 1 }, some {}] := by
    rw [Processor.cycles_eq_orderedCycles 3 backlog.inOrder]
    decide +kernel
  have year : (Processor.cycles opts (2 + 1) s).2.clock.next.date.year ≤ 9999 := by
    rw [Processor.cycles_eq_orderedCycles 3 backlog.inOrder]
    decide +kernel
  have start : s.clock.next.Plain := by
    unfold Instant.Plain
    decide +kernel
  -- the third cycle of the run is the one after the first two
  have third : (Processor.cycle opts (Processor.cycles opts 2 s).2).1.toOption = some {} := by
    have last := congrArg List.getLast? run
    rw [Processor.cycles_succ_results, List.map_append] at last
    simpa using last
  have idle : (Processor.cycle opts (Processor.cycles opts 2 s).2).1 = .ok {} := by
    revert third
    cases (Processor.cycle opts (Processor.cycles opts 2 s).2).1 with
    | ok report => simp [Except.toOption]
    | error e => simp [Except.toOption]
  obtain ⟨busy, final⟩ :=
    drain_stays_within_retry_budget opts s backlog.fresh distinct (by decide) rfl returns
  obtain ⟨finished, later⟩ := final 2 {} idle rfl start year
  have budget : (s.outbox.rows.length : Int) * max 1 opts.maxRetryCount = 4 := by decide +kernel
  refine ⟨backlog.fresh, distinct, returns, run, fun k => budget ▸ busy k, fun y found => ?_, later⟩
  have twice : max 1 opts.maxRetryCount = 2 := by decide
  simpa only [twice] using finished y found

end OutboxReplicator
