import OutboxReplicator.Proofs.Processor.KeyFifo
import OutboxReplicator.Proofs.Outbox.Reads
/-!
# Retry accounting

A cycle attempts the records it manages to claim: it replicates each and marks it
completed or failed.  `Processor.cycleAttempts` lists the attempts of a cycle in order,
each with the record's id and whether the replica took it, and `Processor.runAttempts`
those of a run of cycles.

`retries_are_accounted` follows a run of cycles from a committed outbox, under any
options, with retry limit `m`:

* every attempt of a cycle is of a record that the cycle's pending read returned as
  pending;
* a record's retry count is the number of its failed attempts so far, it succeeds at
  most once, and it is attempted at most `max 1 m` times;
* a completed record, and a failed one whose retry count reached `m`, stays as it is
  and is never attempted again; the failed one is never retryable and is counted as
  exhausted.

The run keeps an account of every row against the attempts so far
(`OutboxRow.RetryAccount`): releasing, requeueing and processing a record each keep it,
and a row that is finished for good (`OutboxRow.Finished`) is left alone by all three.
-/

namespace OutboxReplicator

/-! ## The attempts of a run -/

namespace Processor

/-- The attempts of processing records in turn: a record whose claim succeeds is
attempted, and logged with its id and whether its processing completed. -/
def batchAttempts (s : Stores) : List OutboxRecord → List (Int × Bool)
  | [] => []
  | r :: rest =>
    (if (s.claim r.id).1 then [(r.id, (processRecord s r).1 == .completed)] else []) ++
      batchAttempts (processRecord s r).2 rest

/-- The attempts of a cycle: those of the batch it processes, and none when it ends
before. -/
def cycleAttempts (opts : OutboxOptions) (s : Stores) : List (Int × Bool) :=
  let (rel, s) := s.releaseStale opts.claimTimeout
  match housekeepingCount rel with
  | .error _ => []
  | .ok _ =>
    let (req, s) := s.requeueDue opts.maxRetryCount opts.retryDelay
    match housekeepingCount req with
    | .error _ => []
    | .ok _ =>
      match s.outbox.pending opts.batchSize with
      | .error _ => []
      | .ok batch => batchAttempts s (batch.mergeSort OutboxRecord.fifoBefore)

/-- The attempts of `k` cycles one after another. -/
def runAttempts (opts : OutboxOptions) : Nat → Stores → List (Int × Bool)
  | 0, _ => []
  | k + 1, s => cycleAttempts opts s ++ runAttempts opts k (cycle opts s).2

/-- The stores after a cycle's housekeeping: stale claims released, due failures
requeued. -/
def housekept (opts : OutboxOptions) (s : Stores) : Stores :=
  ((s.releaseStale opts.claimTimeout).2.requeueDue opts.maxRetryCount opts.retryDelay).2

variable {opts : OutboxOptions}

/-- A cycle ends in its housekeeping and attempts nothing, or processes the records of
its pending read, sorted, and attempts what their processing attempts. -/
theorem cycle_attempts (opts : OutboxOptions) (s : Stores) :
    (cycleAttempts opts s = [] ∧
      ((cycle opts s).2 = (s.releaseStale opts.claimTimeout).2 ∨ (cycle opts s).2 = housekept opts s)) ∨
    ∃ report batch, (housekept opts s).outbox.pending opts.batchSize = .ok batch ∧
      (cycle opts s).2 = (processAll (housekept opts s) report
        (batch.mergeSort OutboxRecord.fifoBefore)).2 ∧
      cycleAttempts opts s = batchAttempts (housekept opts s) (batch.mergeSort OutboxRecord.fifoBefore) := by
  simp only [cycle, cycleAttempts, housekept]
  -- the cycle and its attempts follow the same branches
  generalize housekeepingCount (s.releaseStale opts.claimTimeout).1 = releasedCount
  cases releasedCount with
  | error m => exact .inl ⟨rfl, .inl rfl⟩
  | ok released =>
    generalize housekeepingCount ((s.releaseStale opts.claimTimeout).2.requeueDue
      opts.maxRetryCount opts.retryDelay).1 = requeuedCount
    cases requeuedCount with
    | error m => exact .inl ⟨rfl, .inr rfl⟩
    | ok requeued =>
      generalize Outbox.pending _ opts.batchSize = pendingRead
      cases pendingRead with
      | error f => exact .inl ⟨rfl, .inr rfl⟩
      | ok batch => exact .inr ⟨_, batch, rfl, rfl, rfl⟩

theorem cycles_add (opts : OutboxOptions) (j d : Nat) (s : Stores) :
    (cycles opts (j + d) s).2 = (cycles opts d (cycles opts j s).2).2 := by
  induction j generalizing s with
  | zero => simp [cycles]
  | succ j induction =>
    rw [Nat.add_right_comm, cycles_succ, cycles_succ]
    exact induction _

theorem runAttempts_add (opts : OutboxOptions) (j d : Nat) (s : Stores) :
    runAttempts opts (j + d) s = runAttempts opts j s ++ runAttempts opts d (cycles opts j s).2 := by
  induction j generalizing s with
  | zero => simp [runAttempts, cycles]
  | succ j induction =>
    rw [Nat.add_right_comm, runAttempts, runAttempts, induction, cycles_succ, List.append_assoc]

end Processor

/-- The attempts of a log that are of an id: its failed ones and its successful ones. -/
theorem attempts_of_id (log : List (Int × Bool)) (id : Int) :
    (log.filter (·.1 == id)).length = log.count (id, false) + log.count (id, true) := by
  induction log with
  | nil => rfl
  | cons a log induction =>
    obtain ⟨other, delivered⟩ := a
    by_cases same : other = id <;> cases delivered <;>
      simp [same, induction] <;> omega

/-! ## A row's account -/

namespace OutboxRow

/-- A row's account against the attempts logged so far, under retry limit `m`: the row
is pending, failed or completed; its retry count is its failed attempts; it succeeded
once if it is completed and never otherwise; and its attempts, with the one a pending
row still waits for, are at most `max 1 m`. -/
structure RetryAccount (m : Int) (log : List (Int × Bool)) (y : OutboxRow) : Prop where
  settled : y.status = OutboxStatus.pending.tag ∨ y.status = OutboxStatus.failed.tag ∨
    y.status = OutboxStatus.completed.tag
  retryCount_eq : y.retryCount = log.count (y.id, false)
  successes_eq : log.count (y.id, true) = if y.status = OutboxStatus.completed.tag then 1 else 0
  attempts_le : ((log.count (y.id, false) + log.count (y.id, true) +
    if y.status = OutboxStatus.pending.tag then 1 else 0 : Nat) : Int) ≤ max 1 m

/-- A row finished for good under retry limit `m`: completed, or failed with no retries
left. -/
def Finished (m : Int) (y : OutboxRow) : Prop :=
  y.status = OutboxStatus.completed.tag ∨ (y.status = OutboxStatus.failed.tag ∧ m ≤ y.retryCount)

variable {m : Int} {log : List (Int × Bool)} {y y' : OutboxRow}

/-- A row as the writer leaves it has its account before any attempt. -/
theorem Fresh.retryAccount (fresh : y.Fresh) : y.RetryAccount m [] where
  settled := .inl fresh.pending
  retryCount_eq := by simp [fresh.retryCount_zero]
  successes_eq := by simp [fresh.pending]
  attempts_le := by simp only [fresh.pending, if_true, List.count_nil]; omega

/-- Attempts of other records leave a row's account as it is. -/
theorem RetryAccount.append_others (account : y.RetryAccount m log) {more : List (Int × Bool)}
    (others : ∀ a ∈ more, a.1 ≠ y.id) : y.RetryAccount m (log ++ more) := by
  have absent : ∀ b, more.count (y.id, b) = 0 := fun b =>
    List.count_eq_zero.mpr fun mem => others _ mem rfl
  obtain ⟨settled, retries, successes, attempts⟩ := account
  exact ⟨settled, by simp [List.count_append, absent, retries],
    by simp [List.count_append, absent, successes], by simpa [List.count_append, absent] using attempts⟩

/-- Requeueing a failed row with retries left keeps its account: its one more attempt is
within the limit. -/
theorem RetryAccount.requeue (account : y.RetryAccount m log)
    (failed : y.status = OutboxStatus.failed.tag) (retriesLeft : y.retryCount < m) :
    { y with status := OutboxStatus.pending.tag }.RetryAccount m log := by
  obtain ⟨-, retries, successes, -⟩ := account
  have neverSucceeded : log.count (y.id, true) = 0 := by simp [successes, failed]
  refine ⟨.inl rfl, retries, by simp [neverSucceeded], ?_⟩
  simp only [neverSucceeded, if_true]
  omega

/-- Settling a pending row logs its attempt: a completion once, or one more failure. -/
theorem RetryAccount.settle (account : y.RetryAccount m log)
    (pending : y.status = OutboxStatus.pending.tag) (settled : y.SettledFrom y') :
    y'.RetryAccount m (log ++ [(y.id, y'.status == OutboxStatus.completed.tag)]) := by
  obtain ⟨-, retries, successes, attempts⟩ := account
  have sameId : y'.id = y.id := congrArg RowOrigin.id settled.1
  have neverSucceeded : log.count (y.id, true) = 0 := by simp [successes, pending]
  simp only [pending, if_true] at attempts
  obtain ⟨-, completed | failed⟩ := settled
  · refine ⟨.inr (.inr completed.1), ?_, ?_, ?_⟩
    · simp [sameId, completed.1, completed.2, List.count_append, retries]
    · simp [sameId, completed.1, List.count_append, neverSucceeded]
    · simp [sameId, completed.1, List.count_append, neverSucceeded]
      omega
  · refine ⟨.inr (.inl failed.1), ?_, ?_, ?_⟩
    · simp [sameId, failed.1, failed.2, List.count_append, retries]
    · simp [sameId, failed.1, List.count_append, neverSucceeded]
    · simp [sameId, failed.1, List.count_append, neverSucceeded]
      omega

end OutboxRow

/-! ## Processing a pending record -/

namespace Processor

variable {s : Stores} {x : OutboxRecord} {y : OutboxRow}

/-- Processing the record of a pending row claims it and settles it, and leaves the other
rows alone; it completes exactly when the row ends completed. -/
theorem processRecord_attempts (found : y ∈ s.outbox.rows) (distinct : s.outbox.IdsDistinct)
    (pending : y.status = OutboxStatus.pending.tag) (read : y.toRecord = .ok x) :
    ∃ y', y.SettledFrom y' ∧
      (processRecord s x).2.outbox.rows = s.outbox.rows.map (fun z => if z.id = y.id then y' else z) ∧
      (s.claim x.id).1 = true ∧
      ((processRecord s x).1 == .completed) = (y'.status == OutboxStatus.completed.tag) := by
  obtain ⟨pre, post, split⟩ := List.append_of_mem found
  have distinctRows : (s.outbox.rows.map OutboxRow.id).Nodup := distinct
  have others := others_of_nodup (split ▸ distinctRows)
  have sameId := (OutboxRow.toRecord_ok read).1
  have claimed : (s.claim x.id).1 = true := by
    simp only [Stores.claim, Stores.now, Clock.read, sameId]
    exact (Outbox.claim_split split others pending _).1
  have processed := processRecord_pending split others pending sameId
  simp only at processed
  split at processed
  · obtain ⟨completed, rows', -⟩ := processed
    obtain ⟨y', rows', settled⟩ : ∃ y', (processRecord s x).2.outbox.rows = pre ++ y' :: post ∧
        y.SettledFrom y' ∧ y'.status = OutboxStatus.completed.tag :=
      ⟨_, rows', ⟨rfl, .inl ⟨rfl, rfl⟩⟩, rfl⟩
    exact ⟨y', settled.1, by rw [rows', Outbox.map_replace_split split others], claimed,
      by simp [completed, settled.2]⟩
  · obtain ⟨failed, rows', -⟩ := processed
    obtain ⟨y', rows', settled⟩ : ∃ y', (processRecord s x).2.outbox.rows = pre ++ y' :: post ∧
        y.SettledFrom y' ∧ y'.status = OutboxStatus.failed.tag :=
      ⟨_, rows', ⟨rfl, .inr ⟨rfl, rfl⟩⟩, rfl⟩
    exact ⟨y', settled.1, by rw [rows', Outbox.map_replace_split split others], claimed,
      by simp [failed, settled.2]⟩

end Processor

/-! ## The account through a run -/

/-- Every row of the stores has its account against the log, and ids are distinct. -/
structure Accounted (m : Int) (log : List (Int × Bool)) (s : Stores) : Prop where
  distinct : s.outbox.IdsDistinct
  rows : ∀ y ∈ s.outbox.rows, y.RetryAccount m log

namespace Accounted

variable {m : Int} {log : List (Int × Bool)} {s : Stores} {opts : OutboxOptions}

theorem of_committed (committed : ∀ y ∈ s.outbox.rows, y.Fresh) (distinct : s.outbox.IdsDistinct) :
    Accounted m [] s :=
  ⟨distinct, fun y mem => (committed y mem).retryAccount⟩

/-- No row of an account is held by a claim. -/
theorem unclaimed (account : Accounted m log s) :
    ∀ y ∈ s.outbox.rows, y.status ≠ OutboxStatus.processing.tag := by
  intro y mem processing
  rcases (account.rows y mem).settled with status | status | status <;>
    rw [processing] at status <;> simp at status

theorem releaseStale (account : Accounted m log s) (span : Span) :
    Accounted m log (s.releaseStale span).2 := by
  rw [Stores.releaseStale_unclaimed account.unclaimed]
  exact ⟨account.distinct, account.rows⟩

/-- A row finished for good stays through releasing. -/
theorem releaseStale_finished (account : Accounted m log s) (span : Span) {y : OutboxRow}
    (found : y ∈ s.outbox.rows) : y ∈ (s.releaseStale span).2.outbox.rows := by
  rw [Stores.releaseStale_unclaimed account.unclaimed]
  exact found

theorem requeueDue (account : Accounted m log s) (span : Span) :
    Accounted m log (s.requeueDue m span).2 := by
  obtain ⟨due, rows', dueFailed, -⟩ := s.requeueDue_rows m span
  refine ⟨?_, ?_⟩
  · unfold Outbox.IdsDistinct
    rw [rows', Outbox.ids_map fun y => by split <;> rfl]
    exact account.distinct
  · intro y' mem
    rw [rows', List.mem_map] at mem
    obtain ⟨y, found, rfl⟩ := mem
    split
    · next isDue =>
      obtain ⟨failed, retriesLeft⟩ := dueFailed y isDue
      exact (account.rows y found).requeue failed retriesLeft
    · exact account.rows y found

/-- A row finished for good is not due, so it stays through requeueing. -/
theorem requeueDue_finished (span : Span) {y : OutboxRow} (found : y ∈ s.outbox.rows)
    (finished : y.Finished m) : y ∈ (s.requeueDue m span).2.outbox.rows := by
  obtain ⟨due, rows', dueFailed, -⟩ := s.requeueDue_rows m span
  have notDue : due y = false := by
    cases isDue : due y
    · rfl
    · obtain ⟨failed, retriesLeft⟩ := dueFailed y isDue
      rcases finished with completed | ⟨-, exhausted⟩
      · rw [completed] at failed
        simp at failed
      · omega
  rw [rows']
  exact List.mem_map.mpr ⟨y, found, by simp [notDue]⟩

/-- Processing records of pending rows, each once, logs one attempt for each, keeps every
account, and leaves the rows of other records in place. -/
theorem processAll (account : Accounted m log s) (report : CycleReport)
    (records : List OutboxRecord)
    (fromPending : ∀ x ∈ records, ∃ y ∈ s.outbox.rows,
      y.status = OutboxStatus.pending.tag ∧ y.toRecord = .ok x)
    (nodup : (records.map (·.id)).Nodup) :
    Accounted m (log ++ Processor.batchAttempts s records) (Processor.processAll s report records).2 ∧
      (∀ a ∈ Processor.batchAttempts s records, a.1 ∈ records.map (·.id)) ∧
      ∀ y ∈ s.outbox.rows, y.id ∉ records.map (·.id) →
        y ∈ (Processor.processAll s report records).2.outbox.rows := by
  induction records generalizing s log report with
  | nil => exact ⟨by simpa [Processor.batchAttempts, Processor.processAll] using account, by simp [Processor.batchAttempts],
      fun y found _ => by simpa [Processor.processAll] using found⟩
  | cons x rest induction =>
    obtain ⟨y, found, pending, readY⟩ := fromPending x (by simp)
    obtain ⟨y', settled, rows', claimed, outcome⟩ :=
      Processor.processRecord_attempts found account.distinct pending readY
    have sameId : y'.id = y.id := congrArg RowOrigin.id settled.1
    have xId : x.id = y.id := (OutboxRow.toRecord_ok readY).1
    rw [List.map_cons, List.nodup_cons] at nodup
    -- the first record's row is settled and the others keep their place
    have kept : ∀ z ∈ s.outbox.rows, z.id ≠ y.id → z ∈ (Processor.processRecord s x).2.outbox.rows := by
      intro z mem other
      rw [rows']
      exact List.mem_map.mpr ⟨z, mem, if_neg other⟩
    have account₁ : Accounted m (log ++ [(x.id, (Processor.processRecord s x).1 == .completed)])
        (Processor.processRecord s x).2 := by
      refine ⟨?_, ?_⟩
      · unfold Outbox.IdsDistinct
        rw [rows', Outbox.ids_map fun z => by split <;> simp_all]
        exact account.distinct
      · intro z' mem
        rw [rows', List.mem_map] at mem
        obtain ⟨z, zFound, rfl⟩ := mem
        split
        · next same =>
          obtain rfl := List.inj_on_of_nodup_map account.distinct zFound found same
          rw [outcome, xId]
          exact (account.rows z zFound).settle pending settled
        · next other =>
          exact (account.rows z zFound).append_others (by simp [xId, Ne.symm other])
    have fromPending₁ : ∀ x' ∈ rest, ∃ z ∈ (Processor.processRecord s x).2.outbox.rows,
        z.status = OutboxStatus.pending.tag ∧ z.toRecord = .ok x' := by
      intro x' mem
      obtain ⟨z, zFound, zPending, readZ⟩ := fromPending x' (List.mem_cons_of_mem _ mem)
      have other : z.id ≠ y.id := by
        rw [← (OutboxRow.toRecord_ok readZ).1, ← xId]
        exact fun same => nodup.1 (same ▸ List.mem_map_of_mem mem)
      exact ⟨z, kept z zFound other, zPending, readZ⟩
    obtain ⟨account', attempted, keptRest⟩ :=
      induction account₁ { report with completed := report.completed + 1 } fromPending₁ nodup.2
    have later : (Processor.processAll s report (x :: rest)).2 =
        (Processor.processAll (Processor.processRecord s x).2
          { report with completed := report.completed + 1 } rest).2 := by
      simp only [Processor.processAll]
      exact Processor.processAll_snd _ _ _
    have attempts : Processor.batchAttempts s (x :: rest) =
        (x.id, (Processor.processRecord s x).1 == .completed) ::
          Processor.batchAttempts (Processor.processRecord s x).2 rest := by
      simp [Processor.batchAttempts, claimed]
    rw [later, attempts]
    refine ⟨by simpa using account', ?_, ?_⟩
    · intro a mem
      rcases List.mem_cons.mp mem with rfl | inRest
      · simp
      · exact List.mem_cons_of_mem _ (attempted a inRest)
    · intro z found notIn
      have other : z.id ≠ y.id := fun same => notIn (by simp [same, xId])
      exact keptRest z (kept z found other) fun inRest => notIn (List.mem_cons_of_mem _ inRest)

/-- A cycle with retry limit `m` keeps the account, with its attempts logged; a row
finished for good stays and is not attempted. -/
theorem cycle (account : Accounted m log s) (limit : opts.maxRetryCount = m) :
    Accounted m (log ++ Processor.cycleAttempts opts s) (Processor.cycle opts s).2 ∧
      ∀ y ∈ s.outbox.rows, y.Finished m →
        y ∈ (Processor.cycle opts s).2.outbox.rows ∧ ∀ a ∈ Processor.cycleAttempts opts s, a.1 ≠ y.id := by
  subst limit
  have released := account.releaseStale opts.claimTimeout
  have requeued : Accounted opts.maxRetryCount log (Processor.housekept opts s) :=
    released.requeueDue opts.retryDelay
  have finishedStays : ∀ y ∈ s.outbox.rows, y.Finished opts.maxRetryCount →
      y ∈ (Processor.housekept opts s).outbox.rows := fun y found finished =>
    requeueDue_finished _ (account.releaseStale_finished _ found) finished
  rcases Processor.cycle_attempts opts s with ⟨none, ended | ended⟩ | ⟨report, batch, read, ended, attempts⟩
  · rw [none, ended, List.append_nil]
    exact ⟨released, fun y found _ => ⟨account.releaseStale_finished _ found, by simp⟩⟩
  · rw [none, ended, List.append_nil]
    exact ⟨requeued, fun y found finished => ⟨finishedStays y found finished, by simp⟩⟩
  · -- the batch is processed in another order than read, each record once
    have fromPending : ∀ x ∈ batch.mergeSort OutboxRecord.fifoBefore,
        ∃ y ∈ (Processor.housekept opts s).outbox.rows,
          y.status = OutboxStatus.pending.tag ∧ y.toRecord = .ok x :=
      fun x mem => Outbox.pending_rows read x (List.mem_mergeSort.mp mem)
    have nodup : ((batch.mergeSort OutboxRecord.fifoBefore).map (·.id)).Nodup :=
      ((List.mergeSort_perm _ _).map _).nodup_iff.mpr
        (Outbox.selected_nodup requeued.distinct (Outbox.limited_ok read))
    obtain ⟨account', attempted, kept⟩ := requeued.processAll report _ fromPending nodup
    rw [ended, attempts]
    refine ⟨account', fun y found finished => ?_⟩
    -- a finished row is not pending, so no record of the batch is its
    have housekeptY := finishedStays y found finished
    have notInBatch : y.id ∉ (batch.mergeSort OutboxRecord.fifoBefore).map (·.id) := by
      intro mem
      obtain ⟨x, xMem, xId⟩ := List.mem_map.mp mem
      obtain ⟨z, zFound, zPending, readZ⟩ := fromPending x xMem
      have same : z = y := List.inj_on_of_nodup_map requeued.distinct zFound housekeptY
        (by rw [← (OutboxRow.toRecord_ok readZ).1, xId])
      rw [same] at zPending
      rcases finished with completed | ⟨failed, -⟩ <;> simp_all
    exact ⟨kept y housekeptY notInBatch, fun a mem same => notInBatch (same ▸ attempted a mem)⟩

/-- A run of cycles with retry limit `m` keeps the account, with its attempts logged; a
row finished for good stays through it and is never attempted. -/
theorem run (account : Accounted m log s) (limit : opts.maxRetryCount = m) (k : Nat) :
    Accounted m (log ++ Processor.runAttempts opts k s) (Processor.cycles opts k s).2 ∧
      ∀ y ∈ s.outbox.rows, y.Finished m →
        y ∈ (Processor.cycles opts k s).2.outbox.rows ∧ ∀ a ∈ Processor.runAttempts opts k s, a.1 ≠ y.id := by
  induction k generalizing s log with
  | zero =>
    exact ⟨by simpa [Processor.runAttempts, Processor.cycles] using account,
      fun y found _ => ⟨by simpa [Processor.cycles] using found, by simp [Processor.runAttempts]⟩⟩
  | succ k induction =>
    obtain ⟨account₁, finished₁⟩ := account.cycle limit
    obtain ⟨account', finished'⟩ := induction account₁
    rw [Processor.cycles_succ, Processor.runAttempts, ← List.append_assoc]
    refine ⟨account', fun y found finished => ?_⟩
    obtain ⟨stays, notAttempted⟩ := finished₁ y found finished
    obtain ⟨staysAfter, notAttemptedAfter⟩ := finished' y stays finished
    exact ⟨staysAfter, fun a mem => (List.mem_append.mp mem).elim (notAttempted a) (notAttemptedAfter a)⟩

end Accounted

/-! ## Attempts come from the pending read -/

namespace Processor

/-- Every attempt of processing records is of one of them. -/
theorem batchAttempts_of_records (s : Stores) (records : List OutboxRecord) :
    ∀ a ∈ batchAttempts s records, ∃ x ∈ records, x.id = a.1 := by
  induction records generalizing s with
  | nil => simp [batchAttempts]
  | cons x rest induction =>
    intro a mem
    simp only [batchAttempts, List.mem_append] at mem
    rcases mem with here | later
    · split at here
      · exact ⟨x, by simp, by simp_all⟩
      · simp at here
    · obtain ⟨x', found, same⟩ := induction _ a later
      exact ⟨x', List.mem_cons_of_mem _ found, same⟩

/-- Every attempt of a cycle is of a record that its pending read returned as pending. -/
theorem cycleAttempts_fetched (opts : OutboxOptions) (s : Stores) :
    ∀ a ∈ cycleAttempts opts s, ∃ batch,
      (housekept opts s).outbox.pending opts.batchSize = .ok batch ∧
        ∃ x ∈ batch, x.id = a.1 ∧ x.status = .pending := by
  intro a mem
  rcases cycle_attempts opts s with ⟨none, -⟩ | ⟨report, batch, read, -, attempts⟩
  · simp [none] at mem
  · rw [attempts] at mem
    obtain ⟨x, sorted, same⟩ := batchAttempts_of_records _ _ a mem
    have fetched := List.mem_mergeSort.mp sorted
    obtain ⟨y, -, pending, readY⟩ := Outbox.pending_rows read x fetched
    exact ⟨batch, read, x, fetched, same, Outbox.pending_read_status pending readY⟩

end Processor

/-! ## Retry accounting -/

/-- Retry accounting over any run of cycles from a committed outbox, under any options
with retry limit `m`.  After `j` cycles: every attempt of the next cycle is of a record
its pending read returned as pending; a record's retry count is its failed attempts so
far, it succeeded at most once, and it was attempted at most `max 1 m` times; a record
finished for good (completed, or failed with its retry count at `m` or more) stays as
it is and is never attempted again; and a failed record without retries left is never
retryable and is counted as exhausted. -/
theorem retries_are_accounted {opts : OutboxOptions} {s : Stores}
    (committed : ∀ y ∈ s.outbox.rows, y.Fresh) (distinct : s.outbox.IdsDistinct) (j : Nat) :
    let m := opts.maxRetryCount
    let now := (Processor.cycles opts j s).2
    let log := Processor.runAttempts opts j s
    (∀ a ∈ Processor.cycleAttempts opts now, ∃ batch,
        (Processor.housekept opts now).outbox.pending opts.batchSize = .ok batch ∧
          ∃ x ∈ batch, x.id = a.1 ∧ x.status = .pending) ∧
      ∀ y ∈ now.outbox.rows,
        y.retryCount = log.count (y.id, false) ∧ log.count (y.id, true) ≤ 1 ∧
        ((log.filter (·.1 == y.id)).length : Int) ≤ max 1 m ∧
        (y.Finished m → ∀ d, y ∈ (Processor.cycles opts (j + d) s).2.outbox.rows ∧
          (Processor.runAttempts opts (j + d) s).filter (·.1 == y.id) = log.filter (·.1 == y.id)) ∧
        (y.status = OutboxStatus.failed.tag ∧ m ≤ y.retryCount →
          (∀ limit records, now.outbox.retryable m limit = .ok records → ∀ x ∈ records, x.id ≠ y.id) ∧
          y ∈ now.outbox.rows.filter (fun r => r.status == OutboxStatus.failed.tag && m ≤ r.retryCount) ∧
          (now.outbox.stats m).exhausted =
            (now.outbox.rows.filter fun r => r.status == OutboxStatus.failed.tag && m ≤ r.retryCount).length) := by
  intro m now log
  have account : Accounted m log now := by
    simpa using ((Accounted.of_committed (m := m) committed distinct).run rfl j).1
  refine ⟨Processor.cycleAttempts_fetched opts now, fun y found => ?_⟩
  obtain ⟨-, retries, successes, attempts⟩ := account.rows y found
  refine ⟨retries, by rw [successes]; split <;> omega, ?_, ?_, ?_⟩
  · rw [attempts_of_id]
    split at attempts <;> omega
  · -- a finished row is a fixed point of the rest of the run
    intro finished d
    obtain ⟨stays, notAttempted⟩ := account.run rfl d |>.2 y found finished
    have none : (Processor.runAttempts opts d now).filter (·.1 == y.id) = [] :=
      List.filter_eq_nil_iff.mpr fun a mem => by simpa using notAttempted a mem
    refine ⟨Processor.cycles_add opts j d s ▸ stays, ?_⟩
    rw [Processor.runAttempts_add, List.filter_append, none, List.append_nil]
  · rintro ⟨failed, exhausted⟩
    refine ⟨fun limit records read x mem same => ?_, by simp [found, failed, exhausted], rfl⟩
    -- the record would be read from this very row, which has no retries left
    obtain ⟨z, zFound, ⟨-, retriesLeft⟩, readZ⟩ := Outbox.retryable_rows read x mem
    have sameRow : z = y := List.inj_on_of_nodup_map account.distinct zFound found
      (by rw [← (OutboxRow.toRecord_ok readZ).1, same])
    rw [sameRow] at retriesLeft
    omega

/-- A pilot update whose payload does not decode, published alone and run through two
cycles with one try allowed and no delay: the outbox it leaves is committed, and its
record's retries are accounted after the first cycle. -/
theorem retries_accounted_for_an_undecodable_update :
    let s := ((Stores.start ⟨1714557600, 0⟩).publish [⟨"ScreenPilot", 7, .update, .null, none⟩]
      false true).2
    let opts : OutboxOptions := { maxRetryCount := 1, retryDelay := Span.ofSeconds 0 }
    let m := opts.maxRetryCount
    let now := (Processor.cycles opts 1 s).2
    let log := Processor.runAttempts opts 1 s
    (∀ y ∈ s.outbox.rows, y.Fresh) ∧ s.outbox.IdsDistinct ∧
      (∀ a ∈ Processor.cycleAttempts opts now, ∃ batch,
          (Processor.housekept opts now).outbox.pending opts.batchSize = .ok batch ∧
            ∃ x ∈ batch, x.id = a.1 ∧ x.status = .pending) ∧
      ∀ y ∈ now.outbox.rows,
        y.retryCount = log.count (y.id, false) ∧ log.count (y.id, true) ≤ 1 ∧
        ((log.filter (·.1 == y.id)).length : Int) ≤ max 1 m ∧
        (y.Finished m → ∀ d, y ∈ (Processor.cycles opts (1 + d) s).2.outbox.rows ∧
          (Processor.runAttempts opts (1 + d) s).filter (·.1 == y.id) = log.filter (·.1 == y.id)) ∧
        (y.status = OutboxStatus.failed.tag ∧ m ≤ y.retryCount →
          (∀ limit records, now.outbox.retryable m limit = .ok records → ∀ x ∈ records, x.id ≠ y.id) ∧
          y ∈ now.outbox.rows.filter (fun r => r.status == OutboxStatus.failed.tag && m ≤ r.retryCount) ∧
          (now.outbox.stats m).exhausted =
            (now.outbox.rows.filter fun r => r.status == OutboxStatus.failed.tag && m ≤ r.retryCount).length) := by
  intro s opts
  obtain ⟨wf, fresh, rows, freshAll⟩ := Stores.publish_outbox (Stores.start ⟨1714557600, 0⟩)
    [⟨"ScreenPilot", 7, .update, .null, none⟩] false true Outbox.empty_wellFormed
  have committed : ∀ y ∈ s.outbox.rows, y.Fresh := by
    intro y mem
    rw [show s.outbox.rows = _ from rows] at mem
    exact freshAll y (by simpa [Stores.start, Outbox.empty] using mem)
  exact ⟨committed, wf.idsDistinct, retries_are_accounted committed wf.idsDistinct 1⟩

end OutboxReplicator
