import OutboxReplicator.Proofs.Outbox.Writer
import OutboxReplicator.Processor.Cycle
/-!
# What each operation does to the stores

Every operation of the stores touches one store and reads the clock at most once.  This
module says once per operation which store it changes and how, so that later proofs cite
these lemmas and never unfold the operations:

* the store's guarded writes are row updates of the outbox (`RowUpdate`), taken at the
  time the clock reads;
* replicating changes the replica and nothing else;
* publishing appends fresh rows, or nothing.

A cycle is housekeeping followed by the processing of a batch (`Processor.cycle_cases`),
so it too changes the outbox only by row updates (`Processor.cycle_updates`).
-/

namespace OutboxReplicator

namespace Stores

variable (s : Stores)

/-! ## The clock and the stores' single steps -/

@[simp] theorem now_fst : s.now.1 = s.clock.next := rfl

@[simp] theorem now_outbox : s.now.2.outbox = s.outbox := rfl

@[simp] theorem now_replica : s.now.2.replica = s.replica := rfl

theorem claim_outbox (id : Int) : (s.claim id).2.outbox = (s.outbox.claim s.clock.next id).2 := by
  simp [claim, now, Clock.read]

@[simp] theorem claim_replica (id : Int) : (s.claim id).2.replica = s.replica := rfl

theorem markProcessed_outbox (id : Int) :
    (s.markProcessed id).outbox = s.outbox.markProcessed s.clock.next id := rfl

@[simp] theorem markProcessed_replica (id : Int) : (s.markProcessed id).replica = s.replica := rfl

theorem markFailed_outbox (id : Int) (message : String) :
    (s.markFailed id message).outbox = s.outbox.markFailed s.clock.next id message := rfl

@[simp] theorem markFailed_replica (id : Int) (message : String) :
    (s.markFailed id message).replica = s.replica := rfl

@[simp] theorem replicate_outbox (entityType : String) (op : Operation) (payload : Json) :
    (s.replicate entityType op payload).2.outbox = s.outbox := by
  unfold replicate
  split <;> rfl

/-- Releasing stale claims is the release update at the cutoff, or nothing when the
cutoff cannot be computed. -/
theorem releaseStale_outbox (span : Span) :
    ∃ us, (s.releaseStale span).2.outbox = s.outbox.update us := by
  simp only [releaseStale, now, Clock.read]
  split
  next => exact ⟨[], by simp⟩
  next cutoff _ => exact ⟨[.release cutoff], Outbox.release_snd _ cutoff⟩

/-- Requeueing is the requeue update at the cutoff, or nothing when the cutoff cannot be
computed. -/
theorem requeueDue_outbox (maxRetry : Int) (span : Span) :
    ∃ us, (s.requeueDue maxRetry span).2.outbox = s.outbox.update us := by
  simp only [requeueDue, now, Clock.read]
  split
  next => exact ⟨[], by simp⟩
  next cutoff _ => exact ⟨[.requeue maxRetry cutoff], Outbox.requeue_snd _ maxRetry cutoff⟩

@[simp] theorem stampEach_outbox (records : List NewRecord) :
    (s.stampEach records).2.outbox = s.outbox := by
  induction records generalizing s with
  | nil => rfl
  | cons r rest induction => simp [stampEach, induction]

/-- A publish keeps the outbox well formed and appends fresh rows: all of them when it
commits, none when it rolls back or a write fails. -/
theorem publish_outbox (records : List NewRecord) (batch commit : Bool)
    (wf : s.outbox.WellFormed) :
    (s.publish records batch commit).2.outbox.WellFormed ∧
      ∃ fresh : List OutboxRow, (s.publish records batch commit).2.outbox.rows =
        s.outbox.rows ++ fresh ∧ ∀ row ∈ fresh, row.Fresh := by
  have kept : s.outbox.WellFormed ∧ ∃ fresh : List OutboxRow,
      s.outbox.rows = s.outbox.rows ++ fresh ∧ ∀ row ∈ fresh, row.Fresh :=
    ⟨wf, [], by simp, by simp⟩
  have appended : ∀ {stamped ids} {outbox : Outbox},
      s.outbox.appendAll stamped = .ok (ids, outbox) → outbox.WellFormed ∧
        ∃ fresh : List OutboxRow, outbox.rows = s.outbox.rows ++ fresh ∧ ∀ row ∈ fresh, row.Fresh :=
    fun written =>
      let ⟨wf', fresh, rows, _, freshAll⟩ := wf.appendAll written
      ⟨wf', fresh, rows, freshAll⟩
  -- the records are stamped one reading each, or all with one reading
  cases batch <;> simp only [publish, Bool.false_eq_true, if_false, if_true] <;> split
  next => simpa using kept
  next ids outbox written =>
    cases commit
    · simpa using kept
    · simpa using appended (by simpa using written)
  next => simpa using kept
  next ids outbox written =>
    cases commit
    · simpa using kept
    · simpa using appended (by simpa using written)

end Stores

namespace Processor

/-! ## Processing records and whole cycles -/

/-- Processing a record claims it and then marks it, or stops at a failed claim. -/
theorem processRecord_updates (s : Stores) (r : OutboxRecord) (distinct : s.outbox.IdsDistinct) :
    ∃ us, (processRecord s r).2.outbox = s.outbox.update us := by
  have claimed := Stores.claim_outbox s r.id
  rw [Outbox.claim_snd distinct] at claimed
  have distinctClaimed : (s.claim r.id).2.outbox.IdsDistinct := claimed ▸ distinct.update _
  simp only [processRecord]
  split
  next => exact ⟨_, claimed⟩
  next =>
    split
    next s₂ replicated =>
      have same : s₂.outbox = (s.claim r.id).2.outbox := by
        rw [← Stores.replicate_outbox (s.claim r.id).2 r.entityType r.operation r.payload,
          replicated]
      refine ⟨[.claim s.clock.next r.id, .markProcessed s₂.clock.next r.id], ?_⟩
      rw [Stores.markProcessed_outbox, Outbox.markProcessed_eq (same ▸ distinctClaimed), same,
        claimed, Outbox.update_update]
      rfl
    next f s₂ replicated =>
      have same : s₂.outbox = (s.claim r.id).2.outbox := by
        rw [← Stores.replicate_outbox (s.claim r.id).2 r.entityType r.operation r.payload,
          replicated]
      refine ⟨[.claim s.clock.next r.id, .markFailed s₂.clock.next r.id f.failureMessage], ?_⟩
      rw [Stores.markFailed_outbox, Outbox.markFailed_eq (same ▸ distinctClaimed), same,
        claimed, Outbox.update_update]
      rfl

theorem processAll_updates (s : Stores) (report : CycleReport) (records : List OutboxRecord)
    (distinct : s.outbox.IdsDistinct) :
    ∃ us, (processAll s report records).2.outbox = s.outbox.update us := by
  induction records generalizing s report with
  | nil => exact ⟨[], by simp [processAll]⟩
  | cons r rest induction =>
    obtain ⟨us, first⟩ := processRecord_updates s r distinct
    obtain ⟨vs, later⟩ := induction (processRecord s r).2 _ (first ▸ distinct.update us)
    refine ⟨us ++ vs, ?_⟩
    simp only [processAll]
    rw [later, first, Outbox.update_update]

/-- A cycle ends after releasing, after requeueing, or after processing a batch. -/
theorem cycle_cases (opts : OutboxOptions) (s : Stores) :
    let s₁ := (s.releaseStale opts.claimTimeout).2
    let s₂ := (s₁.requeueDue opts.maxRetryCount opts.retryDelay).2
    (cycle opts s).2 = s₁ ∨ (cycle opts s).2 = s₂ ∨
      ∃ report batch, (cycle opts s).2 = (processAll s₂ report batch).2 := by
  simp only [cycle]
  split
  next => exact .inl rfl
  next =>
    split
    next => exact .inr (.inl rfl)
    next =>
      split
      next => exact .inr (.inl rfl)
      next => exact .inr (.inr ⟨_, _, rfl⟩)

/-- A cycle changes the outbox only by row updates. -/
theorem cycle_updates (opts : OutboxOptions) (s : Stores) (distinct : s.outbox.IdsDistinct) :
    ∃ us, (cycle opts s).2.outbox = s.outbox.update us := by
  obtain ⟨us₁, released⟩ := Stores.releaseStale_outbox s opts.claimTimeout
  obtain ⟨us₂, requeued⟩ :=
    Stores.requeueDue_outbox (s.releaseStale opts.claimTimeout).2 opts.maxRetryCount opts.retryDelay
  have distinct₂ : ((s.releaseStale opts.claimTimeout).2.requeueDue opts.maxRetryCount
      opts.retryDelay).2.outbox.IdsDistinct := by
    rw [requeued, released]
    exact (distinct.update us₁).update us₂
  rcases cycle_cases opts s with ended | ended | ⟨report, batch, ended⟩ <;> rw [ended]
  · exact ⟨us₁, released⟩
  · exact ⟨us₁ ++ us₂, by rw [requeued, released, Outbox.update_update]⟩
  · obtain ⟨us₃, processed⟩ := processAll_updates _ report batch distinct₂
    exact ⟨us₁ ++ (us₂ ++ us₃), by rw [processed, requeued, released, Outbox.update_update,
      Outbox.update_update]⟩

end Processor

end OutboxReplicator
