import OutboxReplicator.Proofs.Outbox.Guards
import OutboxReplicator.Proofs.Processor.Dispatch
/-!
# Where housekeeping stops

Releasing stale claims and requeueing due failures each move the time the clock reads
back by a span, to get their cutoff.  That subtraction is the only place where either
step can stop early, and it stops in two ways (`Outbox.cutoff_cases`):

* a span longer than a time delta holds (`2^63 - 1` milliseconds) is refused as the
  internal failure "duration out of range";
* a span that a time delta holds, but whose cutoff falls before the first second of the
  calendar (year -262143), aborts with "`DateTime - TimeDelta` overflowed".

A step that stops has only read the clock: no row changes
(`Stores.requeueDue_cases`, `Stores.releaseStale_cases`).  A cycle counts the failure as
nothing done and goes on, but an abort ends it: a cycle aborts with the overflow exactly
when one of its two spans reaches before the calendar from the time it reads
(`Processor.cycle_overflows_iff`).  A time delta holds spans up to about 9.2e15 s, while
the calendar starts about 8.3e12 s before the present, so every span in between aborts
(`far_retry_delay_overflows`).
-/

namespace OutboxReplicator

namespace Instant

/-- Nanoseconds since 1970-01-01T00:00:00 UTC, negative before. -/
def epochNanos (t : Instant) : Int := t.seconds * nanosPerSecond + t.nanos

end Instant

namespace Span

/-- The length in nanoseconds. -/
def totalNanos (s : Span) : Nat := s.secs * Instant.nanosPerSecond + s.nanos

/-- Whether `now` less the span falls before the first second of the calendar. -/
def ReachesBeforeCalendar (s : Span) (now : Instant) : Prop :=
  now.epochNanos - s.totalNanos < Instant.minSeconds * Instant.nanosPerSecond

instance (s : Span) (now : Instant) : Decidable (s.ReachesBeforeCalendar now) :=
  inferInstanceAs (Decidable (_ < _))

end Span

/-! ## The cutoff -/

namespace Instant

/-- Moving an instant back by a span fails for a span too long for a time delta, fails
for a result before the calendar, and succeeds otherwise. -/
theorem minus_cases (now : Instant) (span : Span) :
    (span.fits = false ∧ now.minus span = .error .spanTooLong) ∨
    (span.fits = true ∧ span.ReachesBeforeCalendar now ∧ now.minus span = .error .beforeCalendar) ∨
    (span.fits = true ∧ ¬ span.ReachesBeforeCalendar now ∧ ∃ c, now.minus span = .ok c) := by
  cases fits : span.fits
  · exact .inl ⟨rfl, by simp [minus, fits]⟩
  · -- the cutoff's second is before the calendar's first exactly when its nanosecond is
    have before : ((now.seconds * nanosPerSecond + now.nanos - (span.secs * nanosPerSecond + span.nanos))
        / nanosPerSecond < minSeconds) ↔ span.ReachesBeforeCalendar now := by
      rw [Int.ediv_lt_iff_lt_mul (by decide), Span.ReachesBeforeCalendar, epochNanos, Span.totalNanos]
      push_cast
      exact Iff.rfl
    by_cases reaches : span.ReachesBeforeCalendar now
    · refine .inr (.inl ⟨rfl, reaches, ?_⟩)
      simp [minus, fits, before.mpr reaches]
    · refine .inr (.inr ⟨rfl, reaches, ?_⟩)
      simp only [minus, fits, Bool.not_true, Bool.false_eq_true, if_false]
      rw [if_neg (fun early => reaches (before.mp early))]
      exact ⟨_, rfl⟩

end Instant

namespace Outbox

/-- The failure of a span too long for a time delta. -/
def spanOutOfRange : Fault :=
  .failure (.internal ["duration out of range"]
    (.message "Source duration value is out of range for the target type"))

/-- The abort of a cutoff before the calendar. -/
def cutoffOverflow : Fault := .abort "`DateTime - TimeDelta` overflowed"

/-- A cutoff aborts exactly when its span fits a time delta and reaches before the
calendar. -/
theorem cutoff_returns_iff {now : Instant} {span : Span} :
    (∀ m, cutoff now span ≠ .error (.abort m)) ↔ ¬ (span.fits = true ∧ span.ReachesBeforeCalendar now) := by
  rcases Instant.minus_cases now span with ⟨long, moved⟩ | ⟨fits, reaches, moved⟩ |
    ⟨fits, within, c, moved⟩
  · simp [cutoff, moved, long]
  · simp [cutoff, moved, fits, reaches]
  · simp [cutoff, moved, within]

end Outbox

/-! ## The two housekeeping steps -/

namespace Stores

/-- A housekeeping step: read the clock, take the cutoff a span before the time read, and
move rows by the cutoff, reporting how many. -/
def housekeep (s : Stores) (span : Span) (move : Instant → Outbox → Nat × Outbox) :
    Except Fault Nat × Stores :=
  let (t, s) := s.now
  match Outbox.cutoff t span with
  | .error e => (.error e, s)
  | .ok c =>
    let (n, outbox) := move c s.outbox
    (.ok n, { s with outbox })

variable (s : Stores) (maxRetry : Int) (span : Span)

theorem requeueDue_eq_housekeep :
    s.requeueDue maxRetry span = s.housekeep span fun c o => o.requeue maxRetry c := rfl

theorem releaseStale_eq_housekeep : s.releaseStale span = s.housekeep span fun c o => o.release c := rfl

variable {s span} {move : Instant → Outbox → Nat × Outbox}

theorem housekeep_of_long (long : span.fits = false) :
    s.housekeep span move = (.error Outbox.spanOutOfRange, { s with clock := s.clock.read.2 }) := by
  simp only [housekeep, now, Clock.read, cutoff_of_long long]
  rfl

theorem housekeep_of_reaches (fits : span.fits = true) (reaches : span.ReachesBeforeCalendar s.clock.next) :
    s.housekeep span move = (.error Outbox.cutoffOverflow, { s with clock := s.clock.read.2 }) := by
  rcases Instant.minus_cases s.clock.next span with ⟨long, _⟩ | ⟨_, _, moved⟩ | ⟨_, within, _⟩
  · simp [fits] at long
  · simp only [housekeep, now, Clock.read, Outbox.cutoff, moved]
    rfl
  · exact absurd reaches within

theorem housekeep_of_minus {cutoff : Instant} (moved : s.clock.next.minus span = .ok cutoff) :
    s.housekeep span move =
      (.ok (move cutoff s.outbox).1, { s with clock := s.clock.read.2, outbox := (move cutoff s.outbox).2 }) := by
  simp only [housekeep, now, Clock.read, Outbox.cutoff, moved]

/-- A housekeeping step aborts with the overflow exactly when its span fits a time delta
and reaches before the calendar; it aborts in no other way. -/
theorem housekeep_abort_iff {m : String} :
    (s.housekeep span move).1 = .error (.abort m) ↔
      Fault.abort m = Outbox.cutoffOverflow ∧ span.fits = true ∧ span.ReachesBeforeCalendar s.clock.next := by
  rcases Instant.minus_cases s.clock.next span with ⟨long, _⟩ | ⟨fits, reaches, _⟩ |
    ⟨fits, within, c, moved⟩
  · simp [housekeep_of_long long, long, Outbox.spanOutOfRange]
  · simp only [housekeep_of_reaches fits reaches, Except.error.injEq, fits, reaches, and_true]
    exact eq_comm
  · simp [housekeep_of_minus moved, within]

theorem housekeep_overflows_iff :
    (s.housekeep span move).1 = .error Outbox.cutoffOverflow ↔
      span.fits = true ∧ span.ReachesBeforeCalendar s.clock.next := by
  rw [Outbox.cutoffOverflow, housekeep_abort_iff, Outbox.cutoffOverflow]
  simp

theorem housekeep_replica : (s.housekeep span move).2.replica = s.replica := by
  simp only [housekeep, now, Clock.read]
  split <;> rfl

/-- A housekeeping step whose span does not reach before the calendar gives a cycle a
count: its own, or 0 for a failure. -/
theorem housekeepingCount_housekeep
    (returns : ¬ (span.fits = true ∧ span.ReachesBeforeCalendar s.clock.next)) :
    ∃ n, Processor.housekeepingCount (s.housekeep span move).1 = .ok n := by
  cases stepped : (s.housekeep span move).1 with
  | ok n => exact ⟨n, rfl⟩
  | error e =>
    cases e with
    | failure f => exact ⟨0, rfl⟩
    | database d => exact ⟨0, rfl⟩
    | abort m => exact absurd (housekeep_abort_iff.mp stepped).2 returns

end Stores

/-! ## A cycle -/

namespace Processor

theorem housekeepingCount_eq_error_iff {r : Except Fault Nat} {m : String} :
    housekeepingCount r = .error m ↔ r = .error (.abort m) := by
  rcases r with (f | f | m') | n <;> simp [housekeepingCount]

theorem ne_abort_of_housekeepingCount {r : Except Fault Nat} {n : Nat}
    (counted : housekeepingCount r = .ok n) (m : String) : r ≠ .error (.abort m) :=
  fun aborted => by simp [housekeepingCount_eq_error_iff.mpr aborted] at counted

/-- A pending read aborts only for a limit that no query parameter holds. -/
theorem pending_abort {o : Outbox} {b : Nat} {m : String}
    (aborted : o.pending b = .error (.abort m)) : m = Outbox.limitAbort := by
  unfold Outbox.pending Outbox.limited at aborted
  split at aborted
  · cases aborted
    rfl
  · cases read : Outbox.readSelected "fetch pending outbox records"
      (((o.rows.filter (·.status == OutboxStatus.pending.tag)).mergeSort Outbox.createdOrder).take b) <;>
      simp [read, Except.mapError] at aborted

/-- A cycle aborts with the overflow of a cutoff exactly when the claim timeout reaches
before the calendar from the time of its first reading, or the retry delay does from
the time of its second. -/
theorem cycle_overflows_iff (opts : OutboxOptions) (s : Stores) :
    (cycle opts s).1 = .error Outbox.cutoffOverflow ↔
      (opts.claimTimeout.fits = true ∧ opts.claimTimeout.ReachesBeforeCalendar s.clock.next) ∨
      (opts.retryDelay.fits = true ∧ opts.retryDelay.ReachesBeforeCalendar s.clock.read.2.next) := by
  have secondReading : (s.releaseStale opts.claimTimeout).2.clock.next = s.clock.read.2.next := by
    rw [Stores.releaseStale_clock]
  have releaseAbort := @Stores.housekeep_abort_iff s opts.claimTimeout fun c o => o.release c
  have releaseOverflows := @Stores.housekeep_overflows_iff s opts.claimTimeout fun c o => o.release c
  have requeueAbort := @Stores.housekeep_abort_iff (s.releaseStale opts.claimTimeout).2 opts.retryDelay
    fun c o => o.requeue opts.maxRetryCount c
  have requeueOverflows := @Stores.housekeep_overflows_iff (s.releaseStale opts.claimTimeout).2
    opts.retryDelay fun c o => o.requeue opts.maxRetryCount c
  rw [← Stores.releaseStale_eq_housekeep] at releaseAbort releaseOverflows
  rw [← Stores.requeueDue_eq_housekeep, secondReading] at requeueAbort requeueOverflows
  rw [← releaseOverflows, ← requeueOverflows]
  -- follow the cycle's branches: only an abort of a housekeeping step carries the overflow
  simp only [cycle]
  cases releasedCount : housekeepingCount (s.releaseStale opts.claimTimeout).1 with
  | error m =>
    have aborted := housekeepingCount_eq_error_iff.mp releasedCount
    simp only [aborted, (releaseAbort.mp aborted).1, true_or]
  | ok n =>
    have notAborted : (s.releaseStale opts.claimTimeout).1 ≠ .error Outbox.cutoffOverflow :=
      ne_abort_of_housekeepingCount releasedCount _
    simp only [notAborted, false_or]
    cases requeuedCount : housekeepingCount ((s.releaseStale opts.claimTimeout).2.requeueDue
        opts.maxRetryCount opts.retryDelay).1 with
    | error m =>
      have aborted := housekeepingCount_eq_error_iff.mp requeuedCount
      simp only [aborted, (requeueAbort.mp aborted).1]
    | ok k =>
      have notAborted' : ((s.releaseStale opts.claimTimeout).2.requeueDue opts.maxRetryCount
          opts.retryDelay).1 ≠ .error Outbox.cutoffOverflow :=
        ne_abort_of_housekeepingCount requeuedCount _
      simp only [notAborted', iff_false]
      split
      next f read =>
        intro failed
        cases Except.error.inj failed
        exact absurd (pending_abort read) (by decide)
      next => simp

variable {opts : OutboxOptions} {s : Stores}

/-- Housekeeping whose spans do not reach before the calendar gives its counts. -/
theorem housekeeping_counts
    (releaseReturns :
      ¬ (opts.claimTimeout.fits = true ∧ opts.claimTimeout.ReachesBeforeCalendar s.clock.next))
    (requeueReturns :
      ¬ (opts.retryDelay.fits = true ∧ opts.retryDelay.ReachesBeforeCalendar s.clock.read.2.next)) :
    ∃ released requeued, housekeepingCount (s.releaseStale opts.claimTimeout).1 = .ok released ∧
      housekeepingCount ((s.releaseStale opts.claimTimeout).2.requeueDue opts.maxRetryCount
        opts.retryDelay).1 = .ok requeued := by
  obtain ⟨released, releasedCount⟩ :=
    @Stores.housekeepingCount_housekeep s opts.claimTimeout (fun c o => o.release c) releaseReturns
  have requeueReturns' : ¬ (opts.retryDelay.fits = true ∧
      opts.retryDelay.ReachesBeforeCalendar (s.releaseStale opts.claimTimeout).2.clock.next) := by
    rw [Stores.releaseStale_clock]
    exact requeueReturns
  obtain ⟨requeued, requeuedCount⟩ := @Stores.housekeepingCount_housekeep _ opts.retryDelay
    (fun c o => o.requeue opts.maxRetryCount c) requeueReturns'
  exact ⟨released, requeued, releasedCount, requeuedCount⟩

theorem housekept_replica (opts : OutboxOptions) (s : Stores) : (housekept opts s).replica = s.replica := by
  rw [housekept, Stores.requeueDue_eq_housekeep, Stores.housekeep_replica,
    Stores.releaseStale_eq_housekeep, Stores.housekeep_replica]

end Processor

/-! ## Housekeeping as a whole -/

/-- Releasing stale claims and requeueing due failures, at the time `now` the clock
reads, stop only at their cutoff `now - span`, and then change no row:

* a span too long for a time delta fails both with the internal failure "duration out
  of range";
* a span that a time delta holds but that reaches before the calendar aborts both with
  "`DateTime - TimeDelta` overflowed";
* any other span gives the cutoff, and each step moves the rows its guard selects there
  and reports how many.

So a cycle aborts with that overflow exactly when its claim timeout or its retry delay
reaches before the calendar from the time it reads. -/
theorem housekeeping_overflows_before_the_calendar (opts : OutboxOptions) (s : Stores)
    (maxRetry : Int) (span : Span) :
    let now := s.clock.next
    let ticked : Stores := { s with clock := s.clock.read.2 }
    (span.fits = false →
      s.requeueDue maxRetry span = (.error Outbox.spanOutOfRange, ticked) ∧
        s.releaseStale span = (.error Outbox.spanOutOfRange, ticked)) ∧
    (span.fits = true → span.ReachesBeforeCalendar now →
      s.requeueDue maxRetry span = (.error Outbox.cutoffOverflow, ticked) ∧
        s.releaseStale span = (.error Outbox.cutoffOverflow, ticked)) ∧
    (span.fits = true → ¬ span.ReachesBeforeCalendar now → ∃ cutoff, now.minus span = .ok cutoff ∧
      s.requeueDue maxRetry span =
          (.ok (s.outbox.rows.filter (Outbox.dueForRetry maxRetry cutoff)).length,
            { ticked with outbox := s.outbox.update [.requeue maxRetry cutoff] }) ∧
      s.releaseStale span =
          (.ok (s.outbox.rows.filter (Outbox.staleClaim cutoff)).length,
            { ticked with outbox := s.outbox.update [.release cutoff] })) ∧
    ((Processor.cycle opts s).1 = .error Outbox.cutoffOverflow ↔
      (opts.claimTimeout.fits = true ∧ opts.claimTimeout.ReachesBeforeCalendar now) ∨
      (opts.retryDelay.fits = true ∧ opts.retryDelay.ReachesBeforeCalendar s.clock.read.2.next)) := by
  intro now ticked
  refine ⟨fun long => ⟨Stores.requeueDue_of_long long, Stores.releaseStale_of_long long⟩,
    fun fits reaches => ?_, fun fits within => ?_, Processor.cycle_overflows_iff opts s⟩
  · rw [Stores.requeueDue_eq_housekeep, Stores.releaseStale_eq_housekeep]
    exact ⟨Stores.housekeep_of_reaches fits reaches, Stores.housekeep_of_reaches fits reaches⟩
  · rcases Instant.minus_cases now span with ⟨long, _⟩ | ⟨_, reaches, _⟩ | ⟨_, _, cutoff, moved⟩
    · simp [fits] at long
    · exact absurd reaches within
    · exact ⟨cutoff, moved, Stores.requeueDue_of_minus moved, Stores.releaseStale_of_minus moved⟩

/-- A retry delay of 9e12 seconds fits a time delta, but from a clock at
2026-07-01T00:00:00Z it reaches before the calendar: requeueing with it aborts, and so
does a cycle under it. -/
theorem far_retry_delay_overflows :
    let s := Stores.start ⟨1782864000, 0⟩
    let opts : OutboxOptions := { retryDelay := Span.ofSeconds 9000000000000 }
    opts.retryDelay.fits = true ∧ opts.retryDelay.ReachesBeforeCalendar s.clock.next ∧
      (s.requeueDue opts.maxRetryCount opts.retryDelay).1 = .error Outbox.cutoffOverflow ∧
      (Processor.cycle opts s).1 = .error Outbox.cutoffOverflow := by
  intro s opts
  have fits : opts.retryDelay.fits = true := by decide
  have reaches : opts.retryDelay.ReachesBeforeCalendar s.clock.next := by decide
  have reachesLater : opts.retryDelay.ReachesBeforeCalendar s.clock.read.2.next := by decide
  have housekeeping := housekeeping_overflows_before_the_calendar opts s opts.maxRetryCount opts.retryDelay
  exact ⟨fits, reaches, by rw [(housekeeping.2.1 fits reaches).1],
    housekeeping.2.2.2.mpr (.inr ⟨fits, reachesLater⟩)⟩

end OutboxReplicator
