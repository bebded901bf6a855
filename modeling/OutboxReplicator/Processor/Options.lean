import OutboxReplicator.Json.Value
import OutboxReplicator.Time.Instant
/-!
# Processor options, cycle reports and the clock

The options of a processor: whether it runs, how long it sleeps between cycles, how
many records a cycle takes, how many failures a record may have before it stays
failed, how long a failed record waits before it is retried, and how long a claim
stays valid.

A cycle report counts what one cycle did; a cycle is idle when it released,
requeued and fetched nothing.

The clock is the wall clock as the program reads it: a sequence of readings, each no
earlier than the one before and none inside a leap second.  How much time passes
between two readings is the clock's own business: a pause of the processor, or any
other wait, is only a gap between readings.  `Clock.ticking` is one such clock, whose
readings are a microsecond apart.
-/

namespace OutboxReplicator

/-- How a processor works. -/
structure OutboxOptions where
  /-- Whether the processor runs at all. -/
  enabled : Bool := true
  /-- The pause between cycles. -/
  pollingInterval : Span := Span.ofSeconds 5
  /-- The most records one cycle takes. -/
  batchSize : Nat := 100
  /-- Failures after which a record is not retried. -/
  maxRetryCount : Int := 5
  /-- How long a failed record waits before it is pending again. -/
  retryDelay : Span := Span.ofSeconds 60
  /-- How long a claim holds before it is released. -/
  claimTimeout : Span := Span.ofSeconds 300
  deriving Repr

/-- The most failed records one listing returns. -/
def maxFailedListing : Nat := 500

namespace Span

/-- The span as JSON: seconds and nanoseconds. -/
def toJson (s : Span) : Json := Json.object [("secs", Json.nat s.secs), ("nanos", Json.nat s.nanos)]

end Span

namespace OutboxOptions

/-- The options as JSON. -/
def toJson (o : OutboxOptions) : Json :=
  Json.object
    [("enabled", .bool o.enabled), ("polling_interval", o.pollingInterval.toJson),
     ("batch_size", Json.nat o.batchSize), ("max_retry_count", Json.int o.maxRetryCount),
     ("retry_delay", o.retryDelay.toJson), ("claim_timeout", o.claimTimeout.toJson)]

end OutboxOptions

/-- What one cycle did. -/
structure CycleReport where
  /-- Stale claims released. -/
  released : Nat := 0
  /-- Failed records made pending again. -/
  requeued : Nat := 0
  /-- Pending records taken. -/
  fetched : Nat := 0
  /-- Records replicated. -/
  completed : Nat := 0
  /-- Records that failed. -/
  failed : Nat := 0
  /-- Records another processor had claimed. -/
  skipped : Nat := 0
  deriving DecidableEq, Repr

namespace CycleReport

/-- Whether the cycle found nothing to do. -/
def isIdle (r : CycleReport) : Bool := r.fetched == 0 && r.released == 0 && r.requeued == 0

/-- The report as JSON, with whether it is idle. -/
def toJson (r : CycleReport) : Json :=
  Json.object
    [("released", Json.nat r.released), ("requeued", Json.nat r.requeued),
     ("fetched", Json.nat r.fetched), ("completed", Json.nat r.completed),
     ("failed", Json.nat r.failed), ("skipped", Json.nat r.skipped),
     ("is_idle", .bool r.isIdle)]

end CycleReport

/-- The wall clock, by the times its readings will give from now on. -/
structure Clock where
  /-- The time of the reading after `n` others. -/
  reading : Nat → Instant
  /-- A reading is never later than the one after it. -/
  nondecreasing : ∀ n, (reading n).notAfter (reading (n + 1)) = true
  /-- No reading falls inside a leap second. -/
  notLeap : ∀ n, (reading n).nanos < Instant.nanosPerSecond

namespace Clock

/-- The time of the next reading. -/
def next (c : Clock) : Instant := c.reading 0

/-- Read the time; the clock moves on to its following readings. -/
def read (c : Clock) : Instant × Clock :=
  (c.next, ⟨fun n => c.reading (n + 1), fun n => c.nondecreasing (n + 1), fun n => c.notLeap (n + 1)⟩)

/-- The clock whose readings start at an instant and follow a microsecond apart. -/
def ticking (t : Instant) : Clock where
  reading n := Instant.normalize ⟨t.seconds, t.nanos + 1000 * n⟩
  nondecreasing n := by
    simp only [Instant.notAfter, Instant.before, Bool.not_eq_true', decide_eq_false_iff_not]
    simp only [Instant.normalize, Instant.nanosPerSecond]
    omega
  notLeap n := Nat.mod_lt _ (by decide)

end Clock

end OutboxReplicator
