import OutboxReplicator.Time.Calendar
/-!
# Instants

An instant is a point of UTC time to the nanosecond: whole seconds counted from
1970-01-01T00:00:00 and a nanosecond part.  The nanosecond part is below `10^9`, except
in a leap second, where it runs from `10^9` to below `2 · 10^9` on top of the second
before the leap.  So `23:59:60.5` is second `23:59:59` with `1.5 · 10^9` nanoseconds,
and instants are ordered by seconds, then nanoseconds.

Instants lie in the range of the calendar.  Moving an instant back by a span fails in
two ways: the span does not convert to a time delta, which holds at most `2^63 - 1`
milliseconds (`Span.fits`), or the result falls before the first day of the calendar.
-/

namespace OutboxReplicator

/-- A point of UTC time. -/
structure Instant where
  /-- Whole seconds since 1970-01-01T00:00:00 UTC, negative before. -/
  seconds : Int
  /-- Nanoseconds into the second; from `10^9` on in a leap second. -/
  nanos : Nat
  deriving DecidableEq, Repr

/-- A length of time: whole seconds and nanoseconds below `10^9`. -/
structure Span where
  /-- Whole seconds. -/
  secs : Nat
  /-- Nanoseconds. -/
  nanos : Nat := 0
  deriving DecidableEq, Repr

namespace Span

/-- The span of a number of whole seconds. -/
def ofSeconds (n : Nat) : Span := ⟨n, 0⟩

/-- The whole seconds of the longest time delta, `2^63 - 1` milliseconds. -/
def maxSecs : Nat := (Nat.pow 2 63 - 1) / 1000

/-- The nanoseconds of the longest time delta beyond its whole seconds. -/
def maxNanos : Nat := (Nat.pow 2 63 - 1) % 1000 * 1000000

/-- Whether the span converts to a time delta: its seconds are below `maxSecs`, or equal
to it with at most `maxNanos` nanoseconds. -/
def fits (s : Span) : Bool := s.secs < maxSecs || (s.secs == maxSecs && s.nanos ≤ maxNanos)

end Span

namespace Instant

/-- Nanoseconds in a second. -/
def nanosPerSecond : Nat := 1000000000

/-- The instant with the nanoseconds carried into the seconds, for one that is not a
leap second. -/
def normalize (t : Instant) : Instant :=
  ⟨t.seconds + (t.nanos / nanosPerSecond : Nat), t.nanos % nanosPerSecond⟩

/-- The order of instants: by seconds, then nanoseconds. -/
def before (a b : Instant) : Bool :=
  a.seconds < b.seconds ∨ (a.seconds = b.seconds ∧ a.nanos < b.nanos)

/-- `a` is not after `b`. -/
def notAfter (a b : Instant) : Bool := !before b a

/-- The first second of the calendar. -/
def minSeconds : Int := Date.toDays ⟨Date.minYear, 1, 1⟩ * 86400

/-- The last second of the calendar. -/
def maxSeconds : Int := Date.toDays ⟨Date.maxYear, 12, 31⟩ * 86400 + 86399

/-- Whether the instant lies within the calendar. -/
def inCalendar (t : Instant) : Bool := minSeconds ≤ t.seconds ∧ t.seconds ≤ maxSeconds

/-- The calendar date of the instant. -/
def date (t : Instant) : Date := Date.ofDays (t.seconds / 86400)

/-- Seconds since midnight. -/
def secondOfDay (t : Instant) : Nat := (t.seconds % 86400).toNat

/-- The instant at midnight starting a date. -/
def ofDate (d : Date) : Instant := ⟨d.toDays * 86400, 0⟩

/-- Why an instant cannot be moved back by a span. -/
inductive ShiftError where
  /-- The span is longer than the longest movable span. -/
  | spanTooLong
  /-- The result would be before the first day of the calendar. -/
  | beforeCalendar
  deriving DecidableEq, Repr

/-- The instant a span before `t`. -/
def minus (t : Instant) (s : Span) : Except ShiftError Instant :=
  if !s.fits then .error .spanTooLong
  else
    let total : Int := t.seconds * nanosPerSecond + t.nanos - (s.secs * nanosPerSecond + s.nanos)
    let r : Instant := ⟨total / nanosPerSecond, (total % nanosPerSecond).toNat⟩
    if r.seconds < minSeconds then .error .beforeCalendar else .ok r

end Instant

end OutboxReplicator
