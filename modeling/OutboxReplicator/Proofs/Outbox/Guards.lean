import OutboxReplicator.Proofs.Outbox.RowUpdate
import OutboxReplicator.Proofs.Time.TextOrder
/-!
# The guarded updates select what their guards say

Each write the store makes to existing records reads the clock once, at `now`, and is
one guarded row update (`RowUpdate.apply`): the rows its guard selects change in the
listed columns, every other row and column stays, and the sequence of ids is untouched.

* Claiming, completing and failing a record select it by its id and status: a claim
  succeeds exactly when the record exists and is pending (`Outbox.claim_fst_iff`), and an
  id that no record has changes nothing (`Outbox.update_missing`).
* Requeueing and releasing select by a cutoff `now - span` and report how many rows they
  moved (`Stores.requeueDue_of_minus`, `Stores.releaseStale_of_minus`); a span too long to
  subtract fails both, changing nothing (`Stores.requeueDue_of_long`).
* The guards compare times as stored text.  For failure and claim times in years of four
  digits and a clock outside a leap second, that is the comparison in time
  (`Outbox.dueForRetry_iff`, `Outbox.staleClaim_iff`), however far back the span
  reaches.  A failure time past year 9999 is written with a leading `+`, which sorts
  before every digit, so it counts as due at any time of the calendar
  (`future_failure_is_requeued`).
-/

namespace OutboxReplicator

/-! ## Cutoffs -/

namespace Instant

/-- Moving a time outside a leap second back by a span gives a time outside a leap second,
no later. -/
theorem minus_ok {now c : Instant} {span : Span} (notLeap : now.nanos < nanosPerSecond)
    (moved : now.minus span = .ok c) : c.nanos < nanosPerSecond ∧ c.seconds ≤ now.seconds := by
  unfold minus at moved
  split at moved
  · cases moved
  · dsimp only at moved
    split at moved
    · cases moved
    · cases moved
      simp only [nanosPerSecond] at notLeap ⊢
      omega

/-- A time before year 0 or after year 9999 has a smaller stored text than a time in a
year of four digits: its text starts with a sign, the other's with a digit. -/
theorem storedText_lt_of_year_large {c t : Instant} (large : 9999 < c.date.year)
    (year : 0 ≤ t.date.year ∧ t.date.year ≤ 9999) : c.storedText < t.storedText := by
  have notFour : ¬ (0 ≤ c.date.year ∧ c.date.year ≤ 9999) := fun ⟨_, high⟩ => by omega
  have positive : ¬ c.date.year < 0 := by omega
  obtain ⟨d, rest', tText, digit⟩ := storedText_head_of_fourDigitYear year
  rw [String.lt_iff, tText]
  simp only [storedText, format, yearText, notFour, if_false, positive, String.toList_append]
  exact List.cons_lt_cons_iff.mpr (.inl (plus_lt_of_zero_le digit))

end Instant

/-! ## Which rows the guards select -/

namespace Outbox

variable {o : Outbox}

/-- On a table keyed by id, a claim succeeds exactly when the record exists and is
pending. -/
theorem claim_fst_iff (distinct : o.IdsDistinct) (now : Instant) (id : Int) :
    (o.claim now id).1 = true ↔ ∃ y ∈ o.rows, y.id = id ∧ y.status = OutboxStatus.pending.tag := by
  unfold claim
  cases found : o.find? id with
  | none =>
    simp only [Bool.false_eq_true, false_iff, not_exists, not_and]
    intro y mem same
    exact absurd same (absent_of_find? found y mem)
  | some r =>
    by_cases pending : r.status = OutboxStatus.pending.tag
    · simp only [pending, beq_self_eq_true, if_true, true_iff]
      exact ⟨r, List.mem_of_find?_eq_some found, id_of_find? found, pending⟩
    · simp only [beq_iff_eq, pending, if_false, Bool.false_eq_true, false_iff, not_exists, not_and]
      intro y mem same
      rw [eq_of_find? distinct found mem same]
      exact pending

/-- An update that selects rows by an id changes nothing when no row has that id. -/
theorem update_missing {id : Int} (missing : ∀ y ∈ o.rows, y.id ≠ id) {u : RowUpdate}
    (byId : ∀ y : OutboxRow, y.id ≠ id → u.apply y = y) : o.update [u] = o :=
  map_fixing fun y mem => by simpa using byId y (missing y mem)

variable {maxRetry : Int} {cutoff : Instant} {y : OutboxRow}

/-- For a failure time in a year of four digits, a failed row is due at a cutoff outside a
leap second and no later than year 9999 exactly when it has retries left and failed no
later than the cutoff. -/
theorem dueForRetry_iff (failedTime : ∀ t, y.failedAt = some t → t.FourDigitYear)
    (cutNanos : cutoff.nanos < Instant.nanosPerSecond) (cutYear : cutoff.date.year ≤ 9999) :
    dueForRetry maxRetry cutoff y = true ↔ y.status = OutboxStatus.failed.tag ∧
      y.retryCount < maxRetry ∧ ∃ t, y.failedAt = some t ∧ t.notAfter cutoff = true := by
  unfold dueForRetry
  cases failed : y.failedAt with
  | none => simp
  | some t =>
    have sameOrder := Instant.storedNotAfter_cutoff_iff (failedTime t failed) cutNanos cutYear
    simp only [Bool.and_eq_true, beq_iff_eq, decide_eq_true_eq, sameOrder, Option.some.injEq,
      exists_eq_left', and_assoc]

/-- For a claim time in a year of four digits, a processing row's claim is stale at a
cutoff outside a leap second and no later than year 9999 exactly when it was claimed no
later than the cutoff. -/
theorem staleClaim_iff (claimTime : ∀ t, y.claimedAt = some t → t.FourDigitYear)
    (cutNanos : cutoff.nanos < Instant.nanosPerSecond) (cutYear : cutoff.date.year ≤ 9999) :
    staleClaim cutoff y = true ↔ y.status = OutboxStatus.processing.tag ∧
      ∃ t, y.claimedAt = some t ∧ t.notAfter cutoff = true := by
  unfold staleClaim
  cases claimed : y.claimedAt with
  | none => simp
  | some t =>
    have sameOrder := Instant.storedNotAfter_cutoff_iff (claimTime t claimed) cutNanos cutYear
    simp only [Bool.and_eq_true, beq_iff_eq, sameOrder, Option.some.injEq, exists_eq_left']

end Outbox

/-! ## The store's writes at the clock's time -/

namespace Stores

variable (s : Stores) (id : Int)

theorem claim_eq : s.claim id = ((s.outbox.claim s.clock.next id).1,
    { s with clock := s.clock.read.2, outbox := (s.outbox.claim s.clock.next id).2 }) := rfl

theorem markProcessed_eq :
    s.markProcessed id = { s with clock := s.clock.read.2,
                                  outbox := s.outbox.markProcessed s.clock.next id } := rfl

theorem markFailed_eq (message : String) :
    s.markFailed id message = { s with clock := s.clock.read.2,
                                       outbox := s.outbox.markFailed s.clock.next id message } := rfl

variable {s} {maxRetry : Int} {span : Span} {cutoff : Instant}

/-- With the cutoff `now - span` computed, requeueing moves the failed rows due then and
reports how many. -/
theorem requeueDue_of_minus (moved : s.clock.next.minus span = .ok cutoff) :
    s.requeueDue maxRetry span =
      (.ok (s.outbox.rows.filter (Outbox.dueForRetry maxRetry cutoff)).length,
        { s with clock := s.clock.read.2, outbox := s.outbox.update [.requeue maxRetry cutoff] }) := by
  simp only [requeueDue, now, Clock.read, Outbox.cutoff, moved]
  rfl

/-- With the cutoff `now - span` computed, releasing frees the stale claims and reports how
many. -/
theorem releaseStale_of_minus (moved : s.clock.next.minus span = .ok cutoff) :
    s.releaseStale span =
      (.ok (s.outbox.rows.filter (Outbox.staleClaim cutoff)).length,
        { s with clock := s.clock.read.2, outbox := s.outbox.update [.release cutoff] }) := by
  simp only [releaseStale, now, Clock.read, Outbox.cutoff, moved]
  rfl

/-- The fault of a span longer than a time delta holds. -/
theorem cutoff_of_long (long : span.fits = false) (now : Instant) :
    Outbox.cutoff now span = .error (.failure (.internal ["duration out of range"]
      (.message "Source duration value is out of range for the target type"))) := by
  simp [Outbox.cutoff, Instant.minus, long]

theorem requeueDue_of_long (long : span.fits = false) :
    s.requeueDue maxRetry span = (.error (.failure (.internal ["duration out of range"]
      (.message "Source duration value is out of range for the target type"))),
      { s with clock := s.clock.read.2 }) := by
  simp only [requeueDue, now, Clock.read, cutoff_of_long long]

theorem releaseStale_of_long (long : span.fits = false) :
    s.releaseStale span = (.error (.failure (.internal ["duration out of range"]
      (.message "Source duration value is out of range for the target type"))),
      { s with clock := s.clock.read.2 }) := by
  simp only [releaseStale, now, Clock.read, cutoff_of_long long]

/-- A cutoff that would fall before the calendar aborts requeueing with the overflow. -/
theorem requeueDue_of_beforeCalendar (reaches : s.clock.next.minus span = .error .beforeCalendar) :
    s.requeueDue maxRetry span =
      (.error (.abort "`DateTime - TimeDelta` overflowed"), { s with clock := s.clock.read.2 }) := by
  simp only [requeueDue, now, Clock.read, Outbox.cutoff, reaches]

/-- A cutoff that would fall before the calendar aborts releasing with the overflow. -/
theorem releaseStale_of_beforeCalendar (reaches : s.clock.next.minus span = .error .beforeCalendar) :
    s.releaseStale span =
      (.error (.abort "`DateTime - TimeDelta` overflowed"), { s with clock := s.clock.read.2 }) := by
  simp only [releaseStale, now, Clock.read, Outbox.cutoff, reaches]

end Stores

/-! ## The guarded updates -/

/-- The store's guarded updates on a table keyed by id, each at the time `now` the clock
reads, touching only the outbox:

* a claim succeeds exactly when the record exists and is pending, and then makes only it
  processing, claimed now; marking it processed or failed changes only it, when it is not
  completed, in the columns `RowUpdate.apply` lists; an id that no record has changes
  nothing;
* requeueing and releasing at the cutoff `now - span` make pending exactly the rows their
  guards select, report how many, and for failure and claim times in years of four digits
  and a clock outside a leap second select by time: failed rows with retries left that
  failed no later than the cutoff, and processing rows claimed no later than it;
* a span too long to subtract fails requeueing and releasing with the internal error
  "duration out of range", changing nothing;
* a span that converts, but whose cutoff falls before the calendar, aborts both with the
  overflow of the subtraction, changing nothing. -/
theorem guarded_updates_follow_their_guards (s : Stores) (distinct : s.outbox.IdsDistinct)
    (id : Int) (message : String) (maxRetry : Int) (span : Span) :
    let now := s.clock.next
    let ticked : Stores := { s with clock := s.clock.read.2 }
    ((s.claim id).1 = true ↔
        ∃ y ∈ s.outbox.rows, y.id = id ∧ y.status = OutboxStatus.pending.tag) ∧
      (s.claim id).2 = { ticked with outbox := s.outbox.update [.claim now id] } ∧
      s.markProcessed id = { ticked with outbox := s.outbox.update [.markProcessed now id] } ∧
      s.markFailed id message = { ticked with outbox := s.outbox.update [.markFailed now id message] } ∧
      ((∀ y ∈ s.outbox.rows, y.id ≠ id) →
        (s.claim id).2.outbox = s.outbox ∧ (s.markProcessed id).outbox = s.outbox ∧
          (s.markFailed id message).outbox = s.outbox) ∧
      (∀ cutoff, now.minus span = .ok cutoff →
        s.requeueDue maxRetry span =
            (.ok (s.outbox.rows.filter (Outbox.dueForRetry maxRetry cutoff)).length,
              { ticked with outbox := s.outbox.update [.requeue maxRetry cutoff] }) ∧
          s.releaseStale span =
            (.ok (s.outbox.rows.filter (Outbox.staleClaim cutoff)).length,
              { ticked with outbox := s.outbox.update [.release cutoff] }) ∧
          (now.Plain → ∀ y : OutboxRow, (∀ t, y.failedAt = some t → t.FourDigitYear) →
            (∀ t, y.claimedAt = some t → t.FourDigitYear) →
            (Outbox.dueForRetry maxRetry cutoff y = true ↔ y.status = OutboxStatus.failed.tag ∧
              y.retryCount < maxRetry ∧ ∃ t, y.failedAt = some t ∧ t.notAfter cutoff = true) ∧
            (Outbox.staleClaim cutoff y = true ↔ y.status = OutboxStatus.processing.tag ∧
              ∃ t, y.claimedAt = some t ∧ t.notAfter cutoff = true))) ∧
      (span.fits = false →
        s.requeueDue maxRetry span = (.error (.failure (.internal ["duration out of range"]
            (.message "Source duration value is out of range for the target type"))), ticked) ∧
          s.releaseStale span = (.error (.failure (.internal ["duration out of range"]
            (.message "Source duration value is out of range for the target type"))), ticked)) ∧
      (now.minus span = .error .beforeCalendar →
        s.requeueDue maxRetry span = (.error (.abort "`DateTime - TimeDelta` overflowed"), ticked) ∧
          s.releaseStale span = (.error (.abort "`DateTime - TimeDelta` overflowed"), ticked)) := by
  intro now ticked
  have byId : ∀ u : RowUpdate, (∀ y : OutboxRow, y.id ≠ id → u.apply y = y) →
      (∀ y ∈ s.outbox.rows, y.id ≠ id) → s.outbox.update [u] = s.outbox :=
    fun u selects missing => Outbox.update_missing missing selects
  refine ⟨Outbox.claim_fst_iff distinct now id, ?_, ?_, ?_, ?_, ?_, fun long =>
    ⟨Stores.requeueDue_of_long long, Stores.releaseStale_of_long long⟩, fun reaches =>
    ⟨Stores.requeueDue_of_beforeCalendar reaches, Stores.releaseStale_of_beforeCalendar reaches⟩⟩
  · rw [Stores.claim_eq, Outbox.claim_snd distinct]
  · rw [Stores.markProcessed_eq, Outbox.markProcessed_eq distinct]
  · rw [Stores.markFailed_eq, Outbox.markFailed_eq distinct]
  · intro missing
    rw [Stores.claim_eq, Stores.markProcessed_eq, Stores.markFailed_eq, Outbox.claim_snd distinct,
      Outbox.markProcessed_eq distinct, Outbox.markFailed_eq distinct]
    refine ⟨byId _ (fun y other => ?_) missing, byId _ (fun y other => ?_) missing,
      byId _ (fun y other => ?_) missing⟩ <;> simp [RowUpdate.apply, other]
  · intro cutoff moved
    refine ⟨Stores.requeueDue_of_minus moved, Stores.releaseStale_of_minus moved, ?_⟩
    intro plain y failedTime claimTime
    -- the cutoff is no later than the clock, so in a year no later than 9999
    obtain ⟨cutNanos, earlier⟩ := Instant.minus_ok plain.1 moved
    have cutYear : cutoff.date.year ≤ 9999 :=
      Int.le_trans (Instant.year_le_of_seconds_le earlier) plain.2.2
    exact ⟨Outbox.dueForRetry_iff failedTime cutNanos cutYear,
      Outbox.staleClaim_iff claimTime cutNanos cutYear⟩

/-- A table of a pending, a failed, a claimed and a completed record, on a clock at
2024-05-01T10:00:00Z: the pending record's claim succeeds and a claim of a missing id
changes nothing; a requeue an hour back moves the failure of 2024-01-01T01:00:00Z, and a
release five minutes back frees the claim of 2024-01-01T00:10:00Z; a span a nanosecond
past the longest time delta is the internal error, and the longest one aborts, its
cutoff falling before the calendar. -/
theorem guards_on_four_records :
    let created : Instant := ⟨1704067200, 0⟩
    let pending : OutboxRow := ⟨1, "ScreenPilot", 1, "Insert", .obj [], "Pending", 0, none,
      created, none, none, none, none⟩
    let failed : OutboxRow := ⟨2, "ScreenPilot", 2, "Update", .obj [], "Failed", 1, some "boom",
      created, none, none, none, some ⟨1704070800, 0⟩⟩
    let claimed : OutboxRow := ⟨3, "ScreenPilot", 3, "Delete", .obj [], "Processing", 0, none,
      created, none, none, some ⟨1704067800, 0⟩, none⟩
    let done : OutboxRow := ⟨4, "ScreenPilot", 4, "Insert", .obj [], "Completed", 0, none,
      created, some ⟨1704068000, 0⟩, none, some ⟨1704067900, 0⟩, none⟩
    let s : Stores := ⟨⟨[pending, failed, claimed, done], 4⟩, Replica.empty, .ticking ⟨1714557600, 0⟩⟩
    s.outbox.IdsDistinct ∧ (s.claim 1).1 = true ∧ (s.claim 9).2.outbox = s.outbox ∧
      (s.requeueDue 5 (Span.ofSeconds 3600)).1 = .ok 1 ∧
      (s.releaseStale (Span.ofSeconds 300)).1 = .ok 1 ∧
      (s.requeueDue 5 ⟨Span.maxSecs, Span.maxNanos + 1⟩).1 =
        .error (.failure (.internal ["duration out of range"]
          (.message "Source duration value is out of range for the target type"))) ∧
      (s.releaseStale ⟨Span.maxSecs, Span.maxNanos⟩).1 =
        .error (.abort "`DateTime - TimeDelta` overflowed") := by
  intro created pending failed claimed done s
  have distinct : s.outbox.IdsDistinct := by
    show ([1, 2, 3, 4] : List Int).Nodup
    decide
  have guards := guarded_updates_follow_their_guards s distinct
  have hourBack : s.clock.next.minus (Span.ofSeconds 3600) = .ok ⟨1714554000, 0⟩ := by
    decide +kernel
  have minutesBack : s.clock.next.minus (Span.ofSeconds 300) = .ok ⟨1714557300, 0⟩ := by
    decide +kernel
  have tooLong : (⟨Span.maxSecs, Span.maxNanos + 1⟩ : Span).fits = false := by decide
  have longest : s.clock.next.minus ⟨Span.maxSecs, Span.maxNanos⟩ = .error .beforeCalendar := by
    decide +kernel
  refine ⟨distinct, (guards 1 "" 5 (Span.ofSeconds 0)).1.mpr ⟨pending, by simp [s], rfl, rfl⟩,
    ((guards 9 "" 5 (Span.ofSeconds 0)).2.2.2.2.1 (by decide)).1, ?_, ?_,
    congrArg Prod.fst ((guards 1 "" 5 _).2.2.2.2.2.2.1 tooLong).1,
    congrArg Prod.fst ((guards 1 "" 5 _).2.2.2.2.2.2.2 longest).2⟩
  · -- the failed record is the one row the requeue's guard selects an hour back
    rw [((guards 1 "" 5 _).2.2.2.2.2.1 _ hourBack).1]
    exact congrArg Except.ok (by decide +kernel)
  · rw [((guards 1 "" 5 _).2.2.2.2.2.1 _ minutesBack).2.1]
    exact congrArg Except.ok (by decide +kernel)

/-- A pilot record that failed at 10000-01-01T00:00:00Z, on a clock at
2024-05-01T10:00:00Z: its failure lies after the cutoff of a requeue with no delay, yet the
requeue makes it pending, since its stored failure time starts with `+`. -/
theorem future_failure_is_requeued :
    let failedAt : Instant := ⟨253402300800, 0⟩
    let row : OutboxRow := ⟨1, "ScreenPilot", 1, "Insert", .obj [], "Failed", 0, some "boom",
      ⟨1704067200, 0⟩, none, none, none, some failedAt⟩
    let s : Stores := ⟨⟨[row], 1⟩, Replica.empty, .ticking ⟨1714557600, 0⟩⟩
    failedAt.notAfter s.clock.next = false ∧
      (∃ n, (s.requeueDue 5 (Span.ofSeconds 0)).1 = .ok n ∧ n = 1) ∧
      (s.requeueDue 5 (Span.ofSeconds 0)).2.outbox.rows.map (·.status) = [OutboxStatus.pending.tag] := by
  intro failedAt row s
  have moved : s.clock.next.minus (Span.ofSeconds 0) = .ok s.clock.next := by decide +kernel
  have due : Outbox.dueForRetry 5 s.clock.next row = true := by
    have lateYear : 9999 < failedAt.date.year := by decide
    have nowYear : 0 ≤ s.clock.next.date.year ∧ s.clock.next.date.year ≤ 9999 := by decide
    have textBefore := Instant.storedText_lt_of_year_large lateYear nowYear
    simp only [Outbox.dueForRetry, Instant.storedNotAfter, row, Bool.and_eq_true, decide_eq_true_eq]
    exact ⟨⟨by decide, by decide⟩, String.lt_asymm textBefore⟩
  rw [Stores.requeueDue_of_minus moved]
  refine ⟨by decide, ⟨_, rfl, ?_⟩, ?_⟩
  · simp [s, due]
  · simp [s, Outbox.update, RowUpdate.applyAll, RowUpdate.apply, due]

end OutboxReplicator
