import OutboxReplicator.Proofs.Outbox.ReadOrder
import OutboxReplicator.Proofs.Time.TextRoundTrip
/-!
# Stored times compare as times

The tables store a time as its RFC 3339 text with the fewest exact fraction digits, a
leap second as second 60, a sign on years outside 0 to 9999 and the suffix `+00:00`
(`Instant.storedText`), and compare times as these texts.  That is sound:

* for times in years of four digits the text order is the time order
  (`Instant.storedText_lt_iff`);
* no two times a UTC date-time can name share a text, in any year
  (`Instant.storedText_injective`): the stored text is the entity text with another
  suffix (`Instant.format_suffix`), and the reader reads the entity text back;
* a cutoff taken back from a clock reading of a year of four digits compares with a time
  of such a year as in time, however far back it reaches
  (`Instant.storedNotAfter_minus_iff`): before year 0 its text starts with a minus sign,
  which sorts below every digit.

So the stores' orders are time orders and their cutoff filters select by time
(`stored_text_compares_as_time`).
-/

namespace OutboxReplicator

namespace Instant

/-- A time's text is the text of its fields and fraction, then the style's suffix. -/
theorem format_suffix (style : TimestampStyle) (t : Instant) :
    t.format style = t.format ⟨style.fraction, ""⟩ ++ style.suffix := by
  simp [format]

/-- Two times a UTC date-time names have one stored text only if they are one time: the
stored text less its suffix is the entity text less its own, which the reader reads back. -/
theorem storedText_injective {a b : Instant} (ha : a.Representable) (hb : b.Representable)
    (same : a.storedText = b.storedText) : a = b := by
  have body : a.format ⟨.fewest, ""⟩ = b.format ⟨.fewest, ""⟩ := by
    have texts := congrArg String.toList same
    simp only [storedText, format_suffix TimestampStyle.stored, String.toList_append] at texts
    exact String.toList_inj.mp (List.append_cancel_right texts)
  have entity : a.format .fewest = b.format .fewest := by
    rw [format_suffix TimestampStyle.fewest a, format_suffix TimestampStyle.fewest b]
    exact congrArg (· ++ TimestampStyle.fewest.suffix) body
  have read := parse_format ha
  rw [entity, parse_format hb] at read
  exact (Except.ok.inj read).symm

/-- A cutoff taken back from a clock reading outside a leap second, in a year no later
than 9999, compares with a time of a four-digit year as in time, even when the cutoff
falls before year 0. -/
theorem storedNotAfter_minus_iff {t now c : Instant} {span : Span} (ht : t.FourDigitYear)
    (notLeap : now.nanos < nanosPerSecond) (nowYear : now.date.year ≤ 9999)
    (moved : now.minus span = .ok c) : t.storedNotAfter c = true ↔ t.notAfter c = true := by
  obtain ⟨cNanos, earlier⟩ := minus_ok notLeap moved
  have cYear : c.date.year ≤ 9999 := Int.le_trans (year_le_of_seconds_le earlier) nowYear
  exact storedNotAfter_cutoff_iff ht cNanos cYear

end Instant

/-- Stored times compare as times: the text order is the time order in years of four
digits, a text names one time, and a cutoff taken back from a clock of such a year
compares as in time.  Hence the stores' creation and failure orders are the records'
time orders, and their requeue and release filters select by time. -/
theorem stored_text_compares_as_time :
    (∀ a b : Instant, a.FourDigitYear → b.FourDigitYear →
      (a.storedText < b.storedText ↔ a.before b = true)) ∧
    (∀ a b : Instant, a.Representable → b.Representable → a.storedText = b.storedText → a = b) ∧
    (∀ (t now c : Instant) (span : Span), t.FourDigitYear →
      now.nanos < Instant.nanosPerSecond → now.date.year ≤ 9999 → now.minus span = .ok c →
      (t.storedNotAfter c = true ↔ t.notAfter c = true)) ∧
    (∀ x y : OutboxRecord, x.createdAt.FourDigitYear → y.createdAt.FourDigitYear →
      x.fifoBefore y = Outbox.createdOrder x.toRow y.toRow) ∧
    (∀ x y : OutboxRecord, (∀ t, x.failedAt = some t → t.FourDigitYear) →
      (∀ t, y.failedAt = some t → t.FourDigitYear) →
      x.latestFailureFirst y = Outbox.failedOrder x.toRow y.toRow) ∧
    (∀ (y : OutboxRow) (maxRetry : Int) (now c : Instant) (span : Span),
      (∀ t, y.failedAt = some t → t.FourDigitYear) → now.nanos < Instant.nanosPerSecond →
      now.date.year ≤ 9999 → now.minus span = .ok c →
      (Outbox.dueForRetry maxRetry c y = true ↔ y.status = OutboxStatus.failed.tag ∧
        y.retryCount < maxRetry ∧ ∃ t, y.failedAt = some t ∧ t.notAfter c = true)) ∧
    (∀ (y : OutboxRow) (now c : Instant) (span : Span),
      (∀ t, y.claimedAt = some t → t.FourDigitYear) → now.nanos < Instant.nanosPerSecond →
      now.date.year ≤ 9999 → now.minus span = .ok c →
      (Outbox.staleClaim c y = true ↔ y.status = OutboxStatus.processing.tag ∧
        ∃ t, y.claimedAt = some t ∧ t.notAfter c = true)) := by
  refine ⟨fun a b ha hb => Instant.storedText_lt_iff ha hb,
    fun a b ha hb same => Instant.storedText_injective ha hb same,
    fun t now c span ht notLeap nowYear moved =>
      Instant.storedNotAfter_minus_iff ht notLeap nowYear moved,
    fun x y hx hy => OutboxRecord.fifoBefore_eq_createdOrder hx hy,
    fun x y hx hy => OutboxRecord.latestFailureFirst_eq_failedOrder hx hy, ?_, ?_⟩
  · intro y maxRetry now c span failedTime notLeap nowYear moved
    obtain ⟨cNanos, earlier⟩ := Instant.minus_ok notLeap moved
    exact Outbox.dueForRetry_iff failedTime cNanos
      (Int.le_trans (Instant.year_le_of_seconds_le earlier) nowYear)
  · intro y now c span claimTime notLeap nowYear moved
    obtain ⟨cNanos, earlier⟩ := Instant.minus_ok notLeap moved
    exact Outbox.staleClaim_iff claimTime cNanos
      (Int.le_trans (Instant.year_le_of_seconds_le earlier) nowYear)

/-- A cutoff 10^11 seconds back from the first second of 1970 lies before year 0, and a
time of 1970 is after it in text as in time. -/
theorem cutoff_before_year_zero_compares :
    (⟨0, 0⟩ : Instant).FourDigitYear ∧ (⟨0, 0⟩ : Instant).nanos < Instant.nanosPerSecond ∧
      (⟨0, 0⟩ : Instant).date.year ≤ 9999 ∧
      (⟨0, 0⟩ : Instant).minus (Span.ofSeconds 100000000000) = .ok ⟨-100000000000, 0⟩ ∧
      (⟨-100000000000, 0⟩ : Instant).date.year < 0 ∧
      ((⟨0, 0⟩ : Instant).storedNotAfter ⟨-100000000000, 0⟩ = true ↔
        (⟨0, 0⟩ : Instant).notAfter ⟨-100000000000, 0⟩ = true) := by
  have time : (⟨0, 0⟩ : Instant).FourDigitYear := by decide +kernel
  have moved : (⟨0, 0⟩ : Instant).minus (Span.ofSeconds 100000000000) = .ok ⟨-100000000000, 0⟩ := by
    decide +kernel
  exact ⟨time, by decide, by decide +kernel, moved, by decide +kernel,
    stored_text_compares_as_time.2.2.1 ⟨0, 0⟩ ⟨0, 0⟩ ⟨-100000000000, 0⟩
      (Span.ofSeconds 100000000000) time (by decide) (by decide +kernel) moved⟩

end OutboxReplicator
