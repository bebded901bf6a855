import OutboxReplicator.Proofs.Time.TextOrder
import OutboxReplicator.Proofs.Time.TextRoundTrip
import OutboxReplicator.Outbox.Record
/-!
# Record times in milliseconds

Outbox records write each time as RFC 3339 text with exactly three fraction digits and
`Z` (`OutboxRecord.stampMillis`), and a missing time as `null`.  The digits are cut, not
rounded: a time writes the text of the time cut to whole milliseconds
(`Instant.truncMillis`, `Instant.format_millis_truncMillis`).  For the times a UTC
date-time can name (`Instant.Representable`):

* in a year of four digits the text is the 24 characters `YYYY-MM-DDTHH:MM:SS.mmmZ`
  (`Instant.millisText_spells`), whose seconds are 60 exactly in a leap second
  (`Instant.shownSecond_eq_sixty_iff`);
* the reader reads the text back as the time cut to milliseconds, in every year
  (`Instant.parse_format_millis`);
* in years of four digits a time no later than another has a text no greater
  (`Instant.millisText_le_of_notAfter`).  Cutting keeps the order of times
  (`Instant.truncMillis_notAfter`), and between cut times the text order is the time
  order (`Instant.millisText_lt_of_before`).

The text is the stored text with another fraction and suffix, so the order follows the
argument of `Instant.storedText_lt_of_before`: a later minute decides within the first
sixteen characters, and within one minute the second shown, then the milliseconds.
-/

namespace OutboxReplicator

namespace Instant

/-! ## Cutting to whole milliseconds -/

/-- The instant cut to whole milliseconds. -/
def truncMillis (t : Instant) : Instant := ⟨t.seconds, t.nanos / 1000000 * 1000000⟩

@[simp] theorem truncMillis_seconds (t : Instant) : t.truncMillis.seconds = t.seconds := rfl

@[simp] theorem truncMillis_nanos (t : Instant) :
    t.truncMillis.nanos = t.nanos / 1000000 * 1000000 := rfl

@[simp] theorem truncMillis_date (t : Instant) : t.truncMillis.date = t.date := rfl

@[simp] theorem truncMillis_secondOfDay (t : Instant) :
    t.truncMillis.secondOfDay = t.secondOfDay := rfl

/-- A cut time is in a leap second when the time is: a second is a whole number of
milliseconds. -/
theorem leap_truncMillis (t : Instant) :
    nanosPerSecond ≤ t.truncMillis.nanos ↔ nanosPerSecond ≤ t.nanos := by
  simp only [truncMillis_nanos, nanosPerSecond]
  omega

theorem truncMillis_shownSecond (t : Instant) : t.truncMillis.shownSecond = t.shownSecond := by
  simp only [shownSecond, truncMillis_secondOfDay, leap_truncMillis]

theorem truncMillis_shownNanos (t : Instant) :
    t.truncMillis.shownNanos = t.shownNanos / 1000000 * 1000000 := by
  by_cases leap : nanosPerSecond ≤ t.nanos
  · rw [shownNanos, shownNanos, if_pos ((leap_truncMillis t).mpr leap), if_pos leap,
      truncMillis_nanos]
    unfold nanosPerSecond at leap ⊢
    omega
  · rw [shownNanos, shownNanos, if_neg (mt (leap_truncMillis t).mp leap), if_neg leap,
      truncMillis_nanos]

/-- Cutting keeps the order of times. -/
theorem truncMillis_notAfter {a b : Instant} (le : a.notAfter b = true) :
    a.truncMillis.notAfter b.truncMillis = true := by
  simp only [notAfter, before, Bool.not_eq_true', decide_eq_false_iff_not] at le ⊢
  simp only [truncMillis_seconds, truncMillis_nanos]
  omega

theorem Representable.truncMillis {t : Instant} (representable : t.Representable) :
    t.truncMillis.Representable where
  inCalendar := representable.inCalendar
  nanos_lt := by
    have nanos := representable.nanos_lt
    simp only [truncMillis_nanos]
    omega
  leap_last leap := representable.leap_last ((leap_truncMillis t).mp leap)

theorem FourDigitYear.nanos_lt {t : Instant} (h : t.FourDigitYear) :
    t.nanos < 2 * nanosPerSecond := by
  obtain ⟨-, -, nanos⟩ := h
  omega

theorem FourDigitYear.truncMillis {t : Instant} (h : t.FourDigitYear) :
    t.truncMillis.FourDigitYear := by
  obtain ⟨yearLow, yearHigh, nanos⟩ := h
  refine ⟨yearLow, yearHigh, ?_⟩
  simp only [truncMillis_nanos, truncMillis_seconds]
  unfold nanosPerSecond at nanos ⊢
  omega

theorem Representable.fourDigitYear {t : Instant} (representable : t.Representable)
    (year : 0 ≤ t.date.year ∧ t.date.year ≤ 9999) : t.FourDigitYear := by
  refine ⟨year.1, year.2, ?_⟩
  by_cases leap : nanosPerSecond ≤ t.nanos
  · exact .inr ⟨representable.nanos_lt, representable.leap_last leap⟩
  · exact .inl (Nat.lt_of_not_le leap)

/-! ## The text -/

theorem fractionText_millis_toList {n : Nat} (lt : n < nanosPerSecond) :
    (fractionText .millis n).toList = '.' :: decimalDigits 3 (n / 1000000) := by
  have fits : n / 1000000 < Nat.pow 10 3 := by
    unfold nanosPerSecond at lt
    show _ < 1000
    omega
  simp only [fractionText, String.toList_append, padNat_toList (by decide) fits]
  rfl

theorem shownNanos_lt {t : Instant} (nanos : t.nanos < 2 * nanosPerSecond) :
    t.shownNanos < nanosPerSecond := by
  unfold shownNanos
  split <;> omega

/-- The text of a time in a year of four digits: its minute, the second shown, a point,
three digits of milliseconds and `Z`. -/
theorem millisText_toList {t : Instant} (year : 0 ≤ t.date.year ∧ t.date.year ≤ 9999)
    (nanos : t.nanos < 2 * nanosPerSecond) :
    (t.format .millis).toList = t.minuteDigits ++ ':' :: (decimalDigits 2 t.shownSecond ++
      '.' :: (decimalDigits 3 (t.shownNanos / 1000000) ++ ['Z'])) := by
  rw [format_toList_minute .millis year]
  simp only [TimestampStyle.millis, fractionText_millis_toList (shownNanos_lt nanos)]
  rfl

/-- The text of a time in a year of four digits, field by field:
`YYYY-MM-DDTHH:MM:SS.mmmZ`. -/
theorem millisText_spells {t : Instant} (year : 0 ≤ t.date.year ∧ t.date.year ≤ 9999)
    (nanos : t.nanos < 2 * nanosPerSecond) :
    (t.format .millis).toList =
      decimalDigits 4 t.date.year.toNat ++ '-' :: (decimalDigits 2 t.date.month ++ '-' ::
        (decimalDigits 2 t.date.day ++ 'T' :: (decimalDigits 2 (t.secondOfDay / 3600) ++ ':' ::
          (decimalDigits 2 (t.secondOfDay / 60 % 60) ++ ':' :: (decimalDigits 2 t.shownSecond ++
            '.' :: (decimalDigits 3 (t.shownNanos / 1000000) ++ ['Z'])))))) := by
  rw [millisText_toList year nanos]
  simp [minuteDigits]

example : (⟨1676113740, 0⟩ : Instant).format .millis = "2023-02-11T11:09:00.000Z" := by
  decide +kernel

theorem length_millisText {t : Instant} (year : 0 ≤ t.date.year ∧ t.date.year ≤ 9999)
    (nanos : t.nanos < 2 * nanosPerSecond) : (t.format .millis).length = 24 := by
  rw [← String.length_toList, millisText_toList year nanos]
  simp [minuteDigits_length]

/-- The seconds shown are 60 exactly in a leap second. -/
theorem shownSecond_eq_sixty_iff {t : Instant} (representable : t.Representable) :
    t.shownSecond = 60 ↔ nanosPerSecond ≤ t.nanos := by
  unfold shownSecond
  by_cases leap : nanosPerSecond ≤ t.nanos
  · have last := representable.leap_last leap
    simp only [leap, if_true, iff_true]
    unfold secondOfDay
    omega
  · simp only [leap, if_false, iff_false]
    unfold secondOfDay
    omega

/-- A time writes the text of the time cut to whole milliseconds. -/
theorem format_millis_truncMillis (t : Instant) :
    t.truncMillis.format .millis = t.format .millis := by
  have millis : fractionText TimestampStyle.millis.fraction t.truncMillis.shownNanos =
      fractionText TimestampStyle.millis.fraction t.shownNanos := by
    rw [truncMillis_shownNanos]
    simp only [TimestampStyle.millis, fractionText, Nat.mul_div_cancel _ (by decide : 0 < 1000000)]
  rw [format_shown, format_shown, truncMillis_date, truncMillis_secondOfDay,
    truncMillis_shownSecond, millis]

example : (⟨1483228799, 1999999999⟩ : Instant).format .millis = "2016-12-31T23:59:60.999Z" := by
  decide +kernel

end Instant

/-! ## Reading the text back -/

namespace TimestampScan

/-- Three digits of milliseconds after a point read as their nanoseconds. -/
theorem fraction_millis {m : Nat} (small : m < 1000) {rest : List Char} (ends : EndsNumber rest) :
    fraction ('.' :: (decimalDigits 3 m ++ rest)) = .ok (m * 1000000, rest) := by
  have nonempty : decimalDigits 3 m ≠ [] := List.ne_nil_of_length_pos (by simp)
  have value : digitValue (decimalDigits 3 m) = m := by
    rw [digitValue_decimalDigits]
    exact Nat.mod_eq_of_lt small
  -- what follows the digits is no digit, so skipping further digits keeps it
  have kept : rest.dropWhile Char.isDigit = rest := by
    cases rest with
    | nil => rfl
    | cons c more => exact List.dropWhile_cons_of_neg (by simp [ends c more rfl])
  unfold fraction
  rw [bind_ok (get_run _)]
  simp only
  rw [bind_ok (set_run _ _), bind_ok (digits_append nonempty
      (fun _ => isDigit_of_mem_decimalDigits) (by simp) ends),
    bind_ok (modify_run _ _)]
  simp only [kept, length_decimalDigits, value]
  rfl

end TimestampScan

namespace Instant

/-- The fields an instant writes, with the second and the nanoseconds it shows. -/
theorem writtenFields_shown (t : Instant) :
    t.writtenFields = ⟨t.date.year, t.date.month, t.date.day, t.secondOfDay / 3600,
      t.secondOfDay / 60 % 60, t.shownSecond, t.shownNanos, 0⟩ :=
  rfl

/-- Cutting a time cuts the nanoseconds it writes and keeps its other fields. -/
theorem writtenFields_truncMillis (t : Instant) :
    t.truncMillis.writtenFields =
      { t.writtenFields with nanos := t.writtenFields.nanos / 1000000 * 1000000 } := by
  rw [writtenFields_shown, writtenFields_shown, truncMillis_date, truncMillis_secondOfDay,
    truncMillis_shownSecond, truncMillis_shownNanos]

/-- The reader scans the text of a time a date-time names into the written fields of the
time cut to milliseconds, with nothing left over. -/
theorem scan_format_millis {t : Instant} (representable : t.Representable) :
    TimestampScan.fields (t.format .millis).toList = .ok (t.truncMillis.writtenFields, []) := by
  have nanos := representable.writtenNanos_lt
  have millis : (fractionText TimestampStyle.millis.fraction t.writtenFields.nanos).toList =
      '.' :: decimalDigits 3 (t.writtenFields.nanos / 1000000) :=
    fractionText_millis_toList nanos
  have small : t.writtenFields.nanos / 1000000 < 1000 := by
    unfold nanosPerSecond at nanos
    omega
  rw [writtenFields_truncMillis]
  refine scan_format_of_fraction representable rfl ?afterSeconds ?readFraction
  case afterSeconds =>
    rw [millis]
    exact TimestampScan.endsNumber_cons (by decide)
  case readFraction =>
    rw [millis]
    exact TimestampScan.fraction_millis small (TimestampScan.endsNumber_cons (by decide))

/-- The reader reads the text of every time a UTC date-time names back as the time cut
to whole milliseconds. -/
theorem parse_format_millis {t : Instant} (representable : t.Representable) :
    parse (t.format .millis) = .ok t.truncMillis :=
  parse_of_fields (scan_format_millis representable)
    (toInstant_writtenFields representable.truncMillis)

/-! ## Text order and time order -/

variable {a b : Instant}

/-- In years of four digits, a time cut earlier than another has a smaller text. -/
theorem millisText_lt_of_before (ha : a.FourDigitYear) (hb : b.FourDigitYear)
    (before : a.truncMillis.before b.truncMillis = true) :
    a.format .millis < b.format .millis := by
  have minute : a.seconds / 60 ≤ b.seconds / 60 := by
    simp only [Instant.before, decide_eq_true_eq] at before
    simp only [truncMillis_seconds] at before
    omega
  rw [String.lt_iff, millisText_toList ⟨ha.1, ha.2.1⟩ ha.nanos_lt,
    millisText_toList ⟨hb.1, hb.2.1⟩ hb.nanos_lt]
  refine minuteDigits_append_lt ha.1 ⟨hb.1, hb.2.1⟩ minute fun sameMinute => ?_
  refine List.cons_lt_cons_iff.mpr (.inr ⟨rfl, ?_⟩)
  -- within the minute the cut times differ in the second shown or in the milliseconds
  rcases shown_lt ha.truncMillis hb.truncMillis sameMinute before with
    second | ⟨sameSecond, fraction, -⟩
  · rw [truncMillis_shownSecond, truncMillis_shownSecond] at second
    exact decimalDigits_append_lt b.shownSecond_lt (.inl second)
  · rw [truncMillis_shownSecond, truncMillis_shownSecond] at sameSecond
    rw [truncMillis_shownNanos, truncMillis_shownNanos] at fraction
    have millis : a.shownNanos / 1000000 < b.shownNanos / 1000000 := by omega
    have millisFits : b.shownNanos / 1000000 < Nat.pow 10 3 := by
      have fits := shownNanos_lt hb.nanos_lt
      unfold nanosPerSecond at fits
      show _ < 1000
      omega
    exact decimalDigits_append_lt b.shownSecond_lt (.inr ⟨sameSecond,
      List.cons_lt_cons_iff.mpr (.inr ⟨rfl, decimalDigits_append_lt millisFits (.inl millis)⟩)⟩)

/-- In years of four digits, a time no later than another has a text no greater. -/
theorem millisText_le_of_notAfter (ha : a.FourDigitYear) (hb : b.FourDigitYear)
    (le : a.notAfter b = true) : a.format .millis ≤ b.format .millis := by
  rcases before_trichotomy a.truncMillis b.truncMillis with earlier | same | later
  · exact String.not_lt.mp (String.lt_asymm (millisText_lt_of_before ha hb earlier))
  · have text : a.format .millis = b.format .millis := by
      rw [← format_millis_truncMillis a, ← format_millis_truncMillis b, same]
    exact String.not_lt.mp (by rw [text]; exact String.lt_irrefl _)
  · -- cutting keeps the order, so the cut of `b` is not before the cut of `a`
    have kept := truncMillis_notAfter le
    simp only [notAfter, later, Bool.not_true, Bool.false_eq_true] at kept

end Instant

/-- Record times are written as the time cut to whole milliseconds.  For a time a UTC
date-time names in a year of four digits, the text is the 24 characters
`YYYY-MM-DDTHH:MM:SS.mmmZ` of its date, its time of day with a leap second as second 60,
and its milliseconds cut, not rounded: the text of the cut time.  The reader reads the
text of every such time back as the cut time, and in years of four digits a time no later
than another has a text no greater.  A missing time is written as `null`. -/
theorem millis_text_is_an_ordered_truncation :
    (∀ t : Instant, t.Representable → 0 ≤ t.date.year ∧ t.date.year ≤ 9999 →
      (t.format .millis).toList =
        decimalDigits 4 t.date.year.toNat ++ '-' :: (decimalDigits 2 t.date.month ++ '-' ::
          (decimalDigits 2 t.date.day ++ 'T' :: (decimalDigits 2 (t.secondOfDay / 3600) ++ ':' ::
            (decimalDigits 2 (t.secondOfDay / 60 % 60) ++ ':' :: (decimalDigits 2 t.shownSecond ++
              '.' :: (decimalDigits 3 (t.shownNanos / 1000000) ++ ['Z'])))))) ∧
      (t.format .millis).length = 24 ∧
      (t.shownSecond = 60 ↔ Instant.nanosPerSecond ≤ t.nanos) ∧
      t.truncMillis.format .millis = t.format .millis) ∧
    (∀ t : Instant, t.Representable → Instant.parse (t.format .millis) = .ok t.truncMillis) ∧
    (∀ a b : Instant, a.Representable → b.Representable →
      0 ≤ a.date.year ∧ a.date.year ≤ 9999 → 0 ≤ b.date.year ∧ b.date.year ≤ 9999 →
      a.notAfter b = true → a.format .millis ≤ b.format .millis) ∧
    optStamp OutboxRecord.stampMillis none = .null ∧
    (∀ t : Instant, optStamp OutboxRecord.stampMillis (some t) = .string (t.format .millis)) := by
  refine ⟨fun t representable year => ?_, fun _ representable =>
    Instant.parse_format_millis representable, fun _ _ ha hb yearA yearB le =>
      Instant.millisText_le_of_notAfter (ha.fourDigitYear yearA) (hb.fourDigitYear yearB) le,
    rfl, fun _ => rfl⟩
  exact ⟨Instant.millisText_spells year representable.nanos_lt,
    Instant.length_millisText year representable.nanos_lt,
    Instant.shownSecond_eq_sixty_iff representable, Instant.format_millis_truncMillis t⟩

/-- The last nanosecond of the leap second that closed 2016 is written as second 60 in 24
characters, reads back cut to its millisecond, and is written no lower than the last
nanosecond before the leap. -/
theorem leap_second_millis_text :
    (⟨1483228799, 1999999999⟩ : Instant).Representable ∧
      (⟨1483228799, 999999999⟩ : Instant).Representable ∧
      (⟨1483228799, 1999999999⟩ : Instant).date.year = 2016 ∧
      (⟨1483228799, 999999999⟩ : Instant).date.year = 2016 ∧
      (⟨1483228799, 1999999999⟩ : Instant).shownSecond = 60 ∧
      ((⟨1483228799, 1999999999⟩ : Instant).format .millis).length = 24 ∧
      Instant.parse ((⟨1483228799, 1999999999⟩ : Instant).format .millis) =
        .ok ⟨1483228799, 1999000000⟩ ∧
      (⟨1483228799, 999999999⟩ : Instant).format .millis ≤
        (⟨1483228799, 1999999999⟩ : Instant).format .millis := by
  have leap : (⟨1483228799, 1999999999⟩ : Instant).Representable :=
    ⟨by decide +kernel, by decide, fun _ => by decide⟩
  have last : (⟨1483228799, 999999999⟩ : Instant).Representable :=
    ⟨by decide +kernel, by decide, fun _ => by decide⟩
  have leapYear : (⟨1483228799, 1999999999⟩ : Instant).date.year = 2016 := by decide +kernel
  have lastYear : (⟨1483228799, 999999999⟩ : Instant).date.year = 2016 := by decide +kernel
  have fourDigits : ∀ t : Instant, t.date.year = 2016 → 0 ≤ t.date.year ∧ t.date.year ≤ 9999 :=
    fun _ year => by rw [year]; decide
  obtain ⟨text, read, order, -, -⟩ := millis_text_is_an_ordered_truncation
  obtain ⟨-, length, sixty, -⟩ := text _ leap (fourDigits _ leapYear)
  exact ⟨leap, last, leapYear, lastYear, sixty.mpr (by decide), length, read _ leap,
    order _ _ last leap (fourDigits _ lastYear) (fourDigits _ leapYear) (by decide)⟩

end OutboxReplicator
