import OutboxReplicator.Proofs.Time.StoredOrder
/-!
# Stored text order is time order, leap seconds included

The tables compare times as their stored text.  `Instant.storedText_lt` shows a later
time has a greater text for times outside a leap second.  Times written by a reader
may fall in a leap second, which follows second 59 of its minute and is written as
second 60.  For every time in a year of four digits that keeps this rule
(`Instant.FourDigitYear`) the text order is the time order:

* `Instant.storedText_lt_iff`: one text is below another exactly when its time is
  earlier;
* `Instant.storedText_eq_iff`: two such times have one text only if they are one time;
* `Instant.storedNotAfter_iff`: the tables' "not after" is the time's.

The text is cut after the minute (`Instant.minuteDigits`); a later minute decides
there, and within one minute the second shown (60 in a leap second) and then the
fraction decide.
-/

namespace OutboxReplicator

namespace Instant

/-- A time whose stored text orders as the time: in a year written with four digits, and
in a leap second only after second 59 of its minute, as the reader gives leap seconds. -/
def FourDigitYear (t : Instant) : Prop :=
  0 ≤ t.date.year ∧ t.date.year ≤ 9999 ∧
    (t.nanos < nanosPerSecond ∨ t.nanos < 2 * nanosPerSecond ∧ t.seconds % 60 = 59)

theorem Plain.fourDigitYear {t : Instant} (plain : t.Plain) : t.FourDigitYear :=
  ⟨plain.2.1, plain.2.2, .inl plain.1⟩

/-! ## The order of instants -/

theorem before_trichotomy (a b : Instant) : a.before b = true ∨ a = b ∨ b.before a = true := by
  obtain ⟨s₁, n₁⟩ := a
  obtain ⟨s₂, n₂⟩ := b
  simp only [before, decide_eq_true_eq, mk.injEq]
  omega

theorem before_asymm {a b : Instant} (ab : a.before b = true) : b.before a = false := by
  simp only [before, decide_eq_true_eq, decide_eq_false_iff_not] at ab ⊢
  omega

theorem before_trans {a b c : Instant} (ab : a.before b = true) (bc : b.before c = true) :
    a.before c = true := by
  simp only [before, decide_eq_true_eq] at ab bc ⊢
  omega

/-- A later time is in a year no smaller. -/
theorem year_le_of_seconds_le {a b : Instant} (le : a.seconds ≤ b.seconds) :
    a.date.year ≤ b.date.year := by
  have days : a.seconds / 86400 ≤ b.seconds / 86400 := Int.ediv_le_ediv (by decide) le
  rcases Int.lt_or_eq_of_le days with laterDay | sameDay
  · have before : a.date.Before b.date := Date.ofDays_before laterDay
    rcases before with year | ⟨sameYear, -⟩
    · exact Int.le_of_lt year
    · exact Int.le_of_eq sameYear
  · exact Int.le_of_eq (by unfold date; rw [sameDay])

/-! ## The text cut after the minute -/

/-- The date, hour and minute of an instant as its stored text writes them. -/
def minuteDigits (t : Instant) : List Char :=
  decimalDigits 4 t.date.year.toNat ++ '-' :: (decimalDigits 2 t.date.month ++ '-' ::
    (decimalDigits 2 t.date.day ++ 'T' :: (decimalDigits 2 (t.secondOfDay / 3600) ++ ':' ::
      decimalDigits 2 (t.secondOfDay / 60 % 60))))

/-- The second of its minute that the stored text writes: 60 in a leap second. -/
def shownSecond (t : Instant) : Nat :=
  t.secondOfDay % 60 + if nanosPerSecond ≤ t.nanos then 1 else 0

/-- The nanoseconds the stored text writes after the second. -/
def shownNanos (t : Instant) : Nat :=
  if nanosPerSecond ≤ t.nanos then t.nanos - nanosPerSecond else t.nanos

theorem minuteDigits_length (t : Instant) : t.minuteDigits.length = 16 := by
  simp [minuteDigits]

theorem shownSecond_lt (t : Instant) : t.shownSecond < Nat.pow 10 2 := by
  show _ < 100
  unfold shownSecond
  split <;> omega

/-- The text of an instant in a style, with the second and the nanoseconds it shows. -/
theorem format_shown (style : TimestampStyle) (t : Instant) :
    t.format style = yearText t.date.year ++ "-" ++ padNat 2 t.date.month ++ "-" ++
      padNat 2 t.date.day ++ "T" ++ padNat 2 (t.secondOfDay / 3600) ++ ":" ++
      padNat 2 (t.secondOfDay / 60 % 60) ++ ":" ++ padNat 2 t.shownSecond ++
      fractionText style.fraction t.shownNanos ++ style.suffix :=
  rfl

/-- The text of a time in a year of four digits, in any style: its minute, its second,
its fraction and the style's suffix. -/
theorem format_toList_minute (style : TimestampStyle) {t : Instant}
    (year : 0 ≤ t.date.year ∧ t.date.year ≤ 9999) :
    (t.format style).toList = t.minuteDigits ++ ':' :: (decimalDigits 2 t.shownSecond ++
      ((fractionText style.fraction t.shownNanos).toList ++ style.suffix.toList)) := by
  obtain ⟨yearLow, yearHigh⟩ := year
  have month : 1 ≤ t.date.month ∧ t.date.month ≤ 12 := Date.ofDays_month_range _
  have day : 1 ≤ t.date.day ∧ t.date.day ≤ 31 := Date.ofDays_day_range _
  have inDay : t.secondOfDay < 86400 := by
    unfold secondOfDay
    omega
  have yearFour : yearText t.date.year = padNat 4 t.date.year.toNat := by
    simp [yearText, yearLow, yearHigh]
  rw [format_shown]
  simp only [String.toList_append, yearFour,
    padNat_toList (by decide : 0 < 4) (show t.date.year.toNat < Nat.pow 10 4 by
      show _ < 10000
      omega),
    padNat_two (show t.date.month < 100 by omega), padNat_two (show t.date.day < 100 by omega),
    padNat_two (show t.secondOfDay / 3600 < 100 by omega),
    padNat_two (show t.secondOfDay / 60 % 60 < 100 by omega), padNat_two t.shownSecond_lt]
  simp [minuteDigits]

/-- The stored text of a time in a year of four digits: its minute, its second, its
fraction and the UTC suffix. -/
theorem storedText_toList_minute {t : Instant} (year : 0 ≤ t.date.year ∧ t.date.year ≤ 9999) :
    t.storedText.toList = t.minuteDigits ++ ':' :: (decimalDigits 2 t.shownSecond ++
      ((fractionText .fewest t.shownNanos).toList ++ '+' :: "00:00".toList)) := by
  rw [storedText, format_toList_minute .stored year]
  rfl

/-- Times in one minute write one date, hour and minute. -/
theorem minuteDigits_eq {a b : Instant} (sameMinute : a.seconds / 60 = b.seconds / 60) :
    a.minuteDigits = b.minuteDigits := by
  have sameDay : a.seconds / 86400 = b.seconds / 86400 := by omega
  have sameHour : a.secondOfDay / 3600 = b.secondOfDay / 3600 := by
    unfold secondOfDay
    omega
  have sameMinuteOfHour : a.secondOfDay / 60 % 60 = b.secondOfDay / 60 % 60 := by
    unfold secondOfDay
    omega
  simp only [minuteDigits, date, sameDay, sameHour, sameMinuteOfHour]

/-- A later minute has a greater date, hour and minute: by the calendar on a later day, by
the time of day on the same day. -/
theorem minuteDigits_lt {a b : Instant} (yearLow : 0 ≤ a.date.year)
    (yearB : 0 ≤ b.date.year ∧ b.date.year ≤ 9999) (lt : a.seconds / 60 < b.seconds / 60) :
    a.minuteDigits < b.minuteDigits := by
  have month : 1 ≤ b.date.month ∧ b.date.month ≤ 12 := Date.ofDays_month_range _
  have day : 1 ≤ b.date.day ∧ b.date.day ≤ 31 := Date.ofDays_day_range _
  have yearFits : b.date.year.toNat < Nat.pow 10 4 := show _ < 10000 by omega
  have monthFits : b.date.month < Nat.pow 10 2 := show _ < 100 by omega
  have dayFits : b.date.day < Nat.pow 10 2 := show _ < 100 by omega
  have days : a.seconds / 86400 ≤ b.seconds / 86400 := by omega
  unfold minuteDigits
  rcases Int.lt_or_eq_of_le days with laterDay | sameDay
  · have before : a.date.Before b.date := Date.ofDays_before laterDay
    obtain year | ⟨sameYear, month | ⟨sameMonth, day⟩⟩ := before
    · exact field_lt yearFits '-' (.inl (by omega))
    · exact field_lt yearFits '-' (.inr ⟨by rw [sameYear], field_lt monthFits '-' (.inl month)⟩)
    · exact field_lt yearFits '-' (.inr ⟨by rw [sameYear], field_lt monthFits '-'
        (.inr ⟨sameMonth, decimalDigits_append_lt dayFits (.inl day)⟩)⟩)
  · -- on the same day the hour decides, then the minute
    have sameDate : a.date = b.date := by
      unfold date
      rw [sameDay]
    have later : a.secondOfDay / 60 < b.secondOfDay / 60 := by
      unfold secondOfDay
      omega
    have inDay : b.secondOfDay < 86400 := by
      unfold secondOfDay
      omega
    rw [sameDate]
    refine field_lt yearFits '-' (.inr ⟨rfl, field_lt monthFits '-' (.inr ⟨rfl,
      field_lt dayFits 'T' (.inr ⟨rfl, ?_⟩)⟩)⟩)
    refine field_lt (show _ < 100 by omega) ':' ?_
    rcases Nat.lt_or_ge (a.secondOfDay / 3600) (b.secondOfDay / 3600) with hour | hour
    · exact .inl hour
    · exact .inr ⟨by omega, decimalDigits_lt (by omega) (show _ < 100 by omega)⟩

/-- Texts that start with the minutes of two times compare by the minute first: a later
minute has the greater text, and within one minute what follows decides. -/
theorem minuteDigits_append_lt {a b : Instant} (yearLow : 0 ≤ a.date.year)
    (yearB : 0 ≤ b.date.year ∧ b.date.year ≤ 9999) (minute : a.seconds / 60 ≤ b.seconds / 60)
    {r₁ r₂ : List Char} (within : a.seconds / 60 = b.seconds / 60 → r₁ < r₂) :
    a.minuteDigits ++ r₁ < b.minuteDigits ++ r₂ := by
  rcases Int.lt_or_eq_of_le minute with laterMinute | sameMinute
  · exact append_lt_append_of_lt (by simp [minuteDigits_length])
      (minuteDigits_lt yearLow yearB laterMinute) _ _
  · rw [minuteDigits_eq sameMinute]
    exact List.append_left_lt (within sameMinute)

/-- Within one minute, a later time shows a later second, or the same second and a later
fraction within it. -/
theorem shown_lt {a b : Instant} (ha : a.FourDigitYear) (hb : b.FourDigitYear)
    (sameMinute : a.seconds / 60 = b.seconds / 60) (before : a.before b = true) :
    a.shownSecond < b.shownSecond ∨
      a.shownSecond = b.shownSecond ∧ a.shownNanos < b.shownNanos ∧ b.shownNanos < nanosPerSecond := by
  obtain ⟨-, -, validA⟩ := ha
  obtain ⟨-, -, validB⟩ := hb
  simp only [Instant.before, decide_eq_true_eq] at before
  unfold shownSecond shownNanos secondOfDay
  simp only [nanosPerSecond] at validA validB ⊢
  -- each time is in a leap second or not
  by_cases leapA : 1000000000 ≤ a.nanos <;> by_cases leapB : 1000000000 ≤ b.nanos <;>
    simp only [leapA, leapB, if_true, if_false] <;> omega

/-! ## Years before the calendar's first four-digit year -/

theorem minus_lt_of_zero_le {c : Char} (digit : '0' ≤ c) : '-' < c := by
  rw [Char.le_def, UInt32.le_iff_toNat_le] at digit
  apply char_lt_of_toNat_lt
  exact Nat.lt_of_lt_of_le (by decide) digit

theorem storedText_head_of_year_neg {c : Instant} (neg : c.date.year < 0) :
    ∃ rest, c.storedText.toList = '-' :: rest := by
  have notFour : ¬ (0 ≤ c.date.year ∧ c.date.year ≤ 9999) := fun ⟨low, _⟩ => by omega
  simp only [storedText, format, yearText, notFour, if_false, neg, if_true, String.toList_append]
  exact ⟨_, rfl⟩

theorem storedText_head_of_fourDigitYear {t : Instant} (year : 0 ≤ t.date.year ∧ t.date.year ≤ 9999) :
    ∃ d rest, t.storedText.toList = d :: rest ∧ '0' ≤ d := by
  rw [storedText_toList_minute year, minuteDigits]
  cases digits : decimalDigits 4 t.date.year.toNat with
  | nil => simpa using congrArg List.length digits
  | cons d rest =>
    exact ⟨d, _, rfl, zero_le_of_mem_decimalDigits (digits ▸ List.mem_cons_self)⟩

/-- A time before year 0 has a smaller stored text than a time in a year of four digits:
its text starts with a minus sign, the other's with a digit. -/
theorem storedText_lt_of_year_neg {c t : Instant} (neg : c.date.year < 0)
    (year : 0 ≤ t.date.year ∧ t.date.year ≤ 9999) : c.storedText < t.storedText := by
  obtain ⟨rest, cText⟩ := storedText_head_of_year_neg neg
  obtain ⟨d, rest', tText, digit⟩ := storedText_head_of_fourDigitYear year
  rw [String.lt_iff, cText, tText]
  exact List.cons_lt_cons_iff.mpr (.inl (minus_lt_of_zero_le digit))

/-! ## Text order and time order -/

variable {a b : Instant}

/-- A later time in a year of four digits has a greater stored text. -/
theorem storedText_lt_of_before (ha : a.FourDigitYear) (hb : b.FourDigitYear)
    (before : a.before b = true) : a.storedText < b.storedText := by
  have minute : a.seconds / 60 ≤ b.seconds / 60 := by
    simp only [Instant.before, decide_eq_true_eq] at before
    omega
  rw [String.lt_iff, storedText_toList_minute ⟨ha.1, ha.2.1⟩, storedText_toList_minute ⟨hb.1, hb.2.1⟩]
  refine minuteDigits_append_lt ha.1 ⟨hb.1, hb.2.1⟩ minute fun sameMinute => ?_
  refine List.cons_lt_cons_iff.mpr (.inr ⟨rfl, ?_⟩)
  rcases shown_lt ha hb sameMinute before with second | ⟨sameSecond, fraction, fits⟩
  · exact decimalDigits_append_lt b.shownSecond_lt (.inl second)
  · exact decimalDigits_append_lt b.shownSecond_lt
      (.inr ⟨sameSecond, fractionText_append_lt fraction fits _⟩)

theorem storedText_lt_iff (ha : a.FourDigitYear) (hb : b.FourDigitYear) :
    a.storedText < b.storedText ↔ a.before b = true := by
  refine ⟨fun lt => ?_, storedText_lt_of_before ha hb⟩
  rcases before_trichotomy a b with ab | rfl | ba
  · exact ab
  · exact absurd lt (String.lt_irrefl _)
  · exact absurd lt (String.lt_asymm (storedText_lt_of_before hb ha ba))

theorem storedText_eq_iff (ha : a.FourDigitYear) (hb : b.FourDigitYear) :
    a.storedText = b.storedText ↔ a = b := by
  refine ⟨fun same => ?_, fun same => same ▸ rfl⟩
  rcases before_trichotomy a b with ab | same | ba
  · exact absurd same (String.ne_of_lt (storedText_lt_of_before ha hb ab))
  · exact same
  · exact absurd same.symm (String.ne_of_lt (storedText_lt_of_before hb ha ba))

/-- The tables' "stored no later than" is "no later than" in time. -/
theorem storedNotAfter_iff (ha : a.FourDigitYear) (hb : b.FourDigitYear) :
    a.storedNotAfter b = true ↔ a.notAfter b = true := by
  simp only [storedNotAfter, notAfter, decide_eq_true_eq, Bool.not_eq_true', ← Bool.not_eq_true]
  rw [← storedText_lt_iff hb ha]
  rfl

/-- A cutoff that lies no later than year 9999 and outside a leap second compares with a
time in a year of four digits as in time, even when it reaches before year 0. -/
theorem storedNotAfter_cutoff_iff {t c : Instant} (ht : t.FourDigitYear)
    (cNanos : c.nanos < nanosPerSecond) (cYear : c.date.year ≤ 9999) :
    t.storedNotAfter c = true ↔ t.notAfter c = true := by
  rcases Int.lt_or_le c.date.year 0 with neg | nonneg
  · -- the cutoff is before the time, in text and in time
    have textBefore := storedText_lt_of_year_neg neg ⟨ht.1, ht.2.1⟩
    have timeBefore : c.before t = true := by
      have earlier : c.seconds < t.seconds := by
        rcases Int.lt_or_le c.seconds t.seconds with lt | le
        · exact lt
        · have later := year_le_of_seconds_le le
          have tYear := ht.1
          omega
      simp [before, earlier]
    simp only [storedNotAfter, notAfter, timeBefore, Bool.not_true, decide_eq_true_eq]
    exact ⟨fun le => absurd textBefore le, fun no => absurd no Bool.false_ne_true⟩
  · exact storedNotAfter_iff ht ⟨nonneg, cYear, .inl cNanos⟩

end Instant

end OutboxReplicator
