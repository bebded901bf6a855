import OutboxReplicator.Proofs.Time.CalendarOrder
import OutboxReplicator.Outbox.Table
/-!
# Stored times are ordered as the times

The tables store a time as text (`Instant.storedText`) and order rows by comparing the
texts.  For the times the tables hold, in years 0 to 9999 and outside a leap second
(`Instant.Plain`), a later time has a greater text (`Instant.storedText_lt`), so a read
ordered by stored time takes rows in the order of their times.

The text is the date and time of day in fixed-width decimal fields (`decimalDigits`),
then the fraction, then `+00:00`.  Fixed-width fields compare as their numbers, and the
calendar keeps the order of days (`Date.ofDays_before`), so a later second has a greater
date-and-time text.  Within one second the fraction shows 3, 6 or 9 digits, the fewest
that are exact, and the suffix's `+` sorts below every digit: a fraction cut short
compares as the full nine digits would.
-/

namespace OutboxReplicator

/-! ## Lexicographic order of character lists -/

section Lex

variable {α : Type} [LT α]

/-- A list less than another of its length stays less whatever follows each. -/
theorem append_lt_append_of_lt {a b : List α} (same : a.length = b.length) (lt : a < b)
    (c d : List α) : a ++ c < b ++ d := by
  induction a generalizing b with
  | nil =>
    cases b with
    | nil => exact absurd lt (List.not_lt_nil _)
    | cons => simp at same
  | cons x a induction =>
    cases b with
    | nil => simp at same
    | cons y b =>
      rcases List.cons_lt_cons_iff.mp lt with head | ⟨rfl, tail⟩
      · exact List.cons_lt_cons_iff.mpr (.inl head)
      · exact List.cons_lt_cons_iff.mpr (.inr ⟨rfl, induction (by simpa using same) tail⟩)

end Lex

theorem char_lt_of_toNat_lt {a b : Char} (lt : a.toNat < b.toNat) : a < b := by
  rw [Char.lt_def, UInt32.lt_iff_toNat_lt]
  exact lt

theorem char_le_of_toNat_le {a b : Char} (le : a.toNat ≤ b.toNat) : a ≤ b := by
  rw [Char.le_def, UInt32.le_iff_toNat_le]
  exact le

theorem digitChar_lt {x y : Nat} (lt : x < y) (small : y < 10) : x.digitChar < y.digitChar := by
  apply char_lt_of_toNat_lt
  rw [Nat.toNat_digitChar_of_lt_ten (by omega), Nat.toNat_digitChar_of_lt_ten small]
  omega

theorem plus_lt_of_zero_le {c : Char} (digit : '0' ≤ c) : '+' < c := by
  rw [Char.le_def, UInt32.le_iff_toNat_le] at digit
  apply char_lt_of_toNat_lt
  exact Nat.lt_of_lt_of_le (by decide) digit

theorem zero_le_digitChar {x : Nat} (small : x < 10) : '0' ≤ x.digitChar := by
  apply char_le_of_toNat_le
  rw [Nat.toNat_digitChar_of_lt_ten small]
  decide +revert

/-! ## Fixed-width decimal fields -/

/-- The last `w` decimal digits of `n`, with zeros in front. -/
def decimalDigits : Nat → Nat → List Char
  | 0, _ => []
  | w + 1, n => decimalDigits w (n / 10) ++ [Nat.digitChar (n % 10)]

@[simp] theorem length_decimalDigits (w n : Nat) : (decimalDigits w n).length = w := by
  induction w generalizing n with
  | zero => rfl
  | succ w induction => simp [decimalDigits, induction]

theorem decimalDigits_zero (w : Nat) : decimalDigits w 0 = List.replicate w '0' := by
  induction w with
  | zero => rfl
  | succ w induction => simp [decimalDigits, induction, List.replicate_succ']

theorem zero_le_of_mem_decimalDigits {w n : Nat} {c : Char} (mem : c ∈ decimalDigits w n) :
    '0' ≤ c := by
  induction w generalizing n with
  | zero => simp [decimalDigits] at mem
  | succ w induction =>
    simp only [decimalDigits, List.mem_append, List.mem_singleton] at mem
    rcases mem with front | rfl
    · exact induction front
    · exact zero_le_digitChar (Nat.mod_lt _ (by decide))

/-- The field of a number is the field of its remainder. -/
theorem decimalDigits_mod (w n : Nat) : decimalDigits w (n % Nat.pow 10 w) = decimalDigits w n := by
  induction w generalizing n with
  | zero => rfl
  | succ w induction =>
    simp only [decimalDigits, Nat.pow_eq] at *
    have low : n % 10 ^ (w + 1) % 10 = n % 10 :=
      Nat.mod_mod_of_dvd n (Nat.dvd_of_mod_eq_zero (by simp [Nat.pow_succ, Nat.mul_mod_left]))
    have high : n % 10 ^ (w + 1) / 10 = n / 10 % 10 ^ w := by
      rw [Nat.pow_succ', Nat.mod_mul_right_div_self]
    rw [low, high, induction]

/-- A field of `w + k` digits is the field of `w` digits of the number shifted by `k`,
then the field of `k` digits. -/
theorem decimalDigits_add (w k n : Nat) :
    decimalDigits (w + k) n = decimalDigits w (n / Nat.pow 10 k) ++ decimalDigits k n := by
  induction k generalizing n with
  | zero => simp [decimalDigits]
  | succ k induction =>
    rw [← Nat.add_assoc, decimalDigits, induction, decimalDigits, List.append_assoc]
    simp only [Nat.pow_eq, Nat.div_div_eq_div_mul, Nat.pow_succ']

/-- A number below `10 ^ w` is padded to exactly its `w`-digit field. -/
theorem padNat_toList {w n : Nat} (pos : 0 < w) (lt : n < Nat.pow 10 w) :
    (padNat w n).toList = decimalDigits w n := by
  induction w generalizing n with
  | zero => omega
  | succ w induction =>
    simp only [padNat, String.toList_append, String.toList_ofList, Nat.toString_eq_repr,
      Nat.toList_repr, ← String.length_toList]
    by_cases small : n < 10
    · rw [Nat.toDigits_of_lt_base small, decimalDigits, Nat.div_eq_of_lt small,
        Nat.mod_eq_of_lt small, decimalDigits_zero]
      simp
    · have wide : 0 < w := by
        rcases Nat.eq_zero_or_pos w with rfl | wide
        · simp at lt
          omega
        · exact wide
      have shifted : n / 10 < Nat.pow 10 w := by
        simp only [Nat.pow_eq, Nat.pow_succ] at lt ⊢
        exact Nat.div_lt_of_lt_mul (by rwa [Nat.mul_comm])
      have front := induction wide shifted
      simp only [padNat, String.toList_append, String.toList_ofList, Nat.toString_eq_repr,
        Nat.toList_repr, ← String.length_toList] at front
      rw [Nat.toDigits_of_base_le (by decide) (by omega), decimalDigits, ← front]
      simp only [List.length_append, List.length_singleton, List.append_assoc]
      congr 2
      omega

/-- Fields of one width compare as their numbers. -/
theorem decimalDigits_lt {w a b : Nat} (lt : a < b) (fits : b < Nat.pow 10 w) :
    decimalDigits w a < decimalDigits w b := by
  induction w generalizing a b with
  | zero => simp at fits; omega
  | succ w induction =>
    have fitsShifted : b / 10 < Nat.pow 10 w := by
      simp only [Nat.pow_eq, Nat.pow_succ] at fits ⊢
      exact Nat.div_lt_of_lt_mul (by rwa [Nat.mul_comm])
    simp only [decimalDigits]
    rcases Nat.lt_or_eq_of_le (Nat.div_le_div_right (c := 10) (Nat.le_of_lt lt)) with
      front | sameFront
    · exact append_lt_append_of_lt (by simp) (induction front fitsShifted) _ _
    · rw [sameFront]
      apply List.append_left_lt
      exact List.cons_lt_cons_iff.mpr (.inl (digitChar_lt (by omega) (Nat.mod_lt _ (by decide))))

/-- A field followed by more text compares by its number first. -/
theorem decimalDigits_append_lt {w a b : Nat} (fits : b < Nat.pow 10 w) {r₁ r₂ : List Char}
    (lex : a < b ∨ a = b ∧ r₁ < r₂) : decimalDigits w a ++ r₁ < decimalDigits w b ++ r₂ := by
  rcases lex with lt | ⟨rfl, rest⟩
  · exact append_lt_append_of_lt (by simp) (decimalDigits_lt lt fits) _ _
  · exact List.append_left_lt rest

/-- A field, a separator and more text compare by the field's number first. -/
theorem field_lt {w a b : Nat} (fits : b < Nat.pow 10 w) (sep : Char) {r₁ r₂ : List Char}
    (lex : a < b ∨ a = b ∧ r₁ < r₂) :
    decimalDigits w a ++ sep :: r₁ < decimalDigits w b ++ sep :: r₂ :=
  decimalDigits_append_lt fits
    (lex.imp_right fun ⟨same, rest⟩ => ⟨same, List.cons_lt_cons_iff.mpr (.inr ⟨rfl, rest⟩)⟩)

/-! ## The fraction -/

/-- A digit list with zeros cannot be above a list of digits of its length. -/
theorem not_lt_of_zeros {D E : List Char} (same : D.length = E.length)
    (digits : ∀ c ∈ D, '0' ≤ c) (zeros : ∀ c ∈ E, c = '0') : ¬ D < E := by
  induction D generalizing E with
  | nil =>
    cases E with
    | nil => exact List.not_lt_nil _
    | cons => simp at same
  | cons x D induction =>
    cases E with
    | nil => simp at same
    | cons y E =>
      obtain rfl : y = '0' := zeros y (by simp)
      intro lt
      rcases List.cons_lt_cons_iff.mp lt with head | ⟨-, tail⟩
      · exact Char.not_lt.mpr (digits x (by simp)) head
      · exact induction (by simpa using same) (fun c mem => digits c (by simp [mem]))
          (fun c mem => zeros c (by simp [mem])) tail

/-- Digit lists of one length, each cut after some digits and ended by `+`, compare as
the full lists when every digit cut off is a zero: `+` sorts below every digit. -/
theorem cut_append_lt {D E : List Char} (same : D.length = E.length) (lt : D < E)
    (digitsD : ∀ c ∈ D, '0' ≤ c) (digitsE : ∀ c ∈ E, '0' ≤ c) {k l : Nat}
    (hiddenD : ∀ c ∈ D.drop k, c = '0') (hiddenE : ∀ c ∈ E.drop l, c = '0')
    (rest : List Char) : D.take k ++ '+' :: rest < E.take l ++ '+' :: rest := by
  induction D generalizing E k l with
  | nil =>
    cases E with
    | nil => exact absurd lt (List.not_lt_nil _)
    | cons => simp at same
  | cons x D induction =>
    cases E with
    | nil => simp at same
    | cons y E =>
      cases l with
      | zero => exact absurd lt (not_lt_of_zeros same digitsD (by simpa using hiddenE))
      | succ l =>
        cases k with
        | zero =>
          -- the shorter cut ends where the other still shows a digit
          exact List.cons_lt_cons_iff.mpr (.inl (plus_lt_of_zero_le (digitsE y (by simp))))
        | succ k =>
          rcases List.cons_lt_cons_iff.mp lt with head | ⟨rfl, tail⟩
          · exact List.cons_lt_cons_iff.mpr (.inl head)
          · refine List.cons_lt_cons_iff.mpr (.inr ⟨rfl, ?_⟩)
            exact induction (by simpa using same) tail (fun c mem => digitsD c (by simp [mem]))
              (fun c mem => digitsE c (by simp [mem])) (by simpa using hiddenD)
              (by simpa using hiddenE)

/-- How many of the nine fraction digits the stored text shows for a time that is not a
whole second: 3, 6 or 9, the fewest that are exact. -/
def fractionShown (nanos : Nat) : Nat :=
  if nanos % 1000000 = 0 then 3 else if nanos % 1000 = 0 then 6 else 9

theorem fractionText_fewest_toList {n : Nat} (pos : 0 < n) (lt : n < Instant.nanosPerSecond) :
    (Instant.fractionText .fewest n).toList = '.' :: (decimalDigits 9 n).take (fractionShown n) := by
  have split63 : decimalDigits 9 n = decimalDigits 3 (n / 1000000) ++ decimalDigits 6 n :=
    decimalDigits_add 3 6 n
  have split36 : decimalDigits 9 n = decimalDigits 6 (n / 1000) ++ decimalDigits 3 n :=
    decimalDigits_add 6 3 n
  unfold Instant.fractionText fractionShown
  simp only [Nat.ne_of_gt pos, if_false]
  split
  · rw [split63, List.take_left' (by simp), String.toList_append,
      padNat_toList (by decide) (by unfold Instant.nanosPerSecond at lt; simp; omega)]
    rfl
  · split
    · rw [split36, List.take_left' (by simp), String.toList_append,
        padNat_toList (by decide) (by unfold Instant.nanosPerSecond at lt; simp; omega)]
      rfl
    · rw [List.take_of_length_le (by simp), String.toList_append,
        padNat_toList (by decide) (by unfold Instant.nanosPerSecond at lt; simp; omega)]
      rfl

/-- The digits the fraction leaves out are zeros. -/
theorem fraction_hidden_zero (n : Nat) :
    ∀ c ∈ (decimalDigits 9 n).drop (fractionShown n), c = '0' := by
  intro c mem
  unfold fractionShown at mem
  split at mem
  next millis =>
    rw [decimalDigits_add 3 6, List.drop_left' (by simp), ← decimalDigits_mod] at mem
    rw [show Nat.pow 10 6 = 1000000 from rfl, millis, decimalDigits_zero] at mem
    exact List.eq_of_mem_replicate mem
  next =>
    split at mem
    next micros =>
      rw [decimalDigits_add 6 3, List.drop_left' (by simp), ← decimalDigits_mod] at mem
      rw [show Nat.pow 10 3 = 1000 from rfl, micros, decimalDigits_zero] at mem
      exact List.eq_of_mem_replicate mem
    next =>
      rw [List.drop_of_length_le (by simp)] at mem
      simp at mem

/-- Within one second, a later time has a greater fraction text, once the suffix's `+`
follows it. -/
theorem fractionText_append_lt {a b : Nat} (lt : a < b) (fits : b < Instant.nanosPerSecond)
    (rest : List Char) :
    (Instant.fractionText .fewest a).toList ++ '+' :: rest <
      (Instant.fractionText .fewest b).toList ++ '+' :: rest := by
  rw [fractionText_fewest_toList (by omega) fits]
  rcases Nat.eq_zero_or_pos a with rfl | pos
  · -- a whole second shows no fraction, and `+` sorts below the point
    exact List.cons_lt_cons_iff.mpr (.inl (by decide))
  · rw [fractionText_fewest_toList pos (Nat.lt_trans lt fits)]
    refine List.cons_lt_cons_iff.mpr (.inr ⟨rfl, ?_⟩)
    exact cut_append_lt (by simp) (decimalDigits_lt lt (show b < Nat.pow 10 9 from fits))
      (fun _ => zero_le_of_mem_decimalDigits)
      (fun _ => zero_le_of_mem_decimalDigits) (fraction_hidden_zero a) (fraction_hidden_zero b) rest

/-! ## Stored times -/

namespace Instant

/-- A time whose stored text compares as a time: in a year written with four digits
(0000 to 9999), and outside a leap second. -/
def Plain (t : Instant) : Prop :=
  t.nanos < nanosPerSecond ∧ 0 ≤ t.date.year ∧ t.date.year ≤ 9999

/-- The date and time of day of an instant as its stored text writes them before the
fraction: fields of 4, 2, 2, 2, 2 and 2 digits with their separators. -/
def clockDigits (t : Instant) : List Char :=
  decimalDigits 4 t.date.year.toNat ++ '-' :: (decimalDigits 2 t.date.month ++ '-' ::
    (decimalDigits 2 t.date.day ++ 'T' :: (decimalDigits 2 (t.secondOfDay / 3600) ++ ':' ::
      (decimalDigits 2 (t.secondOfDay / 60 % 60) ++ ':' :: decimalDigits 2 (t.secondOfDay % 60)))))

theorem clockDigits_length (t : Instant) : t.clockDigits.length = 19 := by
  simp [clockDigits]

theorem padNat_two {n : Nat} (lt : n < 100) : (padNat 2 n).toList = decimalDigits 2 n :=
  padNat_toList (by decide) lt

/-- The stored text of a time the tables hold: its date and time of day, its fraction
and the UTC suffix. -/
theorem storedText_toList {t : Instant} (plain : t.Plain) :
    t.storedText.toList =
      t.clockDigits ++ ((fractionText .fewest t.nanos).toList ++ '+' :: "00:00".toList) := by
  obtain ⟨notLeap, yearLow, yearHigh⟩ := plain
  have month : 1 ≤ t.date.month ∧ t.date.month ≤ 12 := Date.ofDays_month_range _
  have day : 1 ≤ t.date.day ∧ t.date.day ≤ 31 := Date.ofDays_day_range _
  have inDay : t.secondOfDay < 86400 := by
    unfold secondOfDay
    omega
  have yearFour : yearText t.date.year = padNat 4 t.date.year.toNat := by
    simp [yearText, yearLow, yearHigh]
  simp only [storedText, format, Nat.not_le.mpr notLeap, if_false, Nat.add_zero,
    TimestampStyle.stored, String.toList_append, yearFour,
    padNat_toList (by decide : 0 < 4) (show t.date.year.toNat < Nat.pow 10 4 by
      show _ < 10000
      omega),
    padNat_two (show t.date.month < 100 by omega), padNat_two (show t.date.day < 100 by omega),
    padNat_two (show t.secondOfDay / 3600 < 100 by omega),
    padNat_two (show t.secondOfDay / 60 % 60 < 100 by omega),
    padNat_two (show t.secondOfDay % 60 < 100 by omega)]
  simp [clockDigits]

/-- A later second has a greater date and time of day: by the calendar on a later day,
by the time of day on the same day. -/
theorem clockDigits_lt {a b : Instant} (pa : a.Plain) (pb : b.Plain) (lt : a.seconds < b.seconds) :
    a.clockDigits < b.clockDigits := by
  obtain ⟨-, yearLow₁, -⟩ := pa
  obtain ⟨-, yearLow₂, yearHigh₂⟩ := pb
  have month : 1 ≤ b.date.month ∧ b.date.month ≤ 12 := Date.ofDays_month_range _
  have day : 1 ≤ b.date.day ∧ b.date.day ≤ 31 := Date.ofDays_day_range _
  have yearFits : b.date.year.toNat < Nat.pow 10 4 := show _ < 10000 by omega
  have monthFits : b.date.month < Nat.pow 10 2 := show _ < 100 by omega
  have dayFits : b.date.day < Nat.pow 10 2 := show _ < 100 by omega
  have days : a.seconds / 86400 ≤ b.seconds / 86400 := Int.ediv_le_ediv (by decide) (Int.le_of_lt lt)
  unfold clockDigits
  rcases Int.lt_or_eq_of_le days with laterDay | sameDay
  · have before : a.date.Before b.date := Date.ofDays_before laterDay
    obtain year | ⟨sameYear, month | ⟨sameMonth, day⟩⟩ := before
    · exact field_lt yearFits '-' (.inl (by omega))
    · exact field_lt yearFits '-' (.inr ⟨by rw [sameYear], field_lt monthFits '-' (.inl month)⟩)
    · exact field_lt yearFits '-' (.inr ⟨by rw [sameYear], field_lt monthFits '-'
        (.inr ⟨sameMonth, decimalDigits_append_lt dayFits (.inl day)⟩)⟩)
  · -- on the same day the time of day decides
    have sameDate : a.date = b.date := by
      unfold date
      rw [sameDay]
    have later : a.secondOfDay < b.secondOfDay := by
      unfold secondOfDay
      omega
    have inDay : b.secondOfDay < 86400 := by
      unfold secondOfDay
      omega
    rw [sameDate]
    refine field_lt yearFits '-' (.inr ⟨rfl, field_lt monthFits '-' (.inr ⟨rfl,
      field_lt dayFits 'T' (.inr ⟨rfl, ?_⟩)⟩)⟩)
    refine field_lt (show _ < 100 by omega) ':' ?_
    rcases Nat.lt_or_ge (a.secondOfDay / 3600) (b.secondOfDay / 3600) with hour | hour
    · exact .inl hour
    · refine .inr ⟨by omega, field_lt (show _ < 100 by omega) ':' ?_⟩
      rcases Nat.lt_or_ge (a.secondOfDay / 60 % 60) (b.secondOfDay / 60 % 60) with minute | minute
      · exact .inl minute
      · exact .inr ⟨by omega, decimalDigits_lt (by omega) (show _ < 100 by omega)⟩

/-- For the times the tables hold, a later time has a greater stored text. -/
theorem storedText_lt {a b : Instant} (pa : a.Plain) (pb : b.Plain) (before : a.before b = true) :
    a.storedText < b.storedText := by
  rw [String.lt_iff, storedText_toList pa, storedText_toList pb]
  simp only [Instant.before, decide_eq_true_eq] at before
  rcases before with later | ⟨sameSecond, laterNanos⟩
  · exact append_lt_append_of_lt (by simp [clockDigits_length]) (clockDigits_lt pa pb later) _ _
  · have sameClock : a.clockDigits = b.clockDigits := by
      simp only [clockDigits, date, secondOfDay, sameSecond]
    rw [sameClock]
    exact List.append_left_lt (fractionText_append_lt laterNanos pb.1 _)

end Instant

end OutboxReplicator
