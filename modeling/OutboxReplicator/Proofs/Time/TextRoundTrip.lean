import OutboxReplicator.Proofs.Time.CalendarInverse
import OutboxReplicator.Proofs.Time.StoredOrder
import OutboxReplicator.Time.Reader
/-!
# Timestamps read back

The lenient reader reads every timestamp the entity printer writes as the instant it was
written from (`Instant.parse_format`), for every instant a UTC date-time can be: one in
the calendar, with fewer than `2 · 10^9` nanoseconds, and in a leap second only in the
last second of a minute (`Instant.Representable`).  Leap seconds are written as second
60 and read back into the second before; years outside 0 to 9999 are written with a
sign and read back by the signed branch of the year.

The proof follows the text field by field.  The printer's text is a chain of digit runs,
each followed by a separator that is not a digit, so each scan of digits takes exactly
the run (`TimestampScan.takeDigits_append`) and reads its value back
(`TimestampScan.digitValue_decimalDigits`); the fraction hides only zeros, which the
reader puts back by scaling.  The fields then name the date of the instant's day, which
`Date.toDays` turns back into the day (`Date.toDays_ofDays`).
-/

namespace OutboxReplicator

/-! ## Digit runs -/

namespace TimestampScan

theorem digitValue_append (ds : List Char) (c : Char) :
    digitValue (ds ++ [c]) = digitValue ds * 10 + (c.toNat - '0'.toNat) := by
  simp [digitValue, List.foldl_append]

theorem digitValue_zeros (ds : List Char) (count : Nat) :
    digitValue (ds ++ List.replicate count '0') = digitValue ds * Nat.pow 10 count := by
  induction count with
  | zero => simp
  | succ count induction =>
    rw [List.replicate_succ', ← List.append_assoc, digitValue_append, induction]
    simp [Nat.pow_succ, Nat.mul_assoc]

theorem digitValue_digitChar {d : Nat} (small : d < 10) :
    (Nat.digitChar d).toNat - '0'.toNat = d := by
  have zero : '0'.toNat = 48 := rfl
  rw [Nat.toNat_digitChar_of_lt_ten small, zero]
  omega

/-- A fixed-width field reads back as its number, less what does not fit. -/
theorem digitValue_decimalDigits (w n : Nat) :
    digitValue (decimalDigits w n) = n % Nat.pow 10 w := by
  induction w generalizing n with
  | zero => simp [decimalDigits, digitValue, Nat.mod_one]
  | succ w induction =>
    rw [decimalDigits, digitValue_append, induction,
      digitValue_digitChar (Nat.mod_lt _ (by decide))]
    rw [show Nat.pow 10 (w + 1) = 10 * Nat.pow 10 w from Nat.pow_succ'.trans rfl, Nat.mod_mul]
    omega

theorem isDigit_of_mem_decimalDigits {w n : Nat} {c : Char} (mem : c ∈ decimalDigits w n) :
    c.isDigit = true := by
  induction w generalizing n with
  | zero => simp [decimalDigits] at mem
  | succ w induction =>
    simp only [decimalDigits, List.mem_append, List.mem_singleton] at mem
    rcases mem with front | rfl
    · exact induction front
    · simp [Nat.isDigit_digitChar, Nat.mod_lt]

/-- The decimal digits of a number are digits and read back as the number. -/
theorem toDigits_reads (n : Nat) :
    (∀ c ∈ Nat.toDigits 10 n, c.isDigit = true) ∧ digitValue (Nat.toDigits 10 n) = n := by
  induction n using Nat.strongRecOn with
  | _ n induction =>
    rcases Nat.lt_or_ge n 10 with small | large
    · rw [Nat.toDigits_of_lt_base small]
      refine ⟨by simp [Nat.isDigit_digitChar, small], ?_⟩
      simpa [digitValue] using digitValue_digitChar small
    · rw [Nat.toDigits_of_base_le (by decide) large]
      obtain ⟨digits, value⟩ := induction (n / 10) (by omega)
      refine ⟨fun c mem => ?_, ?_⟩
      · rcases List.mem_append.mp mem with front | last
        · exact digits c front
        · simp only [List.mem_singleton] at last
          simp [last, Nat.isDigit_digitChar, Nat.mod_lt]
      · rw [digitValue_append, value, digitValue_digitChar (Nat.mod_lt _ (by decide))]
        omega

/-- A padded number is a run of digits that reads back as the number. -/
theorem padNat_reads (w n : Nat) :
    (padNat w n).toList ≠ [] ∧ (∀ c ∈ (padNat w n).toList, c.isDigit = true) ∧
      digitValue (padNat w n).toList = n := by
  obtain ⟨digits, value⟩ := toDigits_reads n
  have zeros : ∀ k : Nat, digitValue (List.replicate k '0' ++ Nat.toDigits 10 n) = n := by
    intro k
    have leading : digitValue (List.replicate k '0') = 0 := by
      simpa [digitValue] using digitValue_zeros [] k
    simp only [digitValue, List.foldl_append] at leading ⊢
    rw [leading]
    exact value
  simp only [padNat, String.toList_append, String.toList_ofList, Nat.toString_eq_repr,
    Nat.toList_repr]
  refine ⟨by simp [Nat.toDigits_ne_nil], fun c mem => ?_, zeros _⟩
  rcases List.mem_append.mp mem with zero | digit
  · rw [List.eq_of_mem_replicate zero]
    rfl
  · exact digits c digit

/-- The text after a number: empty, or starting with a character that is not a digit. -/
def EndsNumber (rest : List Char) : Prop := ∀ c more, rest = c :: more → c.isDigit = false

theorem endsNumber_cons {c : Char} {more : List Char} (notDigit : c.isDigit = false) :
    EndsNumber (c :: more) := by
  rintro c' more' ⟨⟩
  exact notDigit

/-- A scan of at most `n` digits takes a whole run of digits that the text ends. -/
theorem takeDigits_append {ds rest : List Char} {n : Nat} (digits : ∀ c ∈ ds, c.isDigit = true)
    (fits : ds.length ≤ n) (ends : EndsNumber rest) : takeDigits n (ds ++ rest) = (ds, rest) := by
  induction ds generalizing n with
  | nil =>
    cases n with
    | zero => rfl
    | succ n =>
      cases rest with
      | nil => rfl
      | cons c more => simp [takeDigits, ends c more rfl]
  | cons d ds induction =>
    have short : ds.length + 1 ≤ n := by simpa using fits
    obtain ⟨n, rfl⟩ : ∃ m, n = m + 1 := ⟨n - 1, by omega⟩
    have rest' : takeDigits n (ds ++ rest) = (ds, rest) :=
      induction (fun c mem => digits c (List.mem_cons_of_mem d mem)) (by omega)
    simp [takeDigits, digits d List.mem_cons_self, rest']

/-! ## Steps of the reader -/

/-- A step that succeeds hands its value and the rest of the text to what follows. -/
theorem bind_ok {α β : Type} {x : TimestampScan α} {f : α → TimestampScan β}
    {s s' : List Char} {a : α} (run : x s = .ok (a, s')) : (x >>= f) s = f a s' := by
  simp [bind, StateT.bind, run, Except.bind]

theorem get_run (s : List Char) : (get : TimestampScan (List Char)) s = .ok (s, s) := rfl

theorem pure_run {α : Type} (a : α) (s : List Char) :
    (pure a : TimestampScan α) s = .ok (a, s) :=
  rfl

theorem set_run (s s' : List Char) : (set s' : TimestampScan PUnit) s = .ok (⟨⟩, s') := rfl

theorem modify_run (f : List Char → List Char) (s : List Char) :
    (modify f : TimestampScan PUnit) s = .ok (⟨⟩, f s) :=
  rfl

/-- Reading up to `n` digits takes a whole run of digits that the text ends, with its
value and its length. -/
theorem digits_append {ds rest : List Char} {n : Nat} (nonempty : ds ≠ [])
    (digits : ∀ c ∈ ds, c.isDigit = true) (fits : ds.length ≤ n) (ends : EndsNumber rest) :
    TimestampScan.digits n (ds ++ rest) = .ok ((digitValue ds, ds.length), rest) := by
  have taken := takeDigits_append digits fits ends
  obtain ⟨d, ds', rfl⟩ := List.exists_cons_of_ne_nil nonempty
  rw [List.cons_append] at taken
  simp only [TimestampScan.digits]
  rw [bind_ok (get_run _)]
  simp [taken, bind, StateT.bind, Except.bind, set_run, pure_run]

theorem isBlank_of_isDigit {c : Char} (digit : c.isDigit = true) : isBlank c = false := by
  simp only [Char.isDigit, Bool.and_eq_true, decide_eq_true_eq] at digit
  have low : 48 ≤ c.toNat := digit.1
  have high : c.toNat ≤ 57 := digit.2
  simp only [isBlank, Bool.or_eq_false_iff, Bool.and_eq_false_iff, beq_eq_false_iff_ne,
    decide_eq_false_iff_not]
  omega

theorem skipBlanks_cons {c : Char} {rest : List Char} (notBlank : isBlank c = false) :
    skipBlanks (c :: rest) = .ok ((), c :: rest) := by
  simp [skipBlanks, dropBlanks, notBlank, modify, modifyGet, MonadStateOf.modifyGet,
    StateT.modifyGet, pure, Except.pure]

theorem literal_cons (c : Char) (rest : List Char) : literal c (c :: rest) = .ok ((), rest) := by
  simp only [literal]
  rw [bind_ok (get_run _)]
  simp [set_run]

theorem dateTimeSeparator_T (rest : List Char) :
    dateTimeSeparator ('T' :: rest) = .ok ((), rest) := by
  simp only [dateTimeSeparator]
  rw [bind_ok (get_run _)]
  simp [set_run]

theorem offset_Z : offset ['Z'] = .ok (0, []) := by
  rfl

theorem skipBlanks_digits {ds rest : List Char} (nonempty : ds ≠ [])
    (digits : ∀ c ∈ ds, c.isDigit = true) : skipBlanks (ds ++ rest) = .ok ((), ds ++ rest) := by
  obtain ⟨d, ds', rfl⟩ := List.exists_cons_of_ne_nil nonempty
  exact skipBlanks_cons (isBlank_of_isDigit (digits d List.mem_cons_self))

theorem field_decimalDigits {lo hi x : Nat} {rest : List Char} (low : lo ≤ x) (high : x ≤ hi)
    (small : x < 100) (ends : EndsNumber rest) :
    field lo hi (decimalDigits 2 x ++ rest) = .ok (x, rest) := by
  have nonempty : decimalDigits 2 x ≠ [] := List.ne_nil_of_length_pos (by simp)
  have value : digitValue (decimalDigits 2 x) = x := by
    rw [digitValue_decimalDigits]
    exact Nat.mod_eq_of_lt small
  unfold field
  rw [bind_ok (skipBlanks_digits nonempty fun _ => isDigit_of_mem_decimalDigits),
    bind_ok (digits_append nonempty (fun _ => isDigit_of_mem_decimalDigits) (by simp) ends)]
  simp [value, low, high, pure_run]

theorem year_yearText {y : Int} (low : -(Int.pow 2 31) ≤ y) (high : y < Int.pow 2 31)
    {rest : List Char} (ends : EndsNumber rest) :
    year ((Instant.yearText y).toList ++ rest) = .ok (y, rest) := by
  unfold Instant.yearText
  split_ifs with four negative
  · have text : (padNat 4 y.toNat).toList = decimalDigits 4 y.toNat :=
      padNat_toList (by decide) (show y.toNat < 10000 by omega)
    have nonempty : decimalDigits 4 y.toNat ≠ [] := List.ne_nil_of_length_pos (by simp)
    have value : digitValue (decimalDigits 4 y.toNat) = y.toNat := by
      rw [digitValue_decimalDigits]
      exact Nat.mod_eq_of_lt (show y.toNat < 10000 by omega)
    rw [text]
    unfold year
    rw [bind_ok (skipBlanks_digits nonempty fun _ => isDigit_of_mem_decimalDigits),
      bind_ok (get_run _)]
    obtain ⟨d, ds, shape⟩ := List.exists_cons_of_ne_nil nonempty
    have digit : d.isDigit = true := isDigit_of_mem_decimalDigits (shape ▸ List.mem_cons_self)
    have notMinus : d ≠ '-' := by rintro rfl; simp at digit
    have notPlus : d ≠ '+' := by rintro rfl; simp at digit
    rw [shape, List.cons_append]
    simp only [List.cons.injEq, notMinus, notPlus, false_and, imp_false, not_false_eq_true,
      implies_true]
    rw [← List.cons_append, ← shape,
      bind_ok (digits_append nonempty (fun _ => isDigit_of_mem_decimalDigits) (by simp) ends)]
    simp only [value, Int.toNat_of_nonneg four.1]
    rw [bind_ok (pure_run _ _), if_pos ⟨low, high⟩]
    rfl
  · -- a year before zero: a minus sign and the digits of its magnitude
    obtain ⟨nonempty, digits, value⟩ := padNat_reads 4 y.natAbs
    have minus : "-".toList = ['-'] := rfl
    simp only [String.toList_append, minus, List.cons_append, List.nil_append]
    unfold year
    rw [bind_ok (skipBlanks_cons (show isBlank '-' = false by decide)), bind_ok (get_run _)]
    simp only
    rw [bind_ok (set_run _ _), bind_ok (digits_append nonempty digits (by simp) ends)]
    have magnitude : -(y.natAbs : Int) = y := by omega
    simp only [value, magnitude]
    rw [bind_ok (pure_run _ _), if_pos ⟨low, high⟩]
    rfl
  · -- a year past 9999: a plus sign and its digits
    obtain ⟨nonempty, digits, value⟩ := padNat_reads 4 y.natAbs
    have plus : "+".toList = ['+'] := rfl
    simp only [String.toList_append, plus, List.cons_append, List.nil_append]
    unfold year
    rw [bind_ok (skipBlanks_cons (show isBlank '+' = false by decide)), bind_ok (get_run _)]
    simp only
    rw [bind_ok (set_run _ _), bind_ok (digits_append nonempty digits (by simp) ends)]
    have magnitude : (y.natAbs : Int) = y := by omega
    simp only [value, magnitude]
    rw [bind_ok (pure_run _ _), if_pos ⟨low, high⟩]
    rfl

theorem fractionShown_range (n : Nat) : 3 ≤ fractionShown n ∧ fractionShown n ≤ 9 := by
  unfold fractionShown
  split_ifs <;> omega

/-- The digits a fraction shows, scaled back over the zeros it hides, are the
nanoseconds. -/
theorem digitValue_fractionShown {n : Nat} (lt : n < Instant.nanosPerSecond) :
    digitValue ((decimalDigits 9 n).take (fractionShown n)) * Nat.pow 10 (9 - fractionShown n) =
      n := by
  have zeros : (decimalDigits 9 n).drop (fractionShown n) =
      List.replicate (9 - fractionShown n) '0' :=
    List.eq_replicate_iff.mpr ⟨by simp, fraction_hidden_zero n⟩
  calc digitValue ((decimalDigits 9 n).take (fractionShown n)) * Nat.pow 10 (9 - fractionShown n)
      = digitValue ((decimalDigits 9 n).take (fractionShown n) ++
          (decimalDigits 9 n).drop (fractionShown n)) := by
        rw [zeros, digitValue_zeros]
    _ = n := by
        rw [List.take_append_drop, digitValue_decimalDigits]
        exact Nat.mod_eq_of_lt lt

theorem fraction_fractionText {n : Nat} (lt : n < Instant.nanosPerSecond) {c : Char}
    {more : List Char} (notDigit : c.isDigit = false) (notPoint : c ≠ '.') :
    fraction ((Instant.fractionText .fewest n).toList ++ c :: more) = .ok (n, c :: more) := by
  have ends : EndsNumber (c :: more) := endsNumber_cons notDigit
  rcases Nat.eq_zero_or_pos n with rfl | pos
  · -- a whole second shows no fraction, and the reader reads none
    have empty : (Instant.fractionText .fewest 0).toList = [] := rfl
    unfold fraction
    rw [empty, List.nil_append, bind_ok (get_run _)]
    simp [notPoint]
    rfl
  · obtain ⟨three, nine⟩ := fractionShown_range n
    have shown : (decimalDigits 9 n).take (fractionShown n) ≠ [] :=
      List.ne_nil_of_length_pos (by simp only [List.length_take, length_decimalDigits]; omega)
    rw [fractionText_fewest_toList pos lt, List.cons_append]
    unfold fraction
    rw [bind_ok (get_run _)]
    simp only
    rw [bind_ok (set_run _ _), bind_ok (digits_append shown
      (fun _ mem => isDigit_of_mem_decimalDigits (List.mem_of_mem_take mem))
      (by simp only [List.length_take, length_decimalDigits]; omega) ends),
      bind_ok (modify_run _ _), List.dropWhile_cons_of_neg (by simp [notDigit])]
    simp only [List.length_take, length_decimalDigits, Nat.min_eq_left nine]
    rw [digitValue_fractionShown lt]
    rfl

/-- The reader reads back the fields of every text the printer writes: a year a scan can
hold, a date and a time of day within their ranges, then a fraction that ends the
seconds and reads as `n`, and the `Z` of UTC. -/
theorem fields_of_fraction {y : Int} {mo d h mi s n : Nat} {frac : List Char}
    (year : -(Int.pow 2 31) ≤ y ∧ y < Int.pow 2 31) (month : 1 ≤ mo ∧ mo ≤ 12)
    (day : 1 ≤ d ∧ d ≤ 31) (hour : h ≤ 23) (minute : mi ≤ 59) (second : s ≤ 60)
    (afterSeconds : EndsNumber (frac ++ ['Z']))
    (readFraction : fraction (frac ++ ['Z']) = .ok (n, ['Z'])) :
    fields ((Instant.yearText y).toList ++ '-' :: (decimalDigits 2 mo ++ '-' ::
      (decimalDigits 2 d ++ 'T' :: (decimalDigits 2 h ++ ':' :: (decimalDigits 2 mi ++ ':' ::
        (decimalDigits 2 s ++ (frac ++ ['Z']))))))) =
      .ok (⟨y, mo, d, h, mi, s, n, 0⟩, []) := by
  unfold fields
  rw [bind_ok (year_yearText year.1 year.2 (endsNumber_cons (by decide))),
    bind_ok (skipBlanks_cons (show isBlank '-' = false by decide)), bind_ok (literal_cons _ _),
    bind_ok (field_decimalDigits month.1 month.2 (by omega) (endsNumber_cons (by decide))),
    bind_ok (skipBlanks_cons (show isBlank '-' = false by decide)), bind_ok (literal_cons _ _),
    bind_ok (field_decimalDigits day.1 day.2 (by omega) (endsNumber_cons (by decide))),
    bind_ok (dateTimeSeparator_T _),
    bind_ok (field_decimalDigits (Nat.zero_le _) hour (by omega) (endsNumber_cons (by decide))),
    bind_ok (skipBlanks_cons (show isBlank ':' = false by decide)), bind_ok (literal_cons _ _),
    bind_ok (field_decimalDigits (Nat.zero_le _) minute (by omega) (endsNumber_cons (by decide))),
    bind_ok (skipBlanks_cons (show isBlank ':' = false by decide)), bind_ok (literal_cons _ _),
    bind_ok (field_decimalDigits (Nat.zero_le _) second (by omega) afterSeconds),
    bind_ok readFraction, bind_ok offset_Z]
  rfl

end TimestampScan

/-! ## Instants read back -/

namespace Instant

/-- An instant that a UTC date-time names: in the calendar, with less than two seconds
of nanoseconds, and in a leap second only in the last second of a minute. -/
structure Representable (t : Instant) : Prop where
  inCalendar : t.inCalendar = true
  nanos_lt : t.nanos < 2 * nanosPerSecond
  leap_last : nanosPerSecond ≤ t.nanos → t.seconds % 60 = 59

theorem secondOfDay_lt (t : Instant) : t.secondOfDay < 86400 := by
  unfold secondOfDay
  omega

/-- The fields the printer writes for an instant: its date and time of day, the second
60 in a leap second, and the nanoseconds into the second written. -/
def writtenFields (t : Instant) : TimestampFields :=
  let leap := nanosPerSecond ≤ t.nanos
  ⟨t.date.year, t.date.month, t.date.day, t.secondOfDay / 3600, t.secondOfDay / 60 % 60,
    t.secondOfDay % 60 + (if leap then 1 else 0),
    if leap then t.nanos - nanosPerSecond else t.nanos, 0⟩

/-- The text of an instant in a style spells its written fields, then the style's fraction
of the written nanoseconds and its suffix. -/
theorem format_toList (style : TimestampStyle) (t : Instant) :
    (t.format style).toList =
      (yearText t.writtenFields.year).toList ++ '-' ::
        (decimalDigits 2 t.writtenFields.month ++ '-' ::
          (decimalDigits 2 t.writtenFields.day ++ 'T' ::
            (decimalDigits 2 t.writtenFields.hour ++ ':' ::
              (decimalDigits 2 t.writtenFields.minute ++ ':' ::
                (decimalDigits 2 t.writtenFields.second ++
                  ((fractionText style.fraction t.writtenFields.nanos).toList ++
                    style.suffix.toList)))))) := by
  have month : 1 ≤ t.date.month ∧ t.date.month ≤ 12 := Date.ofDays_month_range _
  have day : 1 ≤ t.date.day ∧ t.date.day ≤ 31 := Date.ofDays_day_range _
  have inDay := t.secondOfDay_lt
  have second : t.secondOfDay % 60 + (if nanosPerSecond ≤ t.nanos then 1 else 0) < 100 := by
    split <;> omega
  simp only [format, writtenFields, String.toList_append,
    padNat_two (show t.date.month < 100 by omega), padNat_two (show t.date.day < 100 by omega),
    padNat_two (show t.secondOfDay / 3600 < 100 by omega),
    padNat_two (show t.secondOfDay / 60 % 60 < 100 by omega), padNat_two second]
  simp

/-- The day of an instant a date-time names is a date of the calendar. -/
theorem Representable.date_valid {t : Instant} (representable : t.Representable) :
    t.date.valid = true := by
  have bounds : minSeconds ≤ t.seconds ∧ t.seconds ≤ maxSeconds := by
    simpa [Instant.inCalendar] using representable.inCalendar
  unfold minSeconds maxSeconds at bounds
  exact Date.ofDays_valid (by omega) (by omega)

/-- The written fields of an instant a date-time names check out as the instant. -/
theorem toInstant_writtenFields {t : Instant} (representable : t.Representable) :
    t.writtenFields.toInstant = .ok t := by
  have valid := representable.date_valid
  -- the day and the second of the day give back the instant's seconds
  have sameDay : t.date.toDays * 86400 + (t.secondOfDay : Int) = t.seconds := by
    unfold date secondOfDay
    rw [Date.toDays_ofDays]
    omega
  have clock : t.secondOfDay / 3600 * 3600 + t.secondOfDay / 60 % 60 * 60 + t.secondOfDay % 60 =
      t.secondOfDay := by
    omega
  have rebuilt : (⟨t.date.toDays * 86400 + ((t.secondOfDay / 3600 * 3600 +
      t.secondOfDay / 60 % 60 * 60 + t.secondOfDay % 60 : Nat) : Int) - 0, t.nanos⟩ : Instant) =
      t := by
    rw [clock, Int.sub_zero, sameDay]
  unfold TimestampFields.toInstant writtenFields
  -- the fields name the instant's own date
  generalize t.date = date at valid rebuilt ⊢
  cases date
  by_cases leap : nanosPerSecond ≤ t.nanos
  · -- a leap second is written as second 60 and read back onto the second before
    have last : t.secondOfDay % 60 = 59 := by
      have minute := representable.leap_last leap
      unfold secondOfDay
      omega
    have back : t.nanos - nanosPerSecond + 1000000000 = t.nanos := by
      unfold nanosPerSecond at leap ⊢
      omega
    rw [last] at rebuilt
    simp only [leap, if_true, last, valid, back, rebuilt]
    simp [representable.inCalendar]
  · have notLeap : ¬(t.secondOfDay % 60 = 60) := by omega
    simp only [leap, if_false, Nat.add_zero, notLeap, valid, rebuilt]
    simp [representable.inCalendar]

/-- The nanoseconds written after the second are less than a second. -/
theorem Representable.writtenNanos_lt {t : Instant} (representable : t.Representable) :
    t.writtenFields.nanos < nanosPerSecond := by
  have nanos := representable.nanos_lt
  simp only [writtenFields]
  unfold nanosPerSecond at nanos ⊢
  split <;> omega

/-- The reader scans the text of an instant a date-time names, in a style that marks UTC
by `Z`, into its written fields, with the nanoseconds it reads from the fraction, and
nothing left over. -/
theorem scan_format_of_fraction {t : Instant} (representable : t.Representable)
    {style : TimestampStyle} (suffix : style.suffix = "Z") {n : Nat}
    (afterSeconds : TimestampScan.EndsNumber
      ((fractionText style.fraction t.writtenFields.nanos).toList ++ ['Z']))
    (readFraction : TimestampScan.fraction
      ((fractionText style.fraction t.writtenFields.nanos).toList ++ ['Z']) = .ok (n, ['Z'])) :
    TimestampScan.fields (t.format style).toList =
      .ok ({ t.writtenFields with nanos := n }, []) := by
  obtain ⟨yearLow, yearHigh, monthLow, monthHigh, dayLow, dayHigh⟩ :=
    of_decide_eq_true representable.date_valid
  unfold Date.minYear at yearLow
  unfold Date.maxYear at yearHigh
  have monthLength : Date.daysInMonth t.date.year t.date.month ≤ 31 := by
    unfold Date.daysInMonth
    split_ifs <;> omega
  have inDay := t.secondOfDay_lt
  have yearFits : -(Int.pow 2 31) ≤ t.date.year ∧ t.date.year < Int.pow 2 31 := by
    simp only [show Int.pow 2 31 = 2147483648 from rfl]
    omega
  have zed : "Z".toList = ['Z'] := rfl
  rw [format_toList, suffix, zed]
  refine TimestampScan.fields_of_fraction yearFits ⟨monthLow, monthHigh⟩
    ⟨dayLow, by simp only [writtenFields]; omega⟩ (by simp only [writtenFields]; omega)
    (by simp only [writtenFields]; omega) ?second afterSeconds readFraction
  case second =>
    simp only [writtenFields]
    split <;> omega

/-- The reader scans the entity text of an instant a date-time names into its written
fields, with nothing left over. -/
theorem scan_format {t : Instant} (representable : t.Representable) :
    TimestampScan.fields (t.format .fewest).toList = .ok (t.writtenFields, []) := by
  have nanos := representable.writtenNanos_lt
  -- the seconds end at the point of a fraction, or at the `Z` of a whole second
  have afterSeconds : TimestampScan.EndsNumber
      ((fractionText .fewest t.writtenFields.nanos).toList ++ ['Z']) := by
    rcases Nat.eq_zero_or_pos t.writtenFields.nanos with zero | pos
    · rw [zero]
      exact TimestampScan.endsNumber_cons (by decide)
    · rw [fractionText_fewest_toList pos nanos]
      exact TimestampScan.endsNumber_cons (by decide)
  exact scan_format_of_fraction representable rfl afterSeconds
    (TimestampScan.fraction_fractionText nanos (by decide) (by decide))

/-- A text the reader scans whole into fields that check out reads as their instant. -/
theorem parse_of_fields {text : String} {f : TimestampFields} {u : Instant}
    (scan : TimestampScan.fields text.toList = .ok (f, [])) (checked : f.toInstant = .ok u) :
    parse text = .ok u := by
  unfold parse
  simp [StateT.run, scan, bind, Except.bind, dropBlanks, checked]

/-- The lenient reader reads the entity text of every instant a UTC date-time names back
as the instant. -/
theorem parse_format {t : Instant} (representable : t.Representable) :
    parse (t.format .fewest) = .ok t :=
  parse_of_fields (scan_format representable) (toInstant_writtenFields representable)

end Instant

end OutboxReplicator
