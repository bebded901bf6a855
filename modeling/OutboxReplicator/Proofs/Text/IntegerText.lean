import OutboxReplicator.Text.Integer
import OutboxReplicator.Proofs.Time.TextRoundTrip
import Mathlib.Data.List.Induction
/-!
# The integer reader and the decimal printer

The reader of a bounded integer type takes exactly an optional sign, any number of
zeros and then the decimal digits of a value in the type's range, where the sign agrees
with the value: a plus sign or none for a value of at least 0, a minus sign (in a signed
type) for one of at most 0 (`IntegerRange.read_eq_ok_iff_spells`).

The range is checked after every digit.  The partial values only move away from zero,
so checking each of them is checking the last (`IntegerRange.accumulate_eq_ok_iff`), and
a run of digits reads as its value (`IntegerRange.read_eq_ok_iff`).  A run of digits is
zeros followed by the digits of its value with no leading zero (`zeros_append_toDigits`).

Printing an integer writes a minus sign for a negative one and then the digits of its
magnitude (`IntegerRange.toString_toList`): the text above with the sign made to agree
and no zeros in front.  The reader reads it back for every value in range
(`IntegerRange.read_toString`).
-/

namespace OutboxReplicator

/-! ## Digits -/

theorem isDigit_bounds {c : Char} (digit : c.isDigit = true) : 48 ≤ c.toNat ∧ c.toNat ≤ 57 := by
  simp only [Char.isDigit, Bool.and_eq_true, decide_eq_true_eq] at digit
  exact ⟨digit.1, digit.2⟩

theorem digitChar_of_isDigit {c : Char} (digit : c.isDigit = true) :
    Nat.digitChar (c.toNat - '0'.toNat) = c := by
  have bounds := isDigit_bounds digit
  apply Char.toNat_inj.mp
  rw [Nat.toNat_digitChar_of_lt_ten (by simp only [show '0'.toNat = 48 from rfl]; omega)]
  simp only [show '0'.toNat = 48 from rfl]
  omega

theorem digitValue_zeros_append (k : Nat) (ds : List Char) :
    TimestampScan.digitValue (List.replicate k '0' ++ ds) = TimestampScan.digitValue ds := by
  have zeros : TimestampScan.digitValue (List.replicate k '0') = 0 := by
    simpa [TimestampScan.digitValue] using TimestampScan.digitValue_zeros [] k
  simp only [TimestampScan.digitValue, List.foldl_append] at zeros ⊢
  rw [zeros]

/-- Digits with no zero in front are the digits of their value. -/
theorem toDigits_digitValue {ds : List Char} (digits : ∀ c ∈ ds, c.isDigit = true)
    (lead : ∀ c rest, ds = c :: rest → c ≠ '0') (nonempty : ds ≠ []) :
    Nat.toDigits 10 (TimestampScan.digitValue ds) = ds := by
  induction ds using List.reverseRecOn with
  | nil => exact absurd rfl nonempty
  | append_singleton front c induction =>
    have digit : c.isDigit = true := digits c (by simp)
    have small : c.toNat - '0'.toNat < 10 := by
      have := isDigit_bounds digit
      simp only [show '0'.toNat = 48 from rfl]
      omega
    rw [TimestampScan.digitValue_append]
    cases front with
    | nil =>
      -- one digit, which is not a zero in front
      rw [Nat.toDigits_of_lt_base (by simpa [TimestampScan.digitValue] using small),
        show TimestampScan.digitValue [] = 0 from rfl, Nat.zero_mul, Nat.zero_add,
        digitChar_of_isDigit digit]
      rfl
    | cons d rest =>
      -- the front has a digit other than zero, so the value has another digit to write
      have frontDigits : ∀ c ∈ d :: rest, c.isDigit = true :=
        fun c mem => digits c (List.mem_append_left _ mem)
      have front := induction frontDigits
        (fun c' rest' same => lead c' (rest' ++ [c]) (by rw [same]; rfl)) (by simp)
      have positive : 0 < TimestampScan.digitValue (d :: rest) := by
        rcases Nat.eq_zero_or_pos (TimestampScan.digitValue (d :: rest)) with zero | pos
        · rw [zero, show Nat.toDigits 10 0 = ['0'] from rfl] at front
          exact absurd (List.cons.inj front).1.symm (lead d (rest ++ [c]) rfl)
        · exact pos
      rw [Nat.toDigits_of_base_le (by decide) (by omega)]
      have quotient : (TimestampScan.digitValue (d :: rest) * 10 + (c.toNat - '0'.toNat)) / 10 =
          TimestampScan.digitValue (d :: rest) := by omega
      have remainder : (TimestampScan.digitValue (d :: rest) * 10 + (c.toNat - '0'.toNat)) % 10 =
          c.toNat - '0'.toNat := by omega
      rw [quotient, remainder, front, digitChar_of_isDigit digit]

/-- A run of digits is zeros and then the digits of its value. -/
theorem zeros_append_toDigits {ds : List Char} (digits : ∀ c ∈ ds, c.isDigit = true)
    (nonempty : ds ≠ []) :
    ∃ k, ds = List.replicate k '0' ++ Nat.toDigits 10 (TimestampScan.digitValue ds) := by
  induction ds with
  | nil => exact absurd rfl nonempty
  | cons d rest induction =>
    by_cases zero : d = '0'
    · subst zero
      cases rest with
      | nil => exact ⟨0, rfl⟩
      | cons e more =>
        obtain ⟨k, split⟩ := induction (fun c mem => digits c (List.mem_cons_of_mem _ mem)) (by simp)
        refine ⟨k + 1, ?_⟩
        rw [show TimestampScan.digitValue ('0' :: e :: more) = TimestampScan.digitValue (e :: more)
          from digitValue_zeros_append 1 (e :: more)]
        conv => lhs; rw [split]
        rfl
    · refine ⟨0, ?_⟩
      rw [toDigits_digitValue digits (fun c rest' same => by cases same; exact zero) (by simp)]
      rfl

namespace IntegerRange

/-- Whether a value lies between the range's bounds. -/
def Within (r : IntegerRange) (n : Int) : Prop := r.least ≤ n ∧ n ≤ r.greatest

instance (r : IntegerRange) (n : Int) : Decidable (r.Within n) :=
  inferInstanceAs (Decidable (_ ∧ _))

/-- A magnitude with the sign the reader gives it. -/
def withSign (negative : Bool) (m : Nat) : Int := if negative then -(m : Int) else m

/-- The signs the reader takes before the digits: none, a plus, or a minus in a signed
type. -/
def SignText (r : IntegerRange) (sign : List Char) : Prop :=
  sign = [] ∨ sign = ['+'] ∨ sign = ['-'] ∧ r.signed = true

/-- The texts of a value that the reader takes: a sign that agrees with the value, any
number of zeros, then the digits of its magnitude. -/
def Spells (r : IntegerRange) (text : List Char) (v : Int) : Prop :=
  ∃ sign k, text = sign ++ List.replicate k '0' ++ Nat.toDigits 10 v.natAbs ∧
    ((sign = [] ∨ sign = ['+']) ∧ 0 ≤ v ∨ sign = ['-'] ∧ r.signed = true ∧ v ≤ 0)

variable {r : IntegerRange}

/-! ## Runs of digits -/

/-- Reading more digits never makes a magnitude smaller. -/
theorem le_foldl_digits (m : Nat) (ds : List Char) :
    m ≤ ds.foldl (fun n c => n * 10 + (c.toNat - '0'.toNat)) m := by
  induction ds generalizing m with
  | nil => exact Nat.le_refl m
  | cons c rest induction =>
    exact Nat.le_trans (by omega) (induction (m * 10 + (c.toNat - '0'.toNat)))

theorem withSign_step (negative : Bool) (m d : Nat) :
    (if negative = true then withSign negative m * 10 - (d : Int) else withSign negative m * 10 + d) =
      withSign negative (m * 10 + d) := by
  cases negative with
  | false => simp [withSign]
  | true =>
    simp only [withSign, if_true]
    omega

/-- From a magnitude in range, the reader takes a run of digits exactly when they are
all digits and the final value is in range. -/
theorem accumulate_eq_ok_iff (zero : r.Within 0) (negative : Bool) {n : Int} (ds : List Char) :
    ∀ m : Nat, r.Within (withSign negative m) →
      (r.accumulate negative (withSign negative m) ds = .ok n ↔
        (∀ c ∈ ds, c.isDigit = true) ∧
          n = withSign negative (ds.foldl (fun n c => n * 10 + (c.toNat - '0'.toNat)) m) ∧
          r.Within n) := by
  induction ds with
  | nil =>
    intro m start
    simp only [accumulate, Except.ok.injEq, List.foldl_nil]
    constructor
    · rintro rfl
      exact ⟨by simp, rfl, start⟩
    · rintro ⟨-, rfl, -⟩
      rfl
  | cons c rest induction =>
    intro m start
    -- the value after the digit, and how far the rest can take it
    have later := le_foldl_digits (m * 10 + (c.toNat - '0'.toNat)) rest
    rw [accumulate]
    by_cases digit : c.isDigit = true
    · simp only [digit, Bool.not_true, Bool.false_eq_true, if_false, withSign_step,
        List.mem_cons, forall_eq_or_imp, true_and, List.foldl_cons]
      split
      next below =>
        -- only a negative value can fall below the range, and the rest lowers it further
        refine ⟨(fun read => by cases read), fun ⟨_, same, within⟩ => ?_⟩
        cases negative <;> simp only [withSign, Bool.false_eq_true, if_false, if_true] at below same
        · have := zero.1
          omega
        · have := within.1
          omega
      next notBelow =>
        split
        next above =>
          refine ⟨(fun read => by cases read), fun ⟨_, same, within⟩ => ?_⟩
          cases negative <;> simp only [withSign, Bool.false_eq_true, if_false, if_true] at above same
          · have := within.2
            omega
          · have := zero.2
            omega
        next notAbove =>
          exact induction _ ⟨Int.not_lt.mp notBelow, Int.not_lt.mp notAbove⟩
    · simp only [digit, Bool.not_false, if_true, List.mem_cons, forall_eq_or_imp,
        Bool.false_eq_true, false_and, iff_false]
      exact fun read => by cases read

theorem accumulate_zero_eq_ok_iff (zero : r.Within 0) (negative : Bool) {n : Int} (ds : List Char) :
    r.accumulate negative 0 ds = .ok n ↔ (∀ c ∈ ds, c.isDigit = true) ∧
      n = withSign negative (TimestampScan.digitValue ds) ∧ r.Within n := by
  have start : withSign negative 0 = 0 := by cases negative <;> rfl
  have fromZero := accumulate_eq_ok_iff zero negative (n := n) ds 0 (start ▸ zero)
  rwa [start] at fromZero

/-! ## Whole texts -/

theorem read_plus {s : String} {ds : List Char} (text : s.toList = '+' :: ds) (more : ds ≠ []) :
    r.read s = r.accumulate false 0 ds := by
  unfold IntegerRange.read
  rw [text]
  cases ds with
  | nil => exact absurd rfl more
  | cons d rest => rfl

theorem read_minus {s : String} {ds : List Char} (text : s.toList = '-' :: ds) (more : ds ≠ [])
    (signed : r.signed = true) : r.read s = r.accumulate true 0 ds := by
  unfold IntegerRange.read
  rw [text]
  cases ds with
  | nil => exact absurd rfl more
  | cons d rest => simp [signed]

theorem read_digit {s : String} {c : Char} {rest : List Char} (text : s.toList = c :: rest)
    (digit : c.isDigit = true) : r.read s = r.accumulate false 0 (c :: rest) := by
  unfold IntegerRange.read
  rw [text]
  -- a digit is no sign, so only the last pattern matches
  split
  next same => cases same
  next same => cases same; exact absurd digit (by decide)
  next same => cases same; exact absurd digit (by decide)
  next same => cases same; exact absurd digit (by decide)
  next same => cases same; exact absurd digit (by decide)
  next => rfl

/-- The reader accepts exactly an optional sign and a nonempty run of digits whose value,
with the sign, lies in the range. -/
theorem read_eq_ok_iff (zero : r.Within 0) {s : String} {n : Int} :
    r.read s = .ok n ↔ ∃ sign ds, s.toList = sign ++ ds ∧ ds ≠ [] ∧ r.SignText sign ∧
      (∀ c ∈ ds, c.isDigit = true) ∧
      n = withSign (sign == ['-']) (TimestampScan.digitValue ds) ∧ r.Within n := by
  constructor
  · intro read
    unfold IntegerRange.read at read
    split at read
    next => cases read
    next => cases read
    next => cases read
    next ds more text =>
      obtain ⟨digits, value, within⟩ := (accumulate_zero_eq_ok_iff zero false ds).mp read
      exact ⟨['+'], ds, text, more, .inr (.inl rfl), digits, value, within⟩
    next ds more text =>
      split at read
      next signed =>
        obtain ⟨digits, value, within⟩ := (accumulate_zero_eq_ok_iff zero true ds).mp read
        exact ⟨['-'], ds, text, more, .inr (.inr ⟨rfl, signed⟩), digits, value, within⟩
      next => cases read
    next empty _ _ _ _ =>
      obtain ⟨digits, value, within⟩ := (accumulate_zero_eq_ok_iff zero false s.toList).mp read
      exact ⟨[], s.toList, rfl, empty, .inl rfl, digits, value, within⟩
  · rintro ⟨sign, ds, text, more, sign_ok, digits, value, within⟩
    have accepted : ∀ negative, r.accumulate negative 0 ds = .ok n ↔ n = withSign negative
        (TimestampScan.digitValue ds) := fun negative => by
      rw [accumulate_zero_eq_ok_iff zero negative]
      exact ⟨fun h => h.2.1, fun h => ⟨digits, h, within⟩⟩
    rcases sign_ok with rfl | rfl | ⟨rfl, signed⟩
    · obtain ⟨c, rest, rfl⟩ := List.exists_cons_of_ne_nil more
      rw [read_digit text (digits c (by simp)), accepted]
      exact value
    · rw [read_plus (show s.toList = '+' :: ds from text) more, accepted]
      exact value
    · rw [read_minus (show s.toList = '-' :: ds from text) more signed, accepted]
      exact value

/-- The reader accepts exactly the texts that spell a value in range. -/
theorem read_eq_ok_iff_spells (zero : r.Within 0) {s : String} {n : Int} :
    r.read s = .ok n ↔ r.Within n ∧ r.Spells s.toList n := by
  rw [read_eq_ok_iff zero]
  constructor
  · rintro ⟨sign, ds, text, more, sign_ok, digits, value, within⟩
    obtain ⟨k, zeros⟩ := zeros_append_toDigits digits more
    refine ⟨within, sign, k, ?_, ?_⟩
    · rw [text, zeros, List.append_assoc]
      congr 3
      rcases sign_ok with rfl | rfl | ⟨rfl, -⟩ <;> simp [value, withSign]
    · rcases sign_ok with rfl | rfl | ⟨rfl, signed⟩
      · exact .inl ⟨.inl rfl, by simp [value, withSign]⟩
      · exact .inl ⟨.inr rfl, by simp [value, withSign]⟩
      · exact .inr ⟨rfl, signed, by simp [value, withSign]⟩
  · rintro ⟨within, sign, k, text, agrees⟩
    have digits := (TimestampScan.toDigits_reads n.natAbs).1
    have magnitude : TimestampScan.digitValue (List.replicate k '0' ++ Nat.toDigits 10 n.natAbs) =
        n.natAbs := by
      rw [digitValue_zeros_append]
      exact (TimestampScan.toDigits_reads n.natAbs).2
    refine ⟨sign, List.replicate k '0' ++ Nat.toDigits 10 n.natAbs, by rw [text, List.append_assoc],
      by simp [Nat.toDigits_ne_nil], ?_, ?_, ?_, within⟩
    · rcases agrees with ⟨rfl | rfl, -⟩ | ⟨rfl, signed, -⟩
      · exact .inl rfl
      · exact .inr (.inl rfl)
      · exact .inr (.inr ⟨rfl, signed⟩)
    · intro c mem
      rcases List.mem_append.mp mem with zero | digit
      · rw [List.eq_of_mem_replicate zero]
        rfl
      · exact digits c digit
    · rw [magnitude]
      rcases agrees with ⟨rfl | rfl, nonneg⟩ | ⟨rfl, -, nonpos⟩
      · rw [withSign, if_neg (by decide)]
        omega
      · rw [withSign, if_neg (by decide)]
        omega
      · rw [withSign, if_pos (by decide)]
        omega

/-! ## The printed text -/

/-- An integer is printed as a minus sign when it is negative, then the digits of its
magnitude. -/
theorem toString_toList (n : Int) :
    (toString n).toList = (if n < 0 then ['-'] else []) ++ Nat.toDigits 10 n.natAbs := by
  cases n with
  | ofNat m => simp [Int.toString_eq_repr, Int.repr, Nat.toList_repr]
  | negSucc m =>
    simp [Int.toString_eq_repr, Int.repr, Nat.toList_repr, Int.natAbs_negSucc]

/-- The printed text of a value in range reads back as the value. -/
theorem read_toString (zero : r.Within 0) {n : Int} (within : r.Within n)
    (signed : n < 0 → r.signed = true) : r.read (toString n) = .ok n := by
  rw [read_eq_ok_iff_spells zero]
  refine ⟨within, if n < 0 then ['-'] else [], 0, by rw [toString_toList]; simp, ?_⟩
  by_cases negative : n < 0
  · exact .inr ⟨by simp [negative], signed negative, by omega⟩
  · exact .inl ⟨.inl (by simp [negative]), by omega⟩

end IntegerRange

end OutboxReplicator
