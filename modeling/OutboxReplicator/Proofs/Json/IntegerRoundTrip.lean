import OutboxReplicator.Json.Reader
import OutboxReplicator.Json.Writer
import OutboxReplicator.Proofs.Text.IntegerText
import Mathlib.Data.List.TakeDrop
import Mathlib.Data.List.TakeWhile
/-!
# Integers through JSON text

The writer gives an integer as its decimal text, and the reader reads the text of every
integer of its integer kinds back as the same value (`Json.read_render_int`): unsigned
below `2 ^ 64`, signed down to `-2 ^ 63`.  Decimal text has no leading zero, so the number
grammar takes all of it; its digits fit the reader's word, so `WordDecimal.ofIntegerDigits`
keeps every one of them and raises no power of ten; and with no fraction nor exponent the
number keeps its integer kind.
-/

namespace OutboxReplicator

/-- Decimal text starts with a zero only when it is the text of zero. -/
theorem toDigits_eq_cons (m : Nat) :
    ∃ d rest, Nat.toDigits 10 m = d :: rest ∧ (d = '0' → m = 0) := by
  induction m using Nat.strongRecOn with
  | _ m induction =>
    rcases Nat.lt_or_ge m 10 with small | large
    · have single : ∀ m, m < 10 → Nat.digitChar m = '0' → m = 0 := by decide
      exact ⟨_, [], Nat.toDigits_of_lt_base small, single m small⟩
    · obtain ⟨d, rest, front, lead⟩ := induction (m / 10) (Nat.div_lt_self (by omega) (by decide))
      refine ⟨d, rest ++ [Nat.digitChar (m % 10)], ?_, fun zero => ?_⟩
      · rw [Nat.toDigits_of_base_le (by decide) large, front, List.cons_append]
      · have := lead zero
        omega

namespace WordDecimal

theorem le_foldl_decimal (m : Nat) (ds : List Nat) : m ≤ ds.foldl (fun n d => n * 10 + d) m := by
  induction ds generalizing m with
  | nil => exact Nat.le_refl m
  | cons d rest induction => exact Nat.le_trans (by omega) (induction (m * 10 + d))

/-- Digits whose value fits the word are all kept, with the power left as it was. -/
theorem ofIntegerDigits_go (ds : List Nat) (s : Nat) (e : Int)
    (fits : ds.foldl (fun n d => n * 10 + d) s ≤ maxSignificand) :
    ofIntegerDigits.go false ⟨s, e⟩ ds = ⟨ds.foldl (fun n d => n * 10 + d) s, e⟩ := by
  induction ds generalizing s with
  | nil => rfl
  | cons d rest induction =>
    have kept : s * 10 + d ≤ maxSignificand := Nat.le_trans (le_foldl_decimal _ rest) fits
    simp only [ofIntegerDigits.go, appendDigit?, if_pos kept]
    exact induction (s * 10 + d) fits

theorem ofIntegerDigits_toDigits {m : Nat} (fits : m ≤ maxSignificand) :
    ofIntegerDigits ((Nat.toDigits 10 m).map fun c => c.toNat - '0'.toNat) = ⟨m, 0⟩ := by
  have value : ((Nat.toDigits 10 m).map fun c => c.toNat - '0'.toNat).foldl
      (fun n d => n * 10 + d) 0 = m := by
    rw [List.foldl_map]
    exact (TimestampScan.toDigits_reads m).2
  unfold ofIntegerDigits
  rw [ofIntegerDigits_go _ 0 0 (by rw [value]; exact fits), value]

end WordDecimal

namespace JsonText

theorem digitRun_digits {ds : List Char} (digits : ∀ c ∈ ds, c.isDigit = true) :
    digitRun ds = (ds.map fun c => c.toNat - '0'.toNat, []) := by
  simp [digitRun, List.span_eq_takeWhile_dropWhile, List.takeWhile_eq_self_iff.mpr digits,
    List.dropWhile_eq_nil_iff.mpr digits]

/-- Digits with no zero in front, up to the end of the text, are an integer part alone. -/
theorem readNumberText_digits (negative : Bool) {d : Char} {rest : List Char} (offset : Nat)
    (digits : ∀ c ∈ d :: rest, c.isDigit = true) (lead : d = '0' → rest = []) :
    readNumberText negative ⟨d :: rest, offset⟩ =
      .ok (⟨negative, (d :: rest).map fun c => c.toNat - '0'.toNat, [], none⟩,
        ⟨[], offset + (d :: rest).length⟩) := by
  by_cases zero : d = '0'
  · subst zero
    simp [readNumberText, lead rfl]
    rfl
  · simp [readNumberText, zero, digits d List.mem_cons_self, digitRun_digits digits]
    rfl

/-- The decimal text of a number, up to the end of the text. -/
theorem readNumber_toDigits (negative : Bool) (m offset : Nat) :
    readNumber negative ⟨Nat.toDigits 10 m, offset⟩ =
      (NumberText.value ⟨negative, (Nat.toDigits 10 m).map fun c => c.toNat - '0'.toNat, [], none⟩
        (offset + (Nat.toDigits 10 m).length)).map
        fun n => (.number n, ⟨[], offset + (Nat.toDigits 10 m).length⟩) := by
  obtain ⟨d, rest, text, lead⟩ := toDigits_eq_cons m
  have digits : ∀ c ∈ d :: rest, c.isDigit = true := by
    rw [← text]
    exact (TimestampScan.toDigits_reads m).1
  have noZeros : d = '0' → rest = [] := by
    intro zero
    have single := text
    rw [lead zero, Nat.toDigits_zero, List.cons.injEq] at single
    exact single.2.symm
  rw [text, readNumber, readNumberText_digits negative offset digits noZeros]
  simp only [bind, Except.bind]
  cases NumberText.value _ _ <;> rfl

theorem value_unsigned {m : Nat} (fits : m ≤ WordDecimal.maxSignificand) (stop : Nat) :
    NumberText.value ⟨false, (Nat.toDigits 10 m).map fun c => c.toNat - '0'.toNat, [], none⟩ stop =
      .ok (.unsigned m) := by
  rw [NumberText.value, WordDecimal.ofIntegerDigits_toDigits fits]
  rfl

theorem value_signed {m : Nat} (positive : 0 < m) (fits : m ≤ Nat.pow 2 63) (stop : Nat) :
    NumberText.value ⟨true, (Nat.toDigits 10 m).map fun c => c.toNat - '0'.toNat, [], none⟩ stop =
      .ok (.signed (-(m : Int))) := by
  have word : m ≤ WordDecimal.maxSignificand := Nat.le_trans fits (by decide)
  rw [NumberText.value, WordDecimal.ofIntegerDigits_toDigits word]
  simp [positive, fits]

theorem isBlank_of_isDigit {d : Char} (digit : d.isDigit = true) : Cursor.isBlank d = false := by
  have bounds := isDigit_bounds digit
  simp only [Cursor.isBlank, Bool.or_eq_false_iff, decide_eq_false_iff_not]
  refine ⟨⟨⟨?_, ?_⟩, ?_⟩, ?_⟩ <;> intro same <;> subst same <;> simp at bounds

/-- A value that starts with a digit is a number. -/
theorem readValue_digit (fuel depth offset : Nat) {d : Char} {rest : List Char}
    (digit : d.isDigit = true) :
    readValue (fuel + 1) depth ⟨d :: rest, offset⟩ = readNumber false ⟨d :: rest, offset⟩ := by
  simp only [readValue, Cursor.skipBlank, Cursor.skipBlankFrom, isBlank_of_isDigit digit,
    Bool.false_eq_true, if_false]
  -- the match tries seven leading characters before the digits; a digit is none of them
  split <;> rename_i heq
  case h_1 => cases heq
  case h_9 =>
    obtain ⟨rfl, -⟩ := List.cons.inj heq
    simp [digit]
  all_goals
    obtain ⟨rfl, -⟩ := List.cons.inj heq
    exact absurd digit (by decide)

theorem readValue_toDigits (fuel depth offset m : Nat) :
    readValue (fuel + 1) depth ⟨Nat.toDigits 10 m, offset⟩ =
      readNumber false ⟨Nat.toDigits 10 m, offset⟩ := by
  obtain ⟨d, rest, text, -⟩ := toDigits_eq_cons m
  have digit : d.isDigit = true := (TimestampScan.toDigits_reads m).1 d (by simp [text])
  rw [text, readValue_digit fuel depth offset digit]

theorem readValue_minus (fuel depth offset : Nat) (rest : List Char) :
    readValue (fuel + 1) depth ⟨'-' :: rest, offset⟩ = readNumber true ⟨rest, offset + 1⟩ := by
  simp [readValue, Cursor.skipBlank, Cursor.skipBlankFrom, Cursor.isBlank]

end JsonText

namespace Json

theorem render_int (n : Int) : render (int n) = toString n := by
  unfold int
  split
  next nonNegative =>
    obtain ⟨m, rfl⟩ := Int.eq_ofNat_of_zero_le nonNegative
    rfl
  next => simp [render, JsonNumber.render]

/-- A text whose value the reader takes up to its very end reads as that value. -/
theorem read_of_readValue {text : String} {v : Json}
    (whole : JsonText.readValue (4 * text.toList.length + 4) JsonText.depthLimit
      ⟨text.toList, 0⟩ = .ok (v, ⟨[], text.toList.length⟩)) : read text = .ok v := by
  simp only [read, whole]
  rfl

/-- The text of every integer of the reader's integer kinds reads back as the integer. -/
theorem read_render_int {n : Int} (low : -Int.pow 2 63 ≤ n)
    (high : n ≤ WordDecimal.maxSignificand) : read (render (int n)) = .ok (int n) := by
  rw [render_int]
  apply read_of_readValue
  -- the fuel is one step more than some count: enough for a number
  rw [show ∀ k : Nat, 4 * k + 4 = (4 * k + 3) + 1 from fun _ => rfl, IntegerRange.toString_toList]
  by_cases negative : n < 0
  · have positive : 0 < n.natAbs := by omega
    have least : n.natAbs ≤ Nat.pow 2 63 := by
      have : Int.pow 2 63 = ((Nat.pow 2 63 : Nat) : Int) := rfl
      omega
    have sign : -(n.natAbs : Int) = n := by omega
    rw [if_pos negative, List.singleton_append, JsonText.readValue_minus,
      JsonText.readNumber_toDigits, JsonText.value_signed positive least, sign]
    simp only [Except.map, int, if_neg (Int.not_le.mpr negative)]
    rw [List.length_cons, Nat.zero_add, Nat.add_comm]
  · have same : n.natAbs = n.toNat := by omega
    rw [if_neg negative, List.nil_append, JsonText.readValue_toDigits,
      JsonText.readNumber_toDigits, JsonText.value_unsigned (by omega)]
    simp [Except.map, int, Int.not_lt.mp negative, same]

end Json

end OutboxReplicator
