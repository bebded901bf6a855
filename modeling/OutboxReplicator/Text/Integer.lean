/-!
# Integers in decimal text

Reading an integer of a bounded type from text: an optional `+`, or `-` for a signed
type, then decimal digits and nothing else.  No blank, underscore, base prefix or
non-ASCII digit is a digit.  Digits are taken from the left, and the first fault met
decides the error: a character that is no digit, or a value past the type's bounds.
-/

namespace OutboxReplicator

/-- Why a text is not an integer of the wanted type. -/
inductive IntegerError where
  /-- The text is empty. -/
  | empty
  /-- A character is not a digit, or a sign stands alone. -/
  | invalidDigit
  /-- The value is above the type's maximum. -/
  | tooLarge
  /-- The value is below the type's minimum. -/
  | tooSmall
  deriving DecidableEq, Repr

namespace IntegerError

/-- The text of the error. -/
def message : IntegerError → String
  | .empty => "cannot parse integer from empty string"
  | .invalidDigit => "invalid digit found in string"
  | .tooLarge => "number too large to fit in target type"
  | .tooSmall => "number too small to fit in target type"

end IntegerError

/-- The range of an integer type: its least and greatest values, and whether a leading
minus sign is read at all. -/
structure IntegerRange where
  /-- The least value. -/
  least : Int
  /-- The greatest value. -/
  greatest : Int
  /-- Whether the type has negative values, so that `-` is a sign. -/
  signed : Bool

namespace IntegerRange

/-- 64-bit signed integers. -/
def i64 : IntegerRange := ⟨-(Int.pow 2 63), Int.pow 2 63 - 1, true⟩

/-- 32-bit signed integers. -/
def i32 : IntegerRange := ⟨-(Int.pow 2 31), Int.pow 2 31 - 1, true⟩

/-- 64-bit unsigned integers. -/
def u64 : IntegerRange := ⟨0, Int.pow 2 64 - 1, false⟩

/-- 16-bit unsigned integers. -/
def u16 : IntegerRange := ⟨0, Int.pow 2 16 - 1, false⟩

/-- Whether the value is in the range. -/
def contains (r : IntegerRange) (i : Int) : Bool := r.least ≤ i ∧ i ≤ r.greatest

/-- Fold the digits into `acc`, moving away from zero in the direction of the sign. -/
def accumulate (r : IntegerRange) (negative : Bool) : Int → List Char → Except IntegerError Int
  | acc, [] => .ok acc
  | acc, c :: rest =>
    if !c.isDigit then .error .invalidDigit
    else
      let d : Int := (c.toNat - '0'.toNat : Nat)
      let next := if negative then acc * 10 - d else acc * 10 + d
      if next < r.least then .error .tooSmall
      else if r.greatest < next then .error .tooLarge
      else accumulate r negative next rest

/-- The integer of this range that the text spells. -/
def read (r : IntegerRange) (s : String) : Except IntegerError Int :=
  match s.toList with
  | [] => .error .empty
  | ['+'] => .error .invalidDigit
  | ['-'] => .error .invalidDigit
  | '+' :: ds => r.accumulate false 0 ds
  | '-' :: ds => if r.signed then r.accumulate true 0 ds else .error .invalidDigit
  | ds => r.accumulate false 0 ds

end IntegerRange

end OutboxReplicator
