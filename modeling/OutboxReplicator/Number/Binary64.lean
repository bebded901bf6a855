/-!
# Binary64 values as exact fractions

A finite binary64 value is a sign, a significand `m` and a binary exponent `e`, and
stands for `± m · 2^e`.  Reading a decimal produces the normal form: either
`2^52 ≤ m < 2^53` with `-1074 ≤ e ≤ 971`, or a subnormal `m < 2^52` with `e = -1074`.
Zero is `m = 0`, `e = -1074`, and it keeps its sign.

Every operation rounds its exact result to the nearest binary64, a tie going to the
even significand, and refuses a result too large for the format.  All arithmetic is on
`Nat`: no runtime float operation is involved, so every step can be reasoned about.
-/

namespace OutboxReplicator

/-- A finite binary64 value `± significand · 2 ^ exponent`. -/
structure Binary64 where
  /-- The sign bit; `-0.0` has it set. -/
  negative : Bool
  /-- The significand, below `2 ^ 53`. -/
  significand : Nat
  /-- The binary exponent, between `-1074` and `971`. -/
  exponent : Int
  deriving DecidableEq, Repr

namespace Binary64

/-- The exponent of every subnormal value and of zero. -/
def minExponent : Int := -1074

/-- The exponent of the largest finite values. -/
def maxExponent : Int := 971

/-- Positive zero. -/
def zero : Binary64 := ⟨false, 0, minExponent⟩

/-- The fraction `a / (b · 2^e)`, as a numerator and a denominator in `Nat`. -/
def scaleDown (a b : Nat) (e : Int) : Nat × Nat :=
  if 0 ≤ e then (a, b * Nat.pow 2 e.toNat) else (a * Nat.pow 2 (-e).toNat, b)

/-- `⌊log₂ (a / b)⌋` for positive `a` and `b`.  The difference of the two bit lengths is
off by at most one, and one comparison settles which. -/
def floorLog2Ratio (a b : Nat) : Int :=
  let e : Int := (Nat.log2 a : Int) - (Nat.log2 b : Int)
  let nd := scaleDown a b e
  if nd.2 ≤ nd.1 then e else e - 1

/-- The quotient `n / d` rounded to the nearest integer, a tie going to the even one. -/
def roundHalfEven (n d : Nat) : Nat :=
  let q := n / d
  let r := n % d
  if d < 2 * r ∨ (2 * r = d ∧ q % 2 = 1) then q + 1 else q

/-- The binary64 nearest to `a / b`, with the given sign; `none` when it is too large for
the format.  The exponent is chosen so that the significand has 53 bits, or is the least
one for a subnormal; a significand rounded up to `2 ^ 53` moves to the next binade. -/
def ofRatio (negative : Bool) (a b : Nat) : Option Binary64 :=
  if a = 0 then some ⟨negative, 0, minExponent⟩ else
  let e := max (floorLog2Ratio a b - 52) minExponent
  let nd := scaleDown a b e
  let q := roundHalfEven nd.1 nd.2
  let qe : Nat × Int := if q = Nat.pow 2 53 then (Nat.pow 2 52, e + 1) else (q, e)
  if maxExponent < qe.2 then none else some ⟨negative, qe.1, qe.2⟩

/-- The exact value of the magnitude as a fraction: numerator and denominator. -/
def toRatio (x : Binary64) : Nat × Nat :=
  if 0 ≤ x.exponent then (x.significand * Nat.pow 2 x.exponent.toNat, 1)
  else (x.significand, Nat.pow 2 (-x.exponent).toNat)

/-- The binary64 nearest to a natural number; `none` when it is too large. -/
def ofNat (n : Nat) : Option Binary64 := ofRatio false n 1

/-- The product, rounded to the nearest binary64 as every operation is; `none` when it
overflows.  The sign is the exclusive or of the signs. -/
def mul (x y : Binary64) : Option Binary64 :=
  let (a, b) := x.toRatio
  let (c, d) := y.toRatio
  ofRatio (x.negative != y.negative) (a * c) (b * d)

/-- The quotient by a nonzero value, rounded to the nearest binary64; `none` when it
overflows. -/
def div (x y : Binary64) : Option Binary64 :=
  let (a, b) := x.toRatio
  let (c, d) := y.toRatio
  ofRatio (x.negative != y.negative) (a * d) (b * c)

/-- The value with the opposite sign. -/
def neg (x : Binary64) : Binary64 := { x with negative := !x.negative }

/-- Whether the value is zero, of either sign. -/
def isZero (x : Binary64) : Bool := x.significand == 0

end Binary64

end OutboxReplicator
