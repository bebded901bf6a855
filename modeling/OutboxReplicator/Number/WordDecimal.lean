import OutboxReplicator.Number.Binary64
/-!
# Decimals held in a machine word

A fast reader of decimal text keeps the digits of a number in a 64-bit word and counts
a power of ten beside it in a signed 32-bit one.

* Digits are appended to the word while it holds them.
* From the first digit that would overflow it, each further digit of the integer part
  raises the power by one, and the fraction's digits are dropped.  A fraction digit
  that still fits after the integer part overflowed is appended.
* The exponent's digits accumulate while a signed 32-bit value holds them.  Adding the
  exponent to the power saturates.

The value is then the word rounded to binary64, scaled by a power `10 ^ k`:

* for `|k| ≤ 308`, one multiplication or division by the binary64 nearest `10 ^ |k|`,
  rounded;
* for `k < -308`, first a division by `1e308`, until the power is in range or the value
  is zero;
* for `k > 308`, too large unless the value is zero.

Rounding twice, once for the word and once for the scaling, can miss the binary64
nearest to the decimal: `1.5e-300` reads as `1.4999999999999998e-300`.
-/

namespace OutboxReplicator

/-- A decimal `significand · 10 ^ exponent` as a reader holds it. -/
structure WordDecimal where
  /-- The digits kept, below `2 ^ 64`. -/
  significand : Nat
  /-- The power of ten. -/
  exponent : Int
  deriving DecidableEq, Repr

namespace WordDecimal

/-- The largest significand: the largest 64-bit word. -/
def maxSignificand : Nat := Nat.pow 2 64 - 1

/-- The largest power of ten counted: the largest signed 32-bit value. -/
def maxPower : Int := Int.pow 2 31 - 1

/-- The least power of ten counted: the least signed 32-bit value. -/
def minPower : Int := -Int.pow 2 31

/-- A power of ten held to the signed 32-bit range. -/
def saturate (k : Int) : Int := max minPower (min maxPower k)

/-- The word with a digit appended, unless it would overflow. -/
def appendDigit? (significand digit : Nat) : Option Nat :=
  if significand * 10 + digit ≤ maxSignificand then some (significand * 10 + digit) else none

/-- An exponent with a digit appended, unless it would pass `maxPower`. -/
def appendExponentDigit? (exponent digit : Nat) : Option Nat :=
  if ((exponent * 10 + digit : Nat) : Int) ≤ maxPower then some (exponent * 10 + digit) else none

/-- The word and the power after the integer digits: digits are appended while the
word holds them, and each digit after that raises the power. -/
def ofIntegerDigits (ds : List Nat) : WordDecimal :=
  let rec go : Bool → WordDecimal → List Nat → WordDecimal
    | _, w, [] => w
    | true, w, _ :: rest => go true { w with exponent := w.exponent + 1 } rest
    | false, w, d :: rest =>
      match appendDigit? w.significand d with
      | some s => go false { w with significand := s } rest
      | none => go true { w with exponent := w.exponent + 1 } rest
  go false ⟨0, 0⟩ ds

/-- The word and the power after fraction digits: each digit is appended, lowering the
power, until one would overflow the word; that one and the rest are dropped. -/
def appendFraction (w : WordDecimal) : List Nat → WordDecimal
  | [] => w
  | d :: rest =>
    match appendDigit? w.significand d with
    | some s => appendFraction ⟨s, w.exponent - 1⟩ rest
    | none => w

/-- The value of exponent digits, or the number of digits read when one overflows
`maxPower`. -/
def exponentValue (ds : List Nat) : Except Nat Nat :=
  let rec go : Nat → Nat → List Nat → Except Nat Nat
    | e, _, [] => .ok e
    | e, n, d :: rest =>
      match appendExponentDigit? e d with
      | some e => go e (n + 1) rest
      | none => .error (n + 1)
  go 0 0 ds

/-- The largest power of ten taken in one step. -/
def maxStep : Nat := 308

/-- The binary64 nearest to `10 ^ k`. -/
def pow10 (k : Nat) : Option Binary64 := Binary64.ofNat (Nat.pow 10 k)

/-- Scale a binary64 by `10 ^ k` in rounded steps; `none` when it overflows. -/
def scale (f : Binary64) (k : Int) : Option Binary64 :=
  if 0 ≤ k then
    if k ≤ maxStep then (pow10 k.toNat).bind f.mul
    else if f.isZero then some f else none
  else if -(maxStep : Int) ≤ k then (pow10 (-k).toNat).bind f.div
  else if f.isZero then some f
  else ((pow10 maxStep).bind f.div).bind fun g => scale g (k + maxStep)
termination_by (-k).toNat
decreasing_by simp only [maxStep] at *; omega

/-- The binary64 of the decimal with a sign; `none` when it is too large. -/
def toBinary64 (negative : Bool) (w : WordDecimal) : Option Binary64 :=
  ((Binary64.ofNat w.significand).bind fun f => scale f w.exponent).map fun x =>
    if negative then x.neg else x

end WordDecimal

end OutboxReplicator
