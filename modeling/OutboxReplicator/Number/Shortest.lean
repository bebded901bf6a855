import OutboxReplicator.Number.Binary64
/-!
# The shortest decimal that reads back

Every finite binary64 `x` is the nearest binary64 to each real of an interval around
it: half way to each neighbour, the ends included when the significand is even.
The text of `x` uses the fewest significant decimal digits whose value lies in that
interval; of two such decimals the nearer one wins, and an exact tie goes to the even
last digit.

The search tries 1, 2, … 17 digits.  For `n` digits it looks only at the two decimals
of `n` digits next to `x`: if any decimal of `n` digits lies in the interval, so does
one of those two.  Everything is exact arithmetic on `Nat`, in units of a quarter of
the spacing of binary64 values around `x`.

`FloatStyle` holds the choices of the written form: which exponents are written
positionally, the exponent mark, and whether a positive exponent has a sign.
-/

namespace OutboxReplicator

namespace Binary64

/-- A decimal `digits · 10 ^ exponent`. -/
structure Decimal where
  /-- The significant digits, as a number. -/
  digits : Nat
  /-- The power of ten of the last digit. -/
  exponent : Int
  deriving DecidableEq, Repr

/-- The interval of reals that read back as a positive value, in units of a quarter of
the spacing `2 ^ exponent`: the value is `4m`, the upper end `4m + 2`, and the lower
end `4m - 2`, or `4m - 1` where the spacing below is half as wide (at the bottom of a
binade). -/
structure Interval where
  /-- Four times the significand. -/
  mid : Nat
  /-- The lower end. -/
  low : Nat
  /-- The upper end. -/
  high : Nat
  /-- Whether the ends read back too (the significand is even). -/
  closed : Bool
  /-- The exponent of the unit: a unit is `2 ^ (exponent - 2)`. -/
  unitExp : Int

/-- The interval of a positive value with the given significand and exponent. -/
def interval (m : Nat) (e : Int) : Interval :=
  let lowGap := if m = Nat.pow 2 52 ∧ minExponent < e then 1 else 2
  { mid := 4 * m, low := 4 * m - lowGap, high := 4 * m + 2, closed := m % 2 == 0,
    unitExp := e - 2 }

/-- The fraction `(X · 2 ^ unitExp) / 10 ^ t` as a numerator and a denominator. -/
def Interval.ratio (iv : Interval) (X : Nat) (t : Int) : Nat × Nat :=
  let num := X * Nat.pow 2 iv.unitExp.toNat * Nat.pow 10 (-t).toNat
  let den := Nat.pow 2 (-iv.unitExp).toNat * Nat.pow 10 t.toNat
  (num, den)

/-- Whether `k · 10 ^ t` lies in the interval. -/
def Interval.contains (iv : Interval) (k : Nat) (t : Int) : Bool :=
  let lo := iv.ratio iv.low t
  let hi := iv.ratio iv.high t
  if iv.closed then lo.1 ≤ k * lo.2 && k * hi.2 ≤ hi.1
  else lo.1 < k * lo.2 && k * hi.2 < hi.1

/-- `⌊log₁₀ v⌋` for the value `v = m · 2 ^ e > 0`.  The estimate `⌊b · log₁₀ 2⌋` from
the bit length `b` is at most one too small, and one comparison settles it. -/
def floorLog10 (m : Nat) (e : Int) : Int :=
  let bits : Int := (Nat.log2 m : Int) + e
  let e0 := (bits * 78913) / 262144
  let iv := interval m e
  let r := iv.ratio iv.mid (e0 + 1)
  if r.2 ≤ r.1 then e0 + 1 else e0

/-- The decimal of `n` significant digits nearest to the value inside the interval, if
there is one.  The candidates are the two decimals of that length next to the value. -/
def candidate (iv : Interval) (lead : Int) (n : Nat) : Option Decimal :=
  let t := lead - (n : Int) + 1
  let r := iv.ratio iv.mid t
  let below := r.1 / r.2
  let exact := r.1 % r.2 == 0
  let above := if exact then below else below + 1
  let okBelow := iv.contains below t
  let okAbove := iv.contains above t
  if okBelow && okAbove then
    -- the nearer one; an exact tie goes to the even last digit
    let dBelow := r.1 - below * r.2
    let dAbove := above * r.2 - r.1
    if dBelow < dAbove then some ⟨below, t⟩
    else if dAbove < dBelow then some ⟨above, t⟩
    else if below % 2 == 0 then some ⟨below, t⟩ else some ⟨above, t⟩
  else if okBelow then some ⟨below, t⟩
  else if okAbove then some ⟨above, t⟩
  else none

/-- The first length among `n, n+1, …, n+fuel-1` that has a decimal in the interval. -/
def firstCandidate (iv : Interval) (lead : Int) : Nat → Nat → Option Decimal
  | _, 0 => none
  | n, fuel + 1 =>
    match candidate iv lead n with
    | some d => some d
    | none => firstCandidate iv lead (n + 1) fuel

/-- Drop trailing zero digits, raising the exponent for each. -/
def Decimal.trim : Decimal → Nat → Decimal
  | d, 0 => d
  | d, fuel + 1 =>
    if d.digits ≠ 0 ∧ d.digits % 10 = 0 then
      Decimal.trim ⟨d.digits / 10, d.exponent + 1⟩ fuel
    else d

/-- The shortest decimal that reads back as the magnitude of `x`.  Zero is `0 · 10^0`.
Seventeen digits always suffice; the seventeen-digit decimal nearest to the value is
the answer should the search find nothing. -/
def shortest (x : Binary64) : Decimal :=
  if x.significand = 0 then ⟨0, 0⟩
  else
    let iv := interval x.significand x.exponent
    let lead := floorLog10 x.significand x.exponent
    let found := match firstCandidate iv lead 1 17 with
      | some d => d
      | none =>
        let t := lead - 16
        let r := iv.ratio iv.mid t
        ⟨roundHalfEven r.1 r.2, t⟩
    found.trim 400

end Binary64

/-- How a binary64 is written: a value whose leading digit has decimal exponent in
`[minPositional, maxPositional]` is written with a point and at least one digit on each
side of it; any other value as one digit, a point and the rest of the digits if there
are more, the exponent mark and the exponent. -/
structure FloatStyle where
  /-- The least leading-digit exponent written positionally. -/
  minPositional : Int
  /-- The greatest leading-digit exponent written positionally. -/
  maxPositional : Int
  /-- The text between significand and exponent. -/
  exponentMark : String
  /-- Whether a non-negative exponent is written with a plus sign. -/
  plusSign : Bool

namespace FloatStyle

/-- `count` zero characters. -/
def zeros (count : Nat) : String := String.ofList (List.replicate count '0')

/-- The digits `ds` (no trailing zeros) with leading-digit exponent `lead`, positionally. -/
def positional (ds : String) (lead : Int) : String :=
  let len := ds.length
  if lead < 0 then
    "0." ++ zeros ((-lead).toNat - 1) ++ ds
  else
    let whole := lead.toNat + 1
    if len ≤ whole then ds ++ zeros (whole - len) ++ ".0"
    else String.ofList (ds.toList.take whole) ++ "." ++ String.ofList (ds.toList.drop whole)

/-- The digits `ds` with leading-digit exponent `lead`, in exponent form. -/
def scientific (style : FloatStyle) (ds : String) (lead : Int) : String :=
  let cs := ds.toList
  let head := String.ofList (cs.take 1)
  let tail := String.ofList (cs.drop 1)
  let mantissa := if tail.isEmpty then head else head ++ "." ++ tail
  let sign := if lead < 0 then "-" else if style.plusSign then "+" else ""
  mantissa ++ style.exponentMark ++ sign ++ toString lead.natAbs

/-- The text of a binary64 in this style: the shortest decimal that reads back, with a
minus sign for a negative value, `-0.0` included. -/
def render (style : FloatStyle) (x : Binary64) : String :=
  let d := x.shortest
  let ds := toString d.digits
  let lead := d.exponent + (ds.length : Int) - 1
  let body :=
    if d.digits = 0 then "0.0"
    else if style.minPositional ≤ lead ∧ lead ≤ style.maxPositional then positional ds lead
    else style.scientific ds lead
  (if x.negative then "-" else "") ++ body

end FloatStyle

/-- Numbers in JSON text: positional from `1e-5` up to below `1e16`, otherwise an `e`
with a signed exponent, as in `1e+300` and `1e-7`. -/
def FloatStyle.json : FloatStyle :=
  { minPositional := -5, maxPositional := 15, exponentMark := "e", plusSign := true }

end OutboxReplicator
