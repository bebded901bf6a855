import OutboxReplicator.Time.Instant
/-!
# Writing instants

An instant is written in the RFC 3339 form `YYYY-MM-DDTHH:MM:SS`, a fraction and a
suffix for UTC.  A year from 0 to 9999 has four digits; any other year has a sign and
at least four digits, as in `+10000` and `-0001`.  A leap second is written as second
60.

`TimestampStyle` chooses the fraction and the suffix.  The fraction is either exactly
three digits, cut and not rounded, or the fewest of 0, 3, 6 or 9 digits that show the
nanoseconds exactly.
-/

namespace OutboxReplicator

/-- The digits shown after the seconds. -/
inductive FractionDigits where
  /-- None, 3, 6 or 9 digits: the fewest that are exact. -/
  | fewest
  /-- Always 3 digits, the rest cut off. -/
  | millis
  deriving DecidableEq, Repr

/-- How an instant is written. -/
structure TimestampStyle where
  /-- The fraction digits. -/
  fraction : FractionDigits
  /-- The text after the time that marks UTC. -/
  suffix : String

namespace TimestampStyle

/-- Timestamps of entities: the fewest exact fraction digits and `Z`. -/
def fewest : TimestampStyle := ⟨.fewest, "Z"⟩

/-- Timestamps of outbox records: milliseconds and `Z`. -/
def millis : TimestampStyle := ⟨.millis, "Z"⟩

/-- Timestamps as the tables store them and compare them: the fewest exact fraction
digits and `+00:00`. -/
def stored : TimestampStyle := ⟨.fewest, "+00:00"⟩

end TimestampStyle

/-- `n` in decimal, with zeros in front up to `width` digits. -/
def padNat (width n : Nat) : String :=
  let s := toString n
  String.ofList (List.replicate (width - s.length) '0') ++ s

namespace Instant

/-- The year as written: four digits from 0 to 9999, else a sign and at least four. -/
def yearText (y : Int) : String :=
  if 0 ≤ y ∧ y ≤ 9999 then padNat 4 y.toNat
  else (if y < 0 then "-" else "+") ++ padNat 4 y.natAbs

/-- The fraction after the seconds, with its point. -/
def fractionText (f : FractionDigits) (nanos : Nat) : String :=
  match f with
  | .millis => "." ++ padNat 3 (nanos / 1000000)
  | .fewest =>
    if nanos = 0 then ""
    else if nanos % 1000000 = 0 then "." ++ padNat 3 (nanos / 1000000)
    else if nanos % 1000 = 0 then "." ++ padNat 6 (nanos / 1000)
    else "." ++ padNat 9 nanos

/-- The text of an instant in a style.  In a leap second the seconds are one more and
the nanoseconds `10^9` less. -/
def format (style : TimestampStyle) (t : Instant) : String :=
  let d := t.date
  let sod := t.secondOfDay
  let leap := nanosPerSecond ≤ t.nanos
  let sec := sod % 60 + (if leap then 1 else 0)
  let nanos := if leap then t.nanos - nanosPerSecond else t.nanos
  yearText d.year ++ "-" ++ padNat 2 d.month ++ "-" ++ padNat 2 d.day ++ "T" ++
    padNat 2 (sod / 3600) ++ ":" ++ padNat 2 (sod / 60 % 60) ++ ":" ++ padNat 2 sec ++
    fractionText style.fraction nanos ++ style.suffix

end Instant

end OutboxReplicator
