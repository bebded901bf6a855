import OutboxReplicator.Time.Instant
import OutboxReplicator.Text.Blank
/-!
# Reading timestamps

Timestamps are read leniently.  The grammar is RFC 3339 with these freedoms:

* blanks may stand before the text, before each number, before the `-` and `:`
  separators, before the offset and after the whole text;
* the date and the time are separated by `T`, `t` or a space;
* the year has up to four digits, or a sign and any number of digits; the other fields
  have one or two digits;
* the seconds may have a fraction, of which digits past the ninth are skipped;
* the offset is `Z`, `z`, `UTC` in any case, or a sign (`+`, `-` or the minus sign
  U+2212), two digits of hours, any run of colons and blanks, and two digits of
  minutes.

The fields are checked as they are read: month 1 to 12, day 1 to 31, hour 0 to 23,
minute 0 to 59, second 0 to 60 (a leap second), offset minutes 0 to 59.  The date must
exist, the offset be less than a day, and the time, moved to UTC, lie in the calendar.
The first fault met decides the error.
-/

namespace OutboxReplicator

/-- Why a text is not a timestamp. -/
inductive TimestampError where
  /-- A field is out of its range, or the date does not exist. -/
  | outOfRange
  /-- The time, moved to UTC, falls outside the calendar. -/
  | impossible
  /-- A character is not what the grammar allows there. -/
  | invalid
  /-- The text ends too early. -/
  | tooShort
  /-- Something other than blanks follows the timestamp. -/
  | tooLong
  deriving DecidableEq, Repr

namespace TimestampError

/-- The text of the error. -/
def message : TimestampError → String
  | .outOfRange => "input is out of range"
  | .impossible => "no possible date and time matching input"
  | .invalid => "input contains invalid characters"
  | .tooShort => "premature end of input"
  | .tooLong => "trailing input"

end TimestampError

/-- The fields of a timestamp as read, before they are checked together. -/
structure TimestampFields where
  /-- The year. -/
  year : Int
  /-- The month. -/
  month : Nat
  /-- The day. -/
  day : Nat
  /-- The hour. -/
  hour : Nat
  /-- The minute. -/
  minute : Nat
  /-- The second, 60 in a leap second. -/
  second : Nat
  /-- The nanoseconds of the fraction. -/
  nanos : Nat
  /-- The offset from UTC in seconds, east positive. -/
  offset : Int
  deriving Repr

/-- A reader of a part of a timestamp: it consumes characters or fails. -/
abbrev TimestampScan := StateT (List Char) (Except TimestampError)

namespace TimestampScan

/-- Skip blanks. -/
def skipBlanks : TimestampScan Unit := modify dropBlanks

/-- The separator `c`. -/
def literal (c : Char) : TimestampScan Unit := do
  match ← get with
  | [] => throw .tooShort
  | d :: rest => if d = c then set rest else throw .invalid

/-- The longest run of at most `n` ASCII digits at the head, and what follows. -/
def takeDigits : Nat → List Char → List Char × List Char
  | 0, cs => ([], cs)
  | _ + 1, [] => ([], [])
  | n + 1, c :: rest =>
    if c.isDigit then
      let r := takeDigits n rest
      (c :: r.1, r.2)
    else ([], c :: rest)

/-- The value of ASCII digits. -/
def digitValue (ds : List Char) : Nat :=
  ds.foldl (fun n c => n * 10 + (c.toNat - '0'.toNat)) 0

/-- One to `n` digits, with their count. -/
def digits (n : Nat) : TimestampScan (Nat × Nat) := do
  let cs ← get
  if cs.isEmpty then throw .tooShort
  let (ds, rest) := takeDigits n cs
  if ds.isEmpty then throw .invalid
  set rest
  pure (digitValue ds, ds.length)

/-- A field of one or two digits after optional blanks, within `lo` and `hi`. -/
def field (lo hi : Nat) : TimestampScan Nat := do
  skipBlanks
  let (v, _) ← digits 2
  if lo ≤ v ∧ v ≤ hi then pure v else throw .outOfRange

/-- The year: four digits at most, or a sign and any number of digits. -/
def year : TimestampScan Int := do
  skipBlanks
  let cs ← get
  let v : Int ← match cs with
    | '-' :: rest => do set rest; let (v, _) ← digits rest.length; pure (-(v : Int))
    | '+' :: rest => do set rest; let (v, _) ← digits rest.length; pure (v : Int)
    | _ => do let (v, _) ← digits 4; pure (v : Int)
  if -(Int.pow 2 31) ≤ v ∧ v < Int.pow 2 31 then pure v else throw .outOfRange

/-- The fraction of the seconds, as nanoseconds; none without a point. -/
def fraction : TimestampScan Nat := do
  match ← get with
  | '.' :: rest =>
    set rest
    let (v, count) ← digits 9
    modify fun cs => cs.dropWhile Char.isDigit
    pure (v * Nat.pow 10 (9 - count))
  | _ => pure 0

/-- The separator of date and time. -/
def dateTimeSeparator : TimestampScan Unit := do
  match ← get with
  | [] => throw .tooShort
  | c :: rest => if c = 'T' ∨ c = 't' ∨ c = ' ' then set rest else throw .invalid

/-- Whether the text has at least two bytes. -/
def twoBytes : List Char → Bool
  | [] => false
  | [c] => 1 < c.utf8Size
  | _ :: _ :: _ => true

/-- Two ASCII digits of an offset's hours. -/
def offsetHours : TimestampScan Nat := do
  let cs ← get
  if !twoBytes cs then throw .tooShort
  match cs with
  | a :: b :: rest =>
    if a.isDigit ∧ b.isDigit then do set rest; pure (digitValue [a, b]) else throw .invalid
  | _ => throw .invalid

/-- Two ASCII digits of an offset's minutes, the first at most 5. -/
def offsetMinutes : TimestampScan Nat := do
  let cs ← get
  if !twoBytes cs then throw .tooShort
  match cs with
  | a :: b :: rest =>
    if a.isDigit ∧ b.isDigit then
      if a ≤ '5' then do set rest; pure (digitValue [a, b]) else throw .outOfRange
    else throw .invalid
  | _ => throw .invalid

/-- The offset from UTC in seconds. -/
def offset : TimestampScan Int := do
  skipBlanks
  let cs ← get
  match cs with
  | u :: t :: c :: rest =>
    if u.toLower = 'u' ∧ t.toLower = 't' ∧ c.toLower = 'c' then do set rest; return 0
    else signedOffset
  | _ => signedOffset
where
  /-- `Z`, or a sign, hours and minutes. -/
  signedOffset : TimestampScan Int := do
    match ← get with
    | [] => throw .tooShort
    | c :: rest =>
      if c = 'Z' ∨ c = 'z' then do set rest; return 0
      let negative ←
        if c = '+' then pure false
        else if c = '-' ∨ c = '−' then pure true
        else throw .invalid
      set rest
      let h ← offsetHours
      modify fun cs => cs.dropWhile fun c => c = ':' ∨ isBlank c
      let m ← offsetMinutes
      let secs : Int := (h * 3600 + m * 60 : Nat)
      pure (if negative then -secs else secs)

/-- All fields of a timestamp, in order. -/
def fields : TimestampScan TimestampFields := do
  let y ← year
  skipBlanks
  literal '-'
  let mo ← field 1 12
  skipBlanks
  literal '-'
  let d ← field 1 31
  dateTimeSeparator
  let h ← field 0 23
  skipBlanks
  literal ':'
  let mi ← field 0 59
  skipBlanks
  literal ':'
  let s ← field 0 60
  let n ← fraction
  let off ← offset
  pure ⟨y, mo, d, h, mi, s, n, off⟩

end TimestampScan

namespace TimestampFields

/-- The instant of checked fields: the date must exist and the offset be less than a
day; a second of 60 is a leap second. -/
def toInstant (f : TimestampFields) : Except TimestampError Instant :=
  let date : Date := ⟨f.year, f.month, f.day⟩
  if !date.valid then .error .outOfRange
  else if 86400 ≤ f.offset.natAbs then .error .outOfRange
  else
    let leap := f.second = 60
    let sec := if leap then 59 else f.second
    let wall : Int := date.toDays * 86400 + (f.hour * 3600 + f.minute * 60 + sec : Nat)
    let t : Instant := ⟨wall - f.offset, if leap then f.nanos + 1000000000 else f.nanos⟩
    if t.inCalendar then .ok t else .error .impossible

end TimestampFields

namespace Instant

/-- The instant that a text spells, read leniently. -/
def parse (text : String) : Except TimestampError Instant := do
  let (f, rest) ← TimestampScan.fields.run text.toList
  if !(dropBlanks rest).isEmpty then throw .tooLong
  f.toInstant

end Instant

end OutboxReplicator
