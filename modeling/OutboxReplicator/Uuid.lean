/-!
# UUIDs

A UUID is 128 bits.  Its text is 32 hexadecimal digits in any case, in one of four
forms, told apart by their length in bytes:

* simple: 32 digits;
* hyphenated: 36 bytes, groups of 8, 4, 4, 4 and 12 digits joined by hyphens;
* braced: 38 bytes, the hyphenated form between `{` and `}`;
* URN: 45 bytes, `urn:uuid:` in any case followed by the hyphenated form.

A UUID is written in the hyphenated form, lower case.

A text of the length of a hyphenated form whose hyphenated part does not read gets
the error of that part alone: its first character that is neither a hexadecimal digit
nor a hyphen, with its byte position in the part, else a wrong number of groups, else
the first group that ends at the wrong place.

Any other text gets one error, found in this order:

1. a text longer than the URN form has a bad length;
2. braces or the URN prefix are dropped, and the first character that is neither a
   hexadecimal digit nor a hyphen is reported with its byte position in the whole text;
3. a text without hyphens and without braces or prefix has a bad length;
4. a wrong number of groups;
5. the first of the inner groups that ends at the wrong place, with its length; else the
   last group, whose length is counted as the whole text's less 24 bytes.
-/

namespace OutboxReplicator

/-- A UUID: 128 bits, the first of them the most significant. -/
structure Uuid where
  /-- The 128 bits as a number. -/
  bits : BitVec 128
  deriving DecidableEq, Repr

/-- Why a text is not a UUID. -/
inductive UuidError where
  /-- A character that no form allows, at a byte position of the text. -/
  | badCharacter (c : Char) (position : Nat)
  /-- A length that no form has. -/
  | badLength (length : Nat)
  /-- A hyphenated text with another number of groups than five. -/
  | groupCount (count : Nat)
  /-- A group of a hyphenated text with the wrong number of digits. -/
  | groupLength (group : Nat) (length : Nat)
  deriving DecidableEq, Repr

namespace UuidError

/-- The number of digits of each group of the hyphenated form. -/
def groupSizes : List Nat := [8, 4, 4, 4, 12]

/-- The text of the error. -/
def message : UuidError → String
  | .badCharacter c i => "invalid character: found " ++ "`" ++ c.toString ++ "` at " ++ toString i
  | .badLength n => "invalid length: found " ++ toString n
  | .groupCount n => "invalid group count: expected 5, found " ++ toString n
  | .groupLength g n =>
    "invalid group length in group " ++ toString g ++ ": expected " ++
      toString (groupSizes.getD g 0) ++ ", found " ++ toString n

end UuidError

namespace Uuid

/-- The value of a hexadecimal digit, in either case. -/
def hexValue (c : Char) : Option Nat :=
  if '0' ≤ c ∧ c ≤ '9' then some (c.toNat - '0'.toNat)
  else if 'a' ≤ c ∧ c ≤ 'f' then some (c.toNat - 'a'.toNat + 10)
  else if 'A' ≤ c ∧ c ≤ 'F' then some (c.toNat - 'A'.toNat + 10)
  else none

/-- The value of a list of hexadecimal digits, if all of them are. -/
def hexDigits (cs : List Char) : Option Nat :=
  cs.foldl (fun acc c => do let n ← acc; let d ← hexValue c; pure (n * 16 + d)) (some 0)

/-- The UUID of 32 hexadecimal digits. -/
def ofDigits (cs : List Char) : Option Uuid :=
  if cs.length = 32 then (hexDigits cs).map fun n => ⟨BitVec.ofNat 128 n⟩ else none

/-- The digits of the hyphenated form, if the text is one: 36 characters with hyphens
at 8, 13, 18 and 23. -/
def hyphenatedDigits (cs : List Char) : Option (List Char) :=
  if cs.length = 36 ∧ cs[8]? = some '-' ∧ cs[13]? = some '-' ∧ cs[18]? = some '-' ∧
      cs[23]? = some '-' then
    some (cs.take 8 ++ (cs.drop 9).take 4 ++ (cs.drop 14).take 4 ++ (cs.drop 19).take 4 ++
      cs.drop 24)
  else none

/-- Whether a text starts with `urn:uuid:`, letters in any case. -/
def startsWithUrn (cs : List Char) : Bool :=
  (cs.take 9).map Char.toLower == "urn:uuid:".toList

/-- The hyphenated part of a text of the length of a hyphenated, braced or URN form. -/
def hyphenatedPart (s : String) : Option (List Char) :=
  let cs := s.toList
  if s.utf8ByteSize = 36 then some cs
  else if s.utf8ByteSize = 38 ∧ cs.head? = some '\x7b' ∧ cs.getLast? = some '\x7d' then
    some (cs.drop 1).dropLast
  else if s.utf8ByteSize = 45 ∧ startsWithUrn cs then some (cs.drop 9)
  else none

/-- The part after braces or the URN prefix, its byte offset in the text, and whether
the text had neither. -/
def body (cs : List Char) : List Char × Nat × Bool :=
  match cs with
  | '\x7b' :: rest =>
    if rest.getLast? = some '\x7d' then (rest.dropLast, 1, false) else (cs, 0, true)
  | _ => if startsWithUrn cs then (cs.drop 9, 9, false) else (cs, 0, true)

/-- The first character that is neither a hexadecimal digit nor a hyphen, with its byte
position counted from `start`. -/
def firstStray : List Char → Nat → Option (Char × Nat)
  | [], _ => none
  | c :: rest, start =>
    if c = '-' ∨ (hexValue c).isSome then firstStray rest (start + c.utf8Size)
    else some (c, start)

/-- The byte positions of the hyphens, counted from `start`. -/
def hyphenPositions : List Char → Nat → List Nat
  | [], _ => []
  | c :: rest, start =>
    let later := hyphenPositions rest (start + c.utf8Size)
    if c = '-' then start :: later else later

/-- The first of the four inner groups whose closing hyphen is misplaced, with the
group's length; else the fifth group, taken to be `length - 24` long. -/
def badGroup (bounds : List Nat) (length : Nat) : Nat × Nat :=
  let starts := [0, 9, 14, 19, 24]
  let rec go : Nat → List Nat → Nat × Nat
    | _, [] => (4, length - 24)
    | i, b :: rest =>
      if b + 1 = starts.getD (i + 1) 0 then go (i + 1) rest else (i, b - starts.getD i 0)
  go 0 (bounds.take 4)

/-- The error of a hyphenated part that does not read. -/
def diagnoseHyphenated (part : List Char) : UuidError :=
  match firstStray part 0 with
  | some (c, i) => .badCharacter c i
  | none =>
    let hyphens := hyphenPositions part 0
    if hyphens.length ≠ 4 then .groupCount (hyphens.length + 1)
    else
      let (g, len) := badGroup hyphens (String.ofList part).utf8ByteSize
      .groupLength g len

/-- The error of a text that has the length of no hyphenated form, or of the simple
form, and does not read. -/
def diagnose (s : String) : UuidError :=
  if 45 < s.utf8ByteSize then .badLength s.utf8ByteSize
  else
    let (inner, offset, plain) := body s.toList
    match firstStray inner offset with
    | some (c, i) => .badCharacter c i
    | none =>
      let hyphens := hyphenPositions inner 0
      if hyphens.isEmpty ∧ plain then .badLength s.utf8ByteSize
      else if hyphens.length ≠ 4 then .groupCount (hyphens.length + 1)
      else
        let (g, len) := badGroup hyphens s.utf8ByteSize
        .groupLength g len

/-- The UUID that a text spells, in any of the four forms. -/
def parse (s : String) : Except UuidError Uuid :=
  if s.utf8ByteSize = 32 then
    match ofDigits s.toList with
    | some u => .ok u
    | none => .error (diagnose s)
  else
    match hyphenatedPart s with
    | some part =>
      match (hyphenatedDigits part).bind ofDigits with
      | some u => .ok u
      | none => .error (diagnoseHyphenated part)
    | none => .error (diagnose s)

/-- The `n` lowest hexadecimal digits of a number, lower case, most significant first. -/
def hexText : Nat → Nat → List Char
  | 0, _ => []
  | n + 1, v => hexText n (v / 16) ++ [Nat.digitChar (v % 16)]

/-- The hyphenated lower-case text. -/
def toText (u : Uuid) : String :=
  let ds := hexText 32 u.bits.toNat
  String.ofList (ds.take 8 ++ '-' :: (ds.drop 8).take 4 ++ '-' :: (ds.drop 12).take 4 ++
    '-' :: (ds.drop 16).take 4 ++ '-' :: ds.drop 20)

end Uuid

end OutboxReplicator
