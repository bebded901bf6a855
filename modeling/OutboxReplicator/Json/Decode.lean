import OutboxReplicator.Json.Value
import OutboxReplicator.Json.Writer
import OutboxReplicator.Uuid
import OutboxReplicator.Time.Reader
import OutboxReplicator.Text.Printable
/-!
# Decoding typed values from JSON

A decoder reads one typed value from a JSON value or explains why it cannot.  The
explanation names what was found and what was expected:

* `invalid type: integer ` followed by the number in backquotes, `, expected i64`, when
  the kind is wrong;
* `invalid value: …`, when the kind is right and the number is out of range;
* `missing field` and the field name, when an object lacks a required field;
* `invalid length N, expected …`, when an array has too few or too many items.

A record (`Shape`) is read from an object, field by field in key order, or from an
array, positionally in the order of its fields.  In an object the first bad field
value wins, then the first required field that is absent, in declaration order.  In
an array the first bad item wins, then the first required field past the end, then
surplus items.
-/

namespace OutboxReplicator

/-- What a decoder found instead of what it expected. -/
inductive Unexpected where
  /-- `null`. -/
  | null
  /-- A boolean. -/
  | bool (b : Bool)
  /-- A non-negative integer. -/
  | unsigned (n : Nat)
  /-- A negative integer. -/
  | signed (i : Int)
  /-- A float. -/
  | float (x : Binary64)
  /-- A string. -/
  | string (s : String)
  /-- An array. -/
  | sequence
  /-- An object. -/
  | map
  deriving Repr

namespace Unexpected

/-- What a JSON value is, as a decoder reports it. -/
def of : Json → Unexpected
  | .null => .null
  | .bool b => .bool b
  | .number (.unsigned n) => .unsigned n
  | .number (.signed i) => .signed i
  | .number (.float x) => .float x
  | .string s => .string s
  | .array _ => .sequence
  | .obj _ => .map

/-- Whether a character is shown as an escape inside a quoted string of an error: a
combining character that extends the one before it, or one that prints nothing
visible. -/
def needsEscape (c : Char) : Bool := Unicode.isExtending c || !Unicode.isPrintable c

/-- A character inside a quoted string of an error text. -/
def escapeChar (c : Char) : String :=
  if c.toNat = 0 then "\\0"
  else if c = '\t' then "\\t"
  else if c = '\r' then "\\r"
  else if c = '\n' then "\\n"
  else if c = '\\' then "\\\\"
  else if c = '"' then "\\\""
  else if needsEscape c then "\\u\x7b" ++ String.ofList (Nat.toDigits 16 c.toNat) ++ "\x7d"
  else c.toString

/-- A string quoted for an error text. -/
def quote (s : String) : String :=
  "\"" ++ String.join (s.toList.map escapeChar) ++ "\""

/-- The description of what was found. -/
def describe : Unexpected → String
  | .null => "null"
  | .bool b => "boolean " ++ "`" ++ (if b then "true" else "false") ++ "`"
  | .unsigned n => "integer " ++ "`" ++ toString n ++ "`"
  | .signed i => "integer " ++ "`" ++ toString i ++ "`"
  | .float x => "floating point " ++ "`" ++ FloatStyle.json.render x ++ "`"
  | .string s => "string " ++ quote s
  | .sequence => "sequence"
  | .map => "map"

end Unexpected

/-- Why a JSON value does not decode. -/
inductive DecodeError where
  /-- A value of the wrong kind. -/
  | invalidType (found : Unexpected) (expected : String)
  /-- A value of the right kind outside the wanted range. -/
  | invalidValue (found : Unexpected) (expected : String)
  /-- An array of the wrong length. -/
  | invalidLength (length : Nat) (expected : String)
  /-- An object without a required field. -/
  | missingField (name : String)
  /-- A value that the target type rejects, with the type's own words. -/
  | custom (message : String)
  deriving Repr

namespace DecodeError

/-- The text of the error. -/
def message : DecodeError → String
  | .invalidType f e => "invalid type: " ++ f.describe ++ ", expected " ++ e
  | .invalidValue f e => "invalid value: " ++ f.describe ++ ", expected " ++ e
  | .invalidLength n e => "invalid length " ++ toString n ++ ", expected " ++ e
  | .missingField n => "missing field " ++ "`" ++ n ++ "`"
  | .custom m => m

end DecodeError

namespace Json

/-- An integer within `[lo, hi]`, named `name` in errors. -/
def decodeInteger (name : String) (lo hi : Int) (j : Json) : Except DecodeError Int :=
  match j with
  | .number (.unsigned n) =>
    if lo ≤ n ∧ (n : Int) ≤ hi then .ok n else .error (.invalidValue (.unsigned n) name)
  | .number (.signed i) =>
    if lo ≤ i ∧ i ≤ hi then .ok i else .error (.invalidValue (.signed i) name)
  | _ => .error (.invalidType (Unexpected.of j) name)

/-- A 64-bit signed integer. -/
def decodeI64 : Json → Except DecodeError Int :=
  decodeInteger "i64" (-(Int.pow 2 63)) (Int.pow 2 63 - 1)

/-- A 32-bit signed integer. -/
def decodeI32 : Json → Except DecodeError Int :=
  decodeInteger "i32" (-(Int.pow 2 31)) (Int.pow 2 31 - 1)

/-- A byte. -/
def decodeU8 (j : Json) : Except DecodeError Nat :=
  (decodeInteger "u8" 0 255 j).map Int.toNat

/-- A string. -/
def decodeString : Json → Except DecodeError String
  | .string s => .ok s
  | j => .error (.invalidType (Unexpected.of j) "a string")

/-- A value or `null`. -/
def decodeOption {α : Type} (d : Json → Except DecodeError α) : Json → Except DecodeError (Option α)
  | .null => .ok none
  | j => (d j).map some

/-- A UUID in any of its text forms. -/
def decodeUuid : Json → Except DecodeError Uuid
  | .string s =>
    match Uuid.parse s with
    | .ok u => .ok u
    | .error e => .error (.custom ("UUID parsing failed: " ++ e.message))
  | j => .error (.invalidType (Unexpected.of j) "a formatted UUID string")

/-- A timestamp, read leniently. -/
def decodeInstant : Json → Except DecodeError Instant
  | .string s =>
    match Instant.parse s with
    | .ok t => .ok t
    | .error e => .error (.custom e.message)
  | j => .error (.invalidType (Unexpected.of j) "an RFC 3339 formatted date and time string")

end Json

/-- The fields of a record type: its name and, in declaration order, each field's name
and whether it is required (has no default). -/
structure Shape where
  /-- The name of the record type. -/
  name : String
  /-- Field names, each with whether it is required. -/
  fields : List (String × Bool)

namespace Shape

/-- The first required field at or after position `start` of a field list, counted
from `start`. -/
def firstRequired : List (String × Bool) → Nat → Option Nat
  | [], _ => none
  | (_, req) :: rest, i => if req then some i else firstRequired rest (i + 1)

/-- Read a record: `put` stores one field value into the slots (ignoring keys it does
not know), `finish` builds the record from the slots.  An object gives its fields in
key order; an array gives its items to the fields in declaration order. -/
def decode {σ α : Type} (sh : Shape) (put : σ → String → Json → Except DecodeError σ)
    (empty : σ) (finish : σ → Except DecodeError α) : Json → Except DecodeError α
  | .obj fields => do
    let s ← fields.foldlM (fun s kv => put s kv.1 kv.2) empty
    finish s
  | .array items => do
    let s ← (sh.fields.zip items).foldlM (fun s fv => put s fv.1.1 fv.2) empty
    match firstRequired (sh.fields.drop items.length) items.length with
    | some i =>
      throw (.invalidLength i
        ("struct " ++ sh.name ++ " with " ++ toString sh.fields.length ++ " elements"))
    | none =>
      if sh.fields.length < items.length then
        throw (.invalidLength items.length "fewer elements in array")
      finish s
  | j => .error (.invalidType (Unexpected.of j) ("struct " ++ sh.name))

end Shape

/-- A required field's value, or the error naming it. -/
def requireField {α : Type} (name : String) : Option α → Except DecodeError α
  | some a => .ok a
  | none => .error (.missingField name)

end OutboxReplicator
