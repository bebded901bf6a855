import OutboxReplicator.Number.Binary64
/-!
# JSON values

Payloads are arbitrary JSON, and what a payload means depends on the kind of each
number in it: a non-negative integer that fits 64 bits, a negative integer that fits 64
bits, or a binary64 float.  `JsonNumber` keeps that kind, so `1`, `1.0` and `-0` stay
three different values.

An object holds its fields sorted by key, one field per key.  `Json.object` builds that
form from any list of fields, a later field replacing an earlier one of the same key,
and decoding walks the fields in this order.
-/

namespace OutboxReplicator

/-- A JSON number with its kind. -/
inductive JsonNumber where
  /-- A non-negative integer below `2 ^ 64`. -/
  | unsigned (n : Nat)
  /-- A negative integer of at least `-2 ^ 63`. -/
  | signed (i : Int)
  /-- Any other number: one with a fraction or an exponent, an integer beyond 64 bits,
  or `-0`. -/
  | float (x : Binary64)
  deriving DecidableEq, Repr

/-- A JSON value. -/
inductive Json where
  /-- `null`. -/
  | null
  /-- `true` or `false`. -/
  | bool (b : Bool)
  /-- A number. -/
  | number (n : JsonNumber)
  /-- A string. -/
  | string (s : String)
  /-- An array. -/
  | array (items : List Json)
  /-- An object, its fields sorted by key with no key twice. -/
  | obj (fields : List (String × Json))
  deriving Repr, Inhabited

namespace Json

/-- Put a field into a key-sorted field list; a field of the same key is replaced. -/
def insertField (k : String) (v : Json) : List (String × Json) → List (String × Json)
  | [] => [(k, v)]
  | (k', v') :: rest =>
    if k < k' then (k, v) :: (k', v') :: rest
    else if k = k' then (k, v) :: rest
    else (k', v') :: insertField k v rest

/-- The object of the given fields, sorted by key; of two fields with one key the later
one stays. -/
def object (fields : List (String × Json)) : Json :=
  .obj (fields.foldl (fun acc kv => insertField kv.1 kv.2 acc) [])

/-- An integer, with the kind that reading its decimal text gives. -/
def int (i : Int) : Json :=
  if 0 ≤ i then .number (.unsigned i.toNat) else .number (.signed i)

/-- A natural number. -/
def nat (n : Nat) : Json := .number (.unsigned n)

/-- A string, or `null` for `none`. -/
def optString : Option String → Json
  | some s => .string s
  | none => .null

/-- The value of a field of an object, if the value is an object that has it. -/
def field? (j : Json) (k : String) : Option Json :=
  match j with
  | .obj fields => fields.lookup k
  | _ => none

end Json

end OutboxReplicator
