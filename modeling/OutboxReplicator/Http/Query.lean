import OutboxReplicator.Text.Integer
import OutboxReplicator.Text.Utf8
/-!
# Query strings

A query string is a list of `name=value` pairs joined by `&`, each part form-encoded:
`+` stands for a space and `%` with two hexadecimal digits for a byte.  The bytes are
read as UTF-8, each ill-formed part replaced by `U+FFFD`.  Empty pairs are skipped, and a
pair without `=` has an empty value.

The listing of failed records takes one optional parameter, `limit`, a 64-bit unsigned
integer.  Pairs are read in order: a second `limit` is a duplicate, and a value that does
not parse is reported with the parameter's name in front.
-/

namespace OutboxReplicator

namespace Query

/-- The value of a hexadecimal digit byte. -/
def hexByte (b : UInt8) : Option Nat :=
  let n := b.toNat
  if 48 ≤ n ∧ n ≤ 57 then some (n - 48)
  else if 97 ≤ n ∧ n ≤ 102 then some (n - 87)
  else if 65 ≤ n ∧ n ≤ 70 then some (n - 55)
  else none

/-- Resolve `+` and `%XX` in form-encoded bytes; a `%` without two digits stays. -/
def unescape : List UInt8 → List UInt8
  | [] => []
  | 43 :: rest => 32 :: unescape rest
  | 37 :: a :: b :: rest =>
    match hexByte a, hexByte b with
    | some x, some y => (x * 16 + y).toUInt8 :: unescape rest
    | _, _ => 37 :: unescape (a :: b :: rest)
  | c :: rest => c :: unescape rest

/-- Bytes as text; each maximal part that is not UTF-8 gives a replacement character. -/
def textOf (bs : List UInt8) : String := String.ofList (Utf8.decodeLossy bs)

/-- A form-encoded part as text. -/
def decodePart (s : String) : String := textOf (unescape s.toUTF8.toList)

/-- The name-value pairs of a query string. -/
def pairs (query : String) : List (String × String) :=
  (query.splitOn "&").filterMap fun p =>
    if p.isEmpty then none
    else
      match p.splitOn "=" with
      | [] => none
      | name :: rest => some (decodePart name, decodePart (String.intercalate "=" rest))

/-- The `limit` parameter of a query string, if given. -/
def limit (query : String) : Except String (Option Nat) :=
  (pairs query).foldlM step none
where
  /-- Read one pair. -/
  step (acc : Option Nat) (nv : String × String) : Except String (Option Nat) :=
    if nv.1 == "limit" then
      if acc.isSome then .error ("duplicate field " ++ "`limit`")
      else
        match IntegerRange.u64.read nv.2 with
        | .ok n => .ok (some n.toNat)
        | .error e => .error ("limit: " ++ e.message)
    else .ok acc

end Query

end OutboxReplicator
