import OutboxReplicator.Json.Value
import OutboxReplicator.Number.Shortest
/-!
# Writing JSON text

Compact JSON text: no blanks, fields in the order the value holds them.  A string
escapes the quote, the backslash and the control characters below U+0020, and writes
every other character as itself.  A float is written in `FloatStyle.json`: the fewest
digits that round to it, always with a point or an exponent.
-/

namespace OutboxReplicator

/-- The text of a number. -/
def JsonNumber.render : JsonNumber → String
  | .unsigned n => toString n
  | .signed i => toString i
  | .float x => FloatStyle.json.render x

namespace Json

/-- The four hexadecimal digits of a code below `2 ^ 16`. -/
def hex4 (n : Nat) : String :=
  let ds := Nat.toDigits 16 n
  String.ofList (List.replicate (4 - ds.length) '0' ++ ds)

/-- The text of one character inside a quoted string. -/
def escapeChar (c : Char) : String :=
  if c = '"' then "\\\""
  else if c = '\\' then "\\\\"
  else if c = '\n' then "\\n"
  else if c = '\r' then "\\r"
  else if c = '\t' then "\\t"
  else if c.toNat = 8 then "\\b"
  else if c.toNat = 12 then "\\f"
  else if c.toNat < 32 then "\\u" ++ hex4 c.toNat
  else c.toString

/-- A string as a quoted JSON string. -/
def quote (s : String) : String :=
  "\"" ++ String.join (s.toList.map escapeChar) ++ "\""

mutual

/-- The compact text of a value. -/
def render : Json → String
  | .null => "null"
  | .bool true => "true"
  | .bool false => "false"
  | .number n => JsonNumber.render n
  | .string s => quote s
  | .array items => "[" ++ renderItems items ++ "]"
  | .obj fields => "\x7b" ++ renderFields fields ++ "\x7d"

/-- The items of an array, separated by commas. -/
def renderItems : List Json → String
  | [] => ""
  | [j] => render j
  | j :: rest => render j ++ "," ++ renderItems rest

/-- The fields of an object, separated by commas. -/
def renderFields : List (String × Json) → String
  | [] => ""
  | [(k, v)] => quote k ++ ":" ++ render v
  | (k, v) :: rest => quote k ++ ":" ++ render v ++ "," ++ renderFields rest

end

end Json

end OutboxReplicator
