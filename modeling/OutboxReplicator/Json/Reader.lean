import OutboxReplicator.Json.Value
import OutboxReplicator.Number.WordDecimal
/-!
# Reading JSON text

Text is read in one pass, from left to right.  The rules are those of strict JSON:

* blanks are space, tab, line feed and carriage return;
* a number has no leading zero and no bare point or exponent mark.  Its digits are
  held as a `WordDecimal`.  An integer without fraction or exponent whose digits fit
  the word keeps an integer kind: unsigned, or signed down to `-2 ^ 63`.  Every other
  number, `-0` among them, becomes a binary64 float, and one too large for the format
  is refused;
* a string may not hold a raw control character, and a `\u` escape of a surrogate must
  be a high one followed by an escaped low one;
* arrays and objects nest at most 127 deep;
* an object with a key twice keeps the later value (`Json.object`).

The first fault ends reading.  Its error names the line and the column of a byte
offset.  A fault found at a character just read is reported at the end of that
character's first byte.  A fault found by looking at the next character is reported one
byte past the text read, or at the end of the text.  The column is the number of
bytes from the start of the line to that offset.

Reading is total: every step of the value reader spends one unit of a fuel that the
length of the text bounds.
-/

namespace OutboxReplicator

/-- Why a text is not JSON. -/
inductive ReadErrorCode where
  /-- The text ends inside an array. -/
  | eofWhileParsingList
  /-- The text ends inside an object. -/
  | eofWhileParsingObject
  /-- The text ends inside a string. -/
  | eofWhileParsingString
  /-- The text ends where a value should start, or inside a number or a word. -/
  | eofWhileParsingValue
  /-- A key is not followed by `:`. -/
  | expectedColon
  /-- An item of an array is followed by neither `,` nor `]`. -/
  | expectedListCommaOrEnd
  /-- A field of an object is followed by neither `,` nor `}`. -/
  | expectedObjectCommaOrEnd
  /-- A word that is not `null`, `true` or `false`. -/
  | expectedSomeIdent
  /-- A character that starts no value. -/
  | expectedSomeValue
  /-- A backslash that starts no escape, or a `\u` not followed by four hex digits. -/
  | invalidEscape
  /-- A number that breaks the grammar. -/
  | invalidNumber
  /-- A number too large for binary64. -/
  | numberOutOfRange
  /-- A raw control character in a string. -/
  | controlCharacterWhileParsingString
  /-- A key that is not a string. -/
  | keyMustBeAString
  /-- A `\u` escape of a low surrogate first, or of a high one followed by an escape of
  no low one. -/
  | loneLeadingSurrogateInHexEscape
  /-- A `,` right before the end of an array or an object. -/
  | trailingComma
  /-- Text after the value. -/
  | trailingCharacters
  /-- A `\u` escape of a high surrogate not followed by another `\u` escape. -/
  | unexpectedEndOfHexEscape
  /-- Arrays and objects nested 128 deep. -/
  | recursionLimitExceeded
  deriving DecidableEq, Repr

namespace ReadErrorCode

/-- The text of the error. -/
def text : ReadErrorCode → String
  | .eofWhileParsingList => "EOF while parsing a list"
  | .eofWhileParsingObject => "EOF while parsing an object"
  | .eofWhileParsingString => "EOF while parsing a string"
  | .eofWhileParsingValue => "EOF while parsing a value"
  | .expectedColon => "expected `:`"
  | .expectedListCommaOrEnd => "expected `,` or `]`"
  | .expectedObjectCommaOrEnd => "expected `,` or `\x7d`"
  | .expectedSomeIdent => "expected ident"
  | .expectedSomeValue => "expected value"
  | .invalidEscape => "invalid escape"
  | .invalidNumber => "invalid number"
  | .numberOutOfRange => "number out of range"
  | .controlCharacterWhileParsingString =>
    "control character (\\u0000-\\u001F) found while parsing a string"
  | .keyMustBeAString => "key must be a string"
  | .loneLeadingSurrogateInHexEscape => "lone leading surrogate in hex escape"
  | .trailingComma => "trailing comma"
  | .trailingCharacters => "trailing characters"
  | .unexpectedEndOfHexEscape => "unexpected end of hex escape"
  | .recursionLimitExceeded => "recursion limit exceeded"

end ReadErrorCode

/-- A reading error: what is wrong, and the byte offset it is reported at. -/
structure ReadError where
  /-- What is wrong. -/
  code : ReadErrorCode
  /-- The byte offset in the text. -/
  offset : Nat
  deriving DecidableEq, Repr

namespace ReadError

/-- The line, counted from 1, and the column of a byte offset: the bytes from the start
of its line, which is after the last line feed before the offset. -/
def lineAndColumn (text : String) (offset : Nat) : Nat × Nat :=
  let rec go : List Char → Nat → Nat → Nat → Nat × Nat
    | [], _, line, start => (line, offset - start)
    | c :: rest, b, line, start =>
      if offset ≤ b then (line, offset - start)
      else if c = '\n' then go rest (b + 1) (line + 1) (b + 1)
      else go rest (b + c.utf8Size) line start
  go text.toList 0 1 0

/-- The text of the error in a text: what is wrong, and where. -/
def message (text : String) (e : ReadError) : String :=
  let (line, column) := lineAndColumn text e.offset
  e.code.text ++ " at line " ++ toString line ++ " column " ++ toString column

end ReadError

/-- A place in the text: the characters left, and the bytes read before them. -/
structure Cursor where
  /-- The characters left. -/
  rest : List Char
  /-- The bytes read. -/
  offset : Nat
  deriving Repr

namespace Cursor

/-- Fail at the bytes read. -/
def fail {α : Type} (c : Cursor) (code : ReadErrorCode) : Except ReadError α :=
  .error ⟨code, c.offset⟩

/-- Fail on looking at the next character: one byte further, unless the text ended. -/
def failNext {α : Type} (c : Cursor) (code : ReadErrorCode) : Except ReadError α :=
  .error ⟨code, if c.rest.isEmpty then c.offset else c.offset + 1⟩

/-- Whether a character is blank between tokens. -/
def isBlank (c : Char) : Bool := c = ' ' || c = '\t' || c = '\n' || c = '\r'

/-- The place after the blanks at the head of `rest`. -/
def skipBlankFrom : List Char → Nat → Cursor
  | [], n => ⟨[], n⟩
  | c :: rest, n => if isBlank c then skipBlankFrom rest (n + 1) else ⟨c :: rest, n⟩

/-- The place after the blanks ahead. -/
def skipBlank (c : Cursor) : Cursor := skipBlankFrom c.rest c.offset

end Cursor

namespace JsonText

/-- The value of a hexadecimal digit. -/
def hexDigit (c : Char) : Option Nat :=
  if '0' ≤ c ∧ c ≤ '9' then some (c.toNat - '0'.toNat)
  else if 'a' ≤ c ∧ c ≤ 'f' then some (c.toNat - 'a'.toNat + 10)
  else if 'A' ≤ c ∧ c ≤ 'F' then some (c.toNat - 'A'.toNat + 10)
  else none

/-- The value of four hexadecimal digits. -/
def hexQuad (a b c d : Char) : Option Nat := do
  let a ← hexDigit a
  let b ← hexDigit b
  let c ← hexDigit c
  let d ← hexDigit d
  pure (((a * 16 + b) * 16 + c) * 16 + d)

/-- The character of a simple escape `\c`. -/
def simpleEscape (c : Char) : Option Char :=
  if c = '"' then some '"'
  else if c = '\\' then some '\\'
  else if c = '/' then some '/'
  else if c = 'b' then some (Char.ofNat 8)
  else if c = 'f' then some (Char.ofNat 12)
  else if c = 'n' then some '\n'
  else if c = 'r' then some '\r'
  else if c = 't' then some '\t'
  else none

/-- The error of a `\u` escape whose digits would start at byte `offset` and are not
four hex digits: an invalid escape after four bytes, or the end of the text before
them. -/
def badHexEscape (cs : List Char) (offset : Nat) : ReadError :=
  let bytes := (cs.take 4).foldl (fun n c => n + c.utf8Size) 0
  if 4 ≤ bytes then ⟨.invalidEscape, offset + 4⟩ else ⟨.eofWhileParsingString, offset + bytes⟩

/-- Whether a code is a high surrogate. -/
def isHighSurrogate (n : Nat) : Bool := 0xD800 ≤ n && n ≤ 0xDBFF

/-- Whether a code is a low surrogate. -/
def isLowSurrogate (n : Nat) : Bool := 0xDC00 ≤ n && n ≤ 0xDFFF

/-- The character of a surrogate pair. -/
def ofSurrogates (hi lo : Nat) : Char := Char.ofNat (0x10000 + (hi - 0xD800) * 0x400 + (lo - 0xDC00))

/-- The body of a string after its opening quote, at byte `offset`, with the characters
read so far reversed in `acc`.  Gives the string and the place after the closing quote.
A `\u` escape of a high surrogate needs a `\u` escape of a low one right after it. -/
def readString : List Char → Nat → List Char → Except ReadError (String × Cursor)
  | [], offset, _ => .error ⟨.eofWhileParsingString, offset⟩
  | '"' :: rest, offset, acc => .ok (String.ofList acc.reverse, ⟨rest, offset + 1⟩)
  | '\\' :: 'u' :: rest, offset, acc =>
    match rest with
    | a :: b :: c :: d :: more =>
      match hexQuad a b c d with
      | none => .error (badHexEscape rest (offset + 2))
      | some n =>
        let off := offset + 6
        if isLowSurrogate n then .error ⟨.loneLeadingSurrogateInHexEscape, off⟩
        else if !isHighSurrogate n then readString more off (Char.ofNat n :: acc)
        else
          match more with
          | '\\' :: 'u' :: e :: f :: g :: h :: more2 =>
            match hexQuad e f g h with
            | some lo =>
              if isLowSurrogate lo then readString more2 (off + 6) (ofSurrogates n lo :: acc)
              else .error ⟨.loneLeadingSurrogateInHexEscape, off + 6⟩
            | none => .error (badHexEscape (e :: f :: g :: h :: more2) (off + 2))
          | '\\' :: 'u' :: short => .error (badHexEscape short (off + 2))
          | ['\\'] => .error ⟨.eofWhileParsingString, off + 1⟩
          | '\\' :: _ :: _ => .error ⟨.unexpectedEndOfHexEscape, off + 2⟩
          | [] => .error ⟨.eofWhileParsingString, off⟩
          | _ :: _ => .error ⟨.unexpectedEndOfHexEscape, off + 1⟩
    | short => .error (badHexEscape short (offset + 2))
  | ['\\'], offset, _ => .error ⟨.eofWhileParsingString, offset + 1⟩
  | '\\' :: e :: more, offset, acc =>
    match simpleEscape e with
    | some c => readString more (offset + 2) (c :: acc)
    | none => .error ⟨.invalidEscape, offset + 2⟩
  | c :: rest, offset, acc =>
    if c.toNat < 0x20 then .error ⟨.controlCharacterWhileParsingString, offset + 1⟩
    else readString rest (offset + c.utf8Size) (c :: acc)

/-- The text of a number, cut into its parts. -/
structure NumberText where
  /-- Whether a minus sign leads. -/
  negative : Bool
  /-- The digits of the integer part. -/
  integer : List Nat
  /-- The digits of the fraction, none without a point. -/
  fraction : List Nat
  /-- The exponent: whether it is not negative, its digits and the offset of its first
  digit. -/
  exponent : Option (Bool × List Nat × Nat)
  deriving Repr

/-- The digits at the head of a text, as values, and the rest. -/
def digitRun (cs : List Char) : List Nat × List Char :=
  let (ds, rest) := cs.span Char.isDigit
  (ds.map fun d => d.toNat - '0'.toNat, rest)

/-- The exponent after its mark, at byte `offset`. -/
def readExponent (cs : List Char) (offset : Nat) :
    Except ReadError (Bool × List Nat × Nat × Cursor) :=
  let (nonNegative, digits, start) :=
    match cs with
    | '+' :: m => (true, m, offset + 1)
    | '-' :: m => (false, m, offset + 1)
    | m => (true, m, offset)
  match digits with
  | [] => .error ⟨.eofWhileParsingValue, start⟩
  | d :: _ =>
    if !d.isDigit then .error ⟨.invalidNumber, start + 1⟩
    else
      let (es, rest) := digitRun digits
      .ok (nonNegative, es, start, ⟨rest, start + es.length⟩)

/-- The parts of a number after its sign, which `negative` tells. -/
def readNumberText (negative : Bool) (c : Cursor) : Except ReadError (NumberText × Cursor) := do
  match c.rest with
  | [] => c.fail .eofWhileParsingValue
  | d :: rest =>
    if !d.isDigit then .error ⟨.invalidNumber, c.offset + 1⟩
    else
      let (integer, afterInteger) := if d = '0' then ([0], rest) else digitRun c.rest
      let c : Cursor := ⟨afterInteger, c.offset + integer.length⟩
      if d = '0' ∧ afterInteger.head?.map Char.isDigit = some true then c.failNext .invalidNumber
      else
        let (fraction, c) ← match c.rest with
          | '.' :: more =>
            let (fs, rest) := digitRun more
            let afterPoint : Cursor := ⟨more, c.offset + 1⟩
            if fs.isEmpty then
              afterPoint.failNext (if more.isEmpty then .eofWhileParsingValue else .invalidNumber)
            else pure (fs, (⟨rest, c.offset + 1 + fs.length⟩ : Cursor))
          | _ => pure ([], c)
        match c.rest with
        | e :: more =>
          if e = 'e' ∨ e = 'E' then
            let (nonNegative, es, start, c) ← readExponent more (c.offset + 1)
            pure (⟨negative, integer, fraction, some (nonNegative, es, start)⟩, c)
          else pure (⟨negative, integer, fraction, none⟩, c)
        | [] => pure (⟨negative, integer, fraction, none⟩, c)

/-- The number of a number text that ends at byte `stop`.  An exponent whose digits pass
the signed 32-bit range makes the number zero when its significand is zero or the
exponent is negative, and is too large otherwise, reported after the digit that passed
it. -/
def NumberText.value (t : NumberText) (stop : Nat) : Except ReadError JsonNumber :=
  let w := WordDecimal.ofIntegerDigits t.integer
  let plainInteger := t.fraction.isEmpty && t.exponent.isNone && w.exponent == 0
  if plainInteger then
    if !t.negative then .ok (.unsigned w.significand)
    else if 0 < w.significand ∧ w.significand ≤ Nat.pow 2 63 then
      .ok (.signed (-(w.significand : Int)))
    else
      match Binary64.ofNat w.significand with
      | some x => .ok (.float x.neg)
      | none => .error ⟨.numberOutOfRange, stop⟩
  else
    let w := w.appendFraction t.fraction
    let scaled : Except ReadError WordDecimal :=
      match t.exponent with
      | none => .ok w
      | some (nonNegative, es, start) =>
        match WordDecimal.exponentValue es with
        | .ok e =>
          let k := if nonNegative then w.exponent + e else w.exponent - e
          .ok { w with exponent := WordDecimal.saturate k }
        | .error n =>
          if w.significand ≠ 0 ∧ nonNegative then .error ⟨.numberOutOfRange, start + n⟩
          else .ok ⟨0, 0⟩
    match scaled with
    | .error e => .error e
    | .ok w =>
      match w.toBinary64 t.negative with
      | some x => .ok (.float x)
      | none => .error ⟨.numberOutOfRange, stop⟩

/-- A number after its sign, which `negative` tells, and the place after it. -/
def readNumber (negative : Bool) (c : Cursor) : Except ReadError (Json × Cursor) := do
  let (t, c) ← readNumberText negative c
  let n ← t.value c.offset
  pure (.number n, c)

/-- The letters of a word after its first, at the head of `c`. -/
def readWord (letters : List Char) (c : Cursor) : Except ReadError Cursor :=
  match letters, c.rest with
  | [], _ => .ok c
  | _ :: _, [] => c.fail .eofWhileParsingValue
  | l :: ls, x :: rest =>
    if l = x then readWord ls ⟨rest, c.offset + 1⟩ else .error ⟨.expectedSomeIdent, c.offset + 1⟩

/-- The deepest nesting plus one: arrays and objects nest at most 127 deep. -/
def depthLimit : Nat := 128

mutual

/-- A value ahead of `c`, and the place after it; `depth` counts the levels of nesting
still allowed plus one. -/
def readValue : Nat → Nat → Cursor → Except ReadError (Json × Cursor)
  | 0, _, c => c.failNext .recursionLimitExceeded
  | fuel + 1, depth, c =>
    let c := c.skipBlank
    match c.rest with
    | [] => c.failNext .eofWhileParsingValue
    | 'n' :: rest => (readWord "ull".toList ⟨rest, c.offset + 1⟩).map fun c => (.null, c)
    | 't' :: rest => (readWord "rue".toList ⟨rest, c.offset + 1⟩).map fun c => (.bool true, c)
    | 'f' :: rest => (readWord "alse".toList ⟨rest, c.offset + 1⟩).map fun c => (.bool false, c)
    | '-' :: rest => readNumber true ⟨rest, c.offset + 1⟩
    | '"' :: rest => (readString rest (c.offset + 1) []).map fun (s, c) => (.string s, c)
    | '[' :: rest =>
      if depth ≤ 1 then c.failNext .recursionLimitExceeded
      else readItems fuel (depth - 1) true [] ⟨rest, c.offset + 1⟩
    | '\x7b' :: rest =>
      if depth ≤ 1 then c.failNext .recursionLimitExceeded
      else readFields fuel (depth - 1) true [] ⟨rest, c.offset + 1⟩
    | d :: _ => if d.isDigit then readNumber false c else c.failNext .expectedSomeValue

/-- The rest of an array whose items so far are `acc`, reversed; `first` tells that no
item was read. -/
def readItems : Nat → Nat → Bool → List Json → Cursor → Except ReadError (Json × Cursor)
  | 0, _, _, _, c => c.failNext .recursionLimitExceeded
  | fuel + 1, depth, first, acc, c =>
    let c := c.skipBlank
    match c.rest with
    | ']' :: rest => .ok (.array acc.reverse, ⟨rest, c.offset + 1⟩)
    | [] => c.failNext .eofWhileParsingList
    | ',' :: rest =>
      if first then readItem fuel depth acc c
      else
        let c := Cursor.skipBlankFrom rest (c.offset + 1)
        match c.rest with
        | ']' :: _ => c.failNext .trailingComma
        | [] => c.failNext .eofWhileParsingValue
        | _ :: _ => readItem fuel depth acc c
    | _ :: _ => if first then readItem fuel depth acc c else c.failNext .expectedListCommaOrEnd

/-- An item of an array ahead of `c`, then the rest of the array. -/
def readItem : Nat → Nat → List Json → Cursor → Except ReadError (Json × Cursor)
  | 0, _, _, c => c.failNext .recursionLimitExceeded
  | fuel + 1, depth, acc, c => do
    let (v, c) ← readValue fuel depth c
    readItems fuel depth false (v :: acc) c

/-- The rest of an object whose fields so far are `acc`, reversed; `first` tells that no
field was read. -/
def readFields : Nat → Nat → Bool → List (String × Json) → Cursor →
    Except ReadError (Json × Cursor)
  | 0, _, _, _, c => c.failNext .recursionLimitExceeded
  | fuel + 1, depth, first, acc, c =>
    let c := c.skipBlank
    match c.rest with
    | '\x7d' :: rest => .ok (Json.object acc.reverse, ⟨rest, c.offset + 1⟩)
    | [] => c.failNext .eofWhileParsingObject
    | ',' :: rest =>
      if first then readField fuel depth acc c
      else readField fuel depth acc (Cursor.skipBlankFrom rest (c.offset + 1))
    | _ :: _ => if first then readField fuel depth acc c else c.failNext .expectedObjectCommaOrEnd

/-- A field of an object ahead of `c`, then the rest of the object. -/
def readField : Nat → Nat → List (String × Json) → Cursor → Except ReadError (Json × Cursor)
  | 0, _, _, c => c.failNext .recursionLimitExceeded
  | fuel + 1, depth, acc, c =>
    match c.rest with
    | '"' :: rest => do
      let (k, c) ← readString rest (c.offset + 1) []
      let c := c.skipBlank
      match c.rest with
      | ':' :: rest =>
        let (v, c) ← readValue fuel depth ⟨rest, c.offset + 1⟩
        readFields fuel depth false ((k, v) :: acc) c
      | [] => c.failNext .eofWhileParsingObject
      | _ :: _ => c.failNext .expectedColon
    | '\x7d' :: _ => c.failNext .trailingComma
    | [] => c.failNext .eofWhileParsingValue
    | _ :: _ => c.failNext .keyMustBeAString

end

end JsonText

namespace Json

/-- The value of a JSON text, which may have blanks around it and nothing else.  Every
step of the reader reads a character or leads to one that does, so four steps per
character are enough. -/
def read (text : String) : Except ReadError Json := do
  let cs := text.toList
  let (v, c) ← JsonText.readValue (4 * cs.length + 4) JsonText.depthLimit ⟨cs, 0⟩
  let c := c.skipBlank
  if c.rest.isEmpty then pure v else c.failNext .trailingCharacters

end Json

end OutboxReplicator
