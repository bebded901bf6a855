/-!
# Request targets

The target of a request names what it asks for.  It comes in four forms.

* origin: `/path?query`, which starts with `/`;
* absolute: `scheme://authority/path?query`, where the scheme is `http` or `https` in
  any case, or any run of letters, digits, `+`, `-`, `.` and `~` of at most 64
  characters;
* authority: `host:port` alone, which has no path;
* asterisk: `*` alone.

An absolute target needs something after its `scheme://`: with nothing there, the rest
to read is empty, as for an empty text.

A fragment, from `#` on, is dropped.  Reading a target checks its characters.  A path
allows the visible ASCII characters except `#`, `<`, `>`, `?` and the back quote.  A
query allows them all except `"`, `#`, `<` and `>`.  Both allow any non-ASCII
character, but no control character, `DEL` included.  An authority allows letters, digits, `!$&'()*+,-.;=_~`, and five
characters under rules: `@` ends the user information, `[` and `]` enclose one IPv6
address, at most one `:` stands outside them for the port, and `%` may stand only in
the user information.  An authority may not end with `@`.

The first fault decides the error.  The length comes first, then the scheme, then the
authority, then the shape, then the path and the query.
-/

namespace OutboxReplicator

/-- Why a text is not a request target. -/
inductive TargetError where
  /-- The text is empty. -/
  | empty
  /-- The text is longer than `RequestTarget.maxLength` bytes. -/
  | tooLong
  /-- A character that its part does not allow. -/
  | invalidCharacter
  /-- The parts do not make one of the four forms. -/
  | invalidFormat
  /-- An authority that breaks a rule of `@`, `[`, `]`, `:` or `%`. -/
  | invalidAuthority
  /-- A scheme longer than `RequestTarget.maxSchemeLength`. -/
  | schemeTooLong
  deriving DecidableEq, Repr

namespace TargetError

/-- The text of the error. -/
def message : TargetError → String
  | .empty => "empty string"
  | .tooLong => "uri too long"
  | .invalidCharacter => "invalid uri character"
  | .invalidFormat => "invalid format"
  | .invalidAuthority => "invalid authority"
  | .schemeTooLong => "scheme too long"

end TargetError

/-- A request target as a router sees it: the path, and the query if there is a `?`. -/
structure RequestTarget where
  /-- The path; `/` for an absolute target without one, empty for an authority. -/
  path : String
  /-- The text after the first `?` of the path, without the fragment. -/
  query : Option String
  deriving DecidableEq, Repr

namespace RequestTarget

/-- The longest target, in bytes. -/
def maxLength : Nat := 65534

/-- The longest scheme other than `http` and `https`. -/
def maxSchemeLength : Nat := 64

/-- Whether a character may stand in a path. -/
def pathChar (c : Char) : Bool :=
  let n := c.toNat
  n = 0x21 || n = 0x22 || (0x24 ≤ n && n ≤ 0x3B) || n = 0x3D || (0x40 ≤ n && n ≤ 0x5F) ||
    (0x61 ≤ n && n ≤ 0x7E) || 0x80 ≤ n

/-- Whether a character may stand in a query. -/
def queryChar (c : Char) : Bool :=
  let n := c.toNat
  n = 0x21 || (0x24 ≤ n && n ≤ 0x3B) || n = 0x3D || (0x3F ≤ n && n ≤ 0x7E) || 0x80 ≤ n

/-- Whether a character may stand in a scheme. -/
def schemeChar (c : Char) : Bool :=
  c.isAlphanum || c = '+' || c = '-' || c = '.' || c = '~'

/-- Whether a character may stand anywhere in an authority, under no rule. -/
def authorityChar (c : Char) : Bool :=
  c.isAlphanum || c = '!' || c = '$' || c = '&' || c = '\x27' || c = '(' || c = ')' ||
    c = '*' || c = '+' || c = ',' || c = '-' || c = '.' || c = ';' || c = '=' || c = '_' ||
    c = '~'

/-- Whether a character ends an authority. -/
def endsAuthority (c : Char) : Bool := c = '/' || c = '?' || c = '#'

/-- The path up to `?` or `#`, and the rest from there. -/
def scanPath : List Char → Except TargetError (List Char × List Char)
  | [] => .ok ([], [])
  | c :: rest =>
    if c = '?' || c = '#' then .ok ([], c :: rest)
    else if pathChar c then (scanPath rest).map fun (p, r) => (c :: p, r)
    else .error .invalidCharacter

/-- The query up to `#`. -/
def scanQuery : List Char → Except TargetError (List Char)
  | [] => .ok []
  | c :: rest =>
    if c = '#' then .ok []
    else if queryChar c then (scanQuery rest).map (c :: ·)
    else .error .invalidCharacter

/-- The path and the query of a text that starts a path, a query or a fragment. -/
def readPathAndQuery (cs : List Char) : Except TargetError (String × Option String) := do
  let (path, rest) ← scanPath cs
  match rest with
  | '?' :: q => pure (String.ofList path, some (String.ofList (← scanQuery q)))
  | _ => pure (String.ofList path, none)

/-- What a scan of an authority has seen so far. -/
structure AuthorityScan where
  /-- The colons since the user information or the closing bracket. -/
  colons : Nat := 0
  /-- Whether `[` was seen. -/
  opened : Bool := false
  /-- Whether `]` was seen. -/
  closed : Bool := false
  /-- Whether `%` was seen since the user information or the closing bracket. -/
  percent : Bool := false
  deriving Repr

/-- The most colons an authority holds, as in an IPv6 address with a port. -/
def maxColons : Nat := 8

/-- One character of an authority. -/
def AuthorityScan.step (st : AuthorityScan) (c : Char) : Except TargetError AuthorityScan :=
  if c = ':' then
    if maxColons ≤ st.colons then .error .invalidAuthority else .ok { st with colons := st.colons + 1 }
  else if c = '[' then
    if st.percent || st.opened then .error .invalidAuthority else .ok { st with opened := true }
  else if c = ']' then
    if !st.opened || st.closed then .error .invalidAuthority
    else .ok { st with closed := true, colons := 0, percent := false }
  else if c = '@' then .ok { st with colons := 0, percent := false }
  else if c = '%' then .ok { st with percent := true }
  else if authorityChar c then .ok st
  else .error .invalidCharacter

/-- Scan an authority up to `/`, `?` or `#`: the state at its end, the authority and the
rest. -/
def scanAuthority (st : AuthorityScan) : List Char →
    Except TargetError (AuthorityScan × List Char × List Char)
  | [] => .ok (st, [], [])
  | c :: rest =>
    if endsAuthority c then .ok (st, [], c :: rest)
    else do
      let st ← st.step c
      let (st, a, r) ← scanAuthority st rest
      pure (st, c :: a, r)

/-- The authority at the start of a text and the rest, under the rules of an
authority. -/
def splitAuthority (cs : List Char) : Except TargetError (List Char × List Char) := do
  let (st, a, r) ← scanAuthority {} cs
  if st.opened != st.closed || 1 < st.colons || a.getLast? = some '@' || st.percent then
    .error .invalidAuthority
  else pure (a, r)

/-- Whether a text starts with a prefix, letters in any case. -/
def startsWithFolded (cs pre : List Char) : Bool :=
  (cs.take pre.length).map Char.toLower == pre

/-- The rest of an absolute target after its `scheme://`, or none if the text has no
scheme. -/
def afterScheme (cs : List Char) : Except TargetError (Option (List Char)) :=
  if startsWithFolded cs "http://".toList then .ok (some (cs.drop 7))
  else if startsWithFolded cs "https://".toList then .ok (some (cs.drop 8))
  else if cs.length ≤ 3 then .ok none
  else
    let name := cs.takeWhile schemeChar
    match cs.drop name.length with
    | ':' :: '/' :: '/' :: rest =>
      if maxSchemeLength < name.length then .error .schemeTooLong else .ok (some rest)
    | _ => .ok none

/-- Read a target. -/
def parse (s : String) : Except TargetError RequestTarget :=
  let cs := s.toList
  if maxLength < s.utf8ByteSize then .error .tooLong
  else match cs with
    | [] => .error .empty
    | ['/'] => .ok ⟨"/", none⟩
    | ['*'] => .ok ⟨"*", none⟩
    | [c] => do
      let (_, rest) ← splitAuthority [c]
      if rest.isEmpty then pure ⟨"", none⟩ else .error .invalidCharacter
    | '/' :: _ => do
      let (path, query) ← readPathAndQuery cs
      pure ⟨path, query⟩
    | _ => do
      match ← afterScheme cs with
      | none =>
        let (_, rest) ← splitAuthority cs
        if rest.isEmpty then pure ⟨"", none⟩ else .error .invalidFormat
      | some [] => .error .empty
      | some afterName =>
        let (authority, rest) ← splitAuthority afterName
        if authority.isEmpty then .error .invalidFormat
        else
          let (path, query) ← readPathAndQuery rest
          pure ⟨if path.isEmpty then "/" else path, query⟩

end RequestTarget

end OutboxReplicator
