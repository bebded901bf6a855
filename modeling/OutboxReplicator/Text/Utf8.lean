/-!
# Reading bytes as UTF-8, with replacement

A byte sequence that should be UTF-8 text may not be.  Reading it with replacement keeps
every character that is well formed and puts one replacement character `U+FFFD` for
each maximal ill-formed part: the longest run, from where a character should start, that
still begins some well-formed character, or the single byte there if none does.

A character starts with a lead byte, which fixes how many continuation bytes follow and
the range of the first of them (RFC 3629 §4):

| lead        | continuation bytes | first of them |
|-------------|--------------------|---------------|
| `00`–`7F`   | 0                  |               |
| `C2`–`DF`   | 1                  | `80`–`BF`     |
| `E0`        | 2                  | `A0`–`BF`     |
| `E1`–`EC`   | 2                  | `80`–`BF`     |
| `ED`        | 2                  | `80`–`9F`     |
| `EE`–`EF`   | 2                  | `80`–`BF`     |
| `F0`        | 3                  | `90`–`BF`     |
| `F1`–`F3`   | 3                  | `80`–`BF`     |
| `F4`        | 3                  | `80`–`8F`     |

The other continuation bytes are `80`–`BF`.  The ranges leave out overlong forms,
surrogates and values past `U+10FFFF`, so every well-formed sequence spells a character.

Each step of the reading takes the byte where a character should start and the
continuation bytes that fit after it, so it takes at least one byte and the reading ends.
-/

namespace OutboxReplicator

namespace Utf8

/-- What a lead byte fixes: the continuation bytes owed, the range of the first of them,
and the bits the lead byte gives to the value. -/
structure Lead where
  /-- The continuation bytes that follow. -/
  owed : Nat
  /-- The least first continuation byte. -/
  low : Nat
  /-- The greatest first continuation byte. -/
  high : Nat
  /-- The value bits of the lead byte. -/
  bits : Nat
  deriving DecidableEq, Repr

/-- The shape of a character that starts with this byte, or none if no character does. -/
def lead (b : Nat) : Option Lead :=
  if b ≤ 0x7F then some ⟨0, 0x80, 0xBF, b⟩
  else if 0xC2 ≤ b ∧ b ≤ 0xDF then some ⟨1, 0x80, 0xBF, b % 32⟩
  else if b = 0xE0 then some ⟨2, 0xA0, 0xBF, 0⟩
  else if 0xE1 ≤ b ∧ b ≤ 0xEC then some ⟨2, 0x80, 0xBF, b % 16⟩
  else if b = 0xED then some ⟨2, 0x80, 0x9F, 13⟩
  else if 0xEE ≤ b ∧ b ≤ 0xEF then some ⟨2, 0x80, 0xBF, b % 16⟩
  else if b = 0xF0 then some ⟨3, 0x90, 0xBF, 0⟩
  else if 0xF1 ≤ b ∧ b ≤ 0xF3 then some ⟨3, 0x80, 0xBF, b % 8⟩
  else if b = 0xF4 then some ⟨3, 0x80, 0x8F, 4⟩
  else none

/-- Take `n` continuation bytes, the first within `low`–`high` and the others within
`80`–`BF`, appending six bits of each to `acc`: how many bytes continued, and the value
when all `n` did. -/
def continued : Nat → Nat → Nat → Nat → List UInt8 → Nat × Option Nat
  | 0, _, _, acc, _ => (0, some acc)
  | _ + 1, _, _, _, [] => (0, none)
  | n + 1, low, high, acc, b :: rest =>
    if low ≤ b.toNat ∧ b.toNat ≤ high then
      let (k, v) := continued n 0x80 0xBF (acc * 64 + b.toNat % 64) rest
      (k + 1, v)
    else (0, none)

/-- The character that a lead byte starts, given the bytes after it, and how many of
those bytes it takes: the character spelt, or `U+FFFD` for the lead byte and the
continuation bytes that fit before the sequence broke off. -/
def readChar (b : UInt8) (rest : List UInt8) : Char × Nat :=
  match lead b.toNat with
  | none => ('�', 0)
  | some l =>
    let (k, v) := continued l.owed l.low l.high l.bits rest
    match v with
    | some n => (Char.ofNat n, k)
    | none => ('�', k)

/-- The characters of a byte sequence read as UTF-8, each maximal ill-formed part
replaced by `U+FFFD`. -/
def decodeLossy (bs : List UInt8) : List Char :=
  match bs with
  | [] => []
  | b :: rest =>
    let (c, k) := readChar b rest
    c :: decodeLossy (rest.drop k)
termination_by bs.length
decreasing_by simp only [List.length_drop, List.length_cons]; omega

end Utf8

end OutboxReplicator
