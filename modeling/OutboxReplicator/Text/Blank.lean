/-!
# Blank characters

The characters with the Unicode `White_Space` property: the ASCII controls from
tabulation to carriage return, the space, next line, no-break space, the Ogham space
mark, the spaces from en quad to hair space, the line and paragraph separators, the
narrow no-break space, the medium mathematical space and the ideographic space.
Readers that skip blanks in text skip exactly these.
-/

namespace OutboxReplicator

/-- Whether a character has the Unicode `White_Space` property. -/
def isBlank (c : Char) : Bool :=
  let n := c.toNat
  (0x09 ≤ n && n ≤ 0x0D) || n == 0x20 || n == 0x85 || n == 0xA0 || n == 0x1680 ||
  (0x2000 ≤ n && n ≤ 0x200A) || n == 0x2028 || n == 0x2029 || n == 0x202F ||
  n == 0x205F || n == 0x3000

/-- The text without its leading blanks. -/
def dropBlanks (cs : List Char) : List Char := cs.dropWhile isBlank

end OutboxReplicator
