import OutboxReplicator.Json.Decode
import OutboxReplicator.Text.Integer
/-!
# Identifiers

Screen definitions and screen pilots are identified by 64-bit signed integers, users by
UUIDs.  Each identifier has a text form, read strictly (`IntegerRange.read`,
`Uuid.parse`), and a JSON form: the bare number, or the UUID's hyphenated text.
-/

namespace OutboxReplicator

/-- The identifier of a screen definition. -/
structure ScreenDefinitionId where
  /-- The number, in the range of 64-bit signed integers. -/
  val : Int
  deriving DecidableEq, Repr

/-- The identifier of a screen pilot. -/
structure ScreenPilotId where
  /-- The number, in the range of 64-bit signed integers. -/
  val : Int
  deriving DecidableEq, Repr

/-- The identifier of a user. -/
structure UserId where
  /-- The UUID. -/
  uuid : Uuid
  deriving DecidableEq, Repr

namespace ScreenDefinitionId

/-- The identifier a text spells. -/
def ofText (s : String) : Except IntegerError ScreenDefinitionId :=
  (IntegerRange.i64.read s).map ScreenDefinitionId.mk

/-- The decimal text. -/
def toText (i : ScreenDefinitionId) : String := toString i.val

/-- The identifier of a JSON number. -/
def decode (j : Json) : Except DecodeError ScreenDefinitionId :=
  (Json.decodeI64 j).map ScreenDefinitionId.mk

/-- The JSON form: the number. -/
def toJson (i : ScreenDefinitionId) : Json := Json.int i.val

end ScreenDefinitionId

namespace ScreenPilotId

/-- The identifier a text spells. -/
def ofText (s : String) : Except IntegerError ScreenPilotId :=
  (IntegerRange.i64.read s).map ScreenPilotId.mk

/-- The decimal text. -/
def toText (i : ScreenPilotId) : String := toString i.val

/-- The identifier of a JSON number. -/
def decode (j : Json) : Except DecodeError ScreenPilotId :=
  (Json.decodeI64 j).map ScreenPilotId.mk

/-- The JSON form: the number. -/
def toJson (i : ScreenPilotId) : Json := Json.int i.val

end ScreenPilotId

namespace UserId

/-- The identifier a text spells, in any UUID form. -/
def ofText (s : String) : Except UuidError UserId :=
  (Uuid.parse s).map UserId.mk

/-- The hyphenated lower-case text. -/
def toText (u : UserId) : String := u.uuid.toText

/-- The identifier of a JSON string. -/
def decode (j : Json) : Except DecodeError UserId :=
  (Json.decodeUuid j).map UserId.mk

/-- The JSON form: the hyphenated text. -/
def toJson (u : UserId) : Json := .string u.toText

end UserId

end OutboxReplicator
