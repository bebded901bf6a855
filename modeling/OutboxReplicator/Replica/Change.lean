import OutboxReplicator.Domain.ScreenPilot
import OutboxReplicator.Failure
/-!
# Changes to the replica

A change is the decoded payload of an outbox record: a screen definition or a screen
pilot, as a snapshot of the whole entity.  Decoding resolves the entity type first, so
an unknown type is reported whatever the payload, and then decodes the payload as that
kind.
-/

namespace OutboxReplicator

/-- A decoded payload, one case per entity kind. -/
inductive Change where
  /-- The new state of a screen definition. -/
  | definition (e : ScreenDefinition)
  /-- The new state of a screen pilot. -/
  | pilot (e : ScreenPilot)
  deriving DecidableEq, Repr

namespace Change

/-- The change that an entity type and a payload stand for. -/
def decode (entityType : String) (payload : Json) : Except Failure Change :=
  match EntityKind.ofTag? entityType with
  | none => .error (.unknownEntityType entityType)
  | some .screenDefinition =>
    match ScreenDefinition.decode payload with
    | .ok e => .ok (.definition e)
    | .error err => .error (.invalidPayload .screenDefinition err)
  | some .screenPilot =>
    match ScreenPilot.decode payload with
    | .ok e => .ok (.pilot e)
    | .error err => .error (.invalidPayload .screenPilot err)

/-- The kind of the entity. -/
def kind : Change → EntityKind
  | .definition _ => .screenDefinition
  | .pilot _ => .screenPilot

/-- The key of the entity. -/
def key : Change → Int
  | .definition e => e.key
  | .pilot e => e.key

/-- The audit stamp of the entity. -/
def audit : Change → AuditStamp
  | .definition e => e.audit
  | .pilot e => e.audit

/-- The JSON form of the entity. -/
def toJson : Change → Json
  | .definition e => e.toJson
  | .pilot e => e.toJson

end Change

end OutboxReplicator
