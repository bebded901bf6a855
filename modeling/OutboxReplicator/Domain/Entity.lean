import OutboxReplicator.Time.Instant
/-!
# Entity kinds and audit stamps

Two kinds of entity are replicated: screen definitions and screen pilots.  Each kind
has a tag, its exact name; a tag is matched case-sensitively.  An audit stamp records
who last changed an entity and when, each part optional.
-/

namespace OutboxReplicator

/-- A kind of replicated entity. -/
inductive EntityKind where
  /-- A screen definition. -/
  | screenDefinition
  /-- The assignment of a pilot user to a screen. -/
  | screenPilot
  deriving DecidableEq, Repr

namespace EntityKind

/-- Every kind, in tag order. -/
def all : List EntityKind := [.screenDefinition, .screenPilot]

/-- The tag of the kind. -/
def tag : EntityKind → String
  | .screenDefinition => "ScreenDefinition"
  | .screenPilot => "ScreenPilot"

/-- The kind with exactly this tag. -/
def ofTag? (s : String) : Option EntityKind := all.find? (·.tag == s)

/-- Reading back a kind's tag gives the kind. -/
@[simp] theorem ofTag?_tag (k : EntityKind) : ofTag? k.tag = some k := by
  cases k <;> decide

/-- The text of an unknown tag's error. -/
def unknownMessage (s : String) : String := "unknown entity type: " ++ s

end EntityKind

/-- Who last changed an entity, and when. -/
structure AuditStamp where
  /-- The last editor. -/
  updatedBy : Option String
  /-- The time of the last change. -/
  updatedAt : Option Instant
  deriving DecidableEq, Repr

end OutboxReplicator
