import OutboxReplicator.Domain.Status
import OutboxReplicator.Domain.Ids
import OutboxReplicator.Domain.Entity
import OutboxReplicator.Time.Text
/-!
# Screen definitions

A screen definition is a screen of the application: its code (unique among
definitions), name, route, an optional description, a sort order, a status and its
audit fields.  Its JSON form is an object with every field present; timestamps use the
fewest exact fraction digits.  It is read from an object or an array (`Shape.decode`);
description, sort order (0), editor and edit time have defaults.
-/

namespace OutboxReplicator

/-- A screen of the application. -/
structure ScreenDefinition where
  /-- The identifier, the replica's key. -/
  id : ScreenDefinitionId
  /-- The code, unique among definitions. -/
  code : String
  /-- The display name. -/
  name : String
  /-- The route of the screen. -/
  route : String
  /-- An optional description. -/
  description : Option String
  /-- The position in listings, a 32-bit integer. -/
  sortOrder : Int
  /-- Whether the screen is in use. -/
  status : RecordStatus
  /-- Who created it. -/
  createdBy : String
  /-- When it was created. -/
  createdAt : Instant
  /-- Who last changed it. -/
  updatedBy : Option String
  /-- When it was last changed. -/
  updatedAt : Option Instant
  deriving DecidableEq, Repr

namespace ScreenDefinition

/-- The fields in declaration order, with whether each is required. -/
def shape : Shape :=
  ⟨"ScreenDefinition",
    [("id", true), ("code", true), ("name", true), ("route", true), ("description", false),
     ("sort_order", false), ("status", true), ("created_by", true), ("created_at", true),
     ("updated_by", false), ("updated_at", false)]⟩

/-- The fields read so far. -/
structure Slots where
  /-- The value of field `id`, once read. -/
  id : Option ScreenDefinitionId := none
  /-- The value of field `code`, once read. -/
  code : Option String := none
  /-- The value of field `name`, once read. -/
  name : Option String := none
  /-- The value of field `route`, once read. -/
  route : Option String := none
  /-- The value of field `description`, once read. -/
  description : Option (Option String) := none
  /-- The value of field `sort_order`, once read. -/
  sortOrder : Option Int := none
  /-- The value of field `status`, once read. -/
  status : Option RecordStatus := none
  /-- The value of field `created_by`, once read. -/
  createdBy : Option String := none
  /-- The value of field `created_at`, once read. -/
  createdAt : Option Instant := none
  /-- The value of field `updated_by`, once read. -/
  updatedBy : Option (Option String) := none
  /-- The value of field `updated_at`, once read. -/
  updatedAt : Option (Option Instant) := none

/-- Store the value of a field; unknown keys are skipped. -/
def put (s : Slots) (key : String) (v : Json) : Except DecodeError Slots :=
  match key with
  | "id" => do pure { s with id := some (← ScreenDefinitionId.decode v) }
  | "code" => do pure { s with code := some (← Json.decodeString v) }
  | "name" => do pure { s with name := some (← Json.decodeString v) }
  | "route" => do pure { s with route := some (← Json.decodeString v) }
  | "description" => do pure { s with description := some (← Json.decodeOption Json.decodeString v) }
  | "sort_order" => do pure { s with sortOrder := some (← Json.decodeI32 v) }
  | "status" => do pure { s with status := some (← RecordStatus.decode v) }
  | "created_by" => do pure { s with createdBy := some (← Json.decodeString v) }
  | "created_at" => do pure { s with createdAt := some (← Json.decodeInstant v) }
  | "updated_by" => do pure { s with updatedBy := some (← Json.decodeOption Json.decodeString v) }
  | "updated_at" => do pure { s with updatedAt := some (← Json.decodeOption Json.decodeInstant v) }
  | _ => pure s

/-- The definition of complete slots; the first absent required field is reported. -/
def finish (s : Slots) : Except DecodeError ScreenDefinition := do
  let id ← requireField "id" s.id
  let code ← requireField "code" s.code
  let name ← requireField "name" s.name
  let route ← requireField "route" s.route
  let status ← requireField "status" s.status
  let createdBy ← requireField "created_by" s.createdBy
  let createdAt ← requireField "created_at" s.createdAt
  pure { id, code, name, route, description := s.description.getD none,
         sortOrder := s.sortOrder.getD 0, status, createdBy, createdAt,
         updatedBy := s.updatedBy.getD none, updatedAt := s.updatedAt.getD none }

/-- The definition of a JSON value. -/
def decode : Json → Except DecodeError ScreenDefinition :=
  shape.decode put {} finish

/-- A timestamp in entity JSON. -/
def instantJson (t : Instant) : Json := .string (t.format .fewest)

/-- The JSON form, with every field, timestamps written by `stamp`. -/
def toJsonWith (stamp : Instant → Json) (e : ScreenDefinition) : Json :=
  Json.object
    [("id", e.id.toJson), ("code", .string e.code), ("name", .string e.name),
     ("route", .string e.route), ("description", Json.optString e.description),
     ("sort_order", Json.int e.sortOrder), ("status", e.status.toJson),
     ("created_by", .string e.createdBy), ("created_at", stamp e.createdAt),
     ("updated_by", Json.optString e.updatedBy),
     ("updated_at", match e.updatedAt with | some t => stamp t | none => .null)]

/-- The JSON form, with every field. -/
def toJson (e : ScreenDefinition) : Json := e.toJsonWith instantJson

/-- The replica key. -/
def key (e : ScreenDefinition) : Int := e.id.val

/-- The audit stamp. -/
def audit (e : ScreenDefinition) : AuditStamp := ⟨e.updatedBy, e.updatedAt⟩

end ScreenDefinition

end OutboxReplicator
