import OutboxReplicator.Domain.ScreenDefinition
/-!
# Screen pilots

A screen pilot enrols a user in a screen definition: its identifier, the definition's
identifier, the user, a status and its audit fields.  Its JSON form is an object with
every field present.  It is read from an object or an array (`Shape.decode`); editor
and edit time have defaults.
-/

namespace OutboxReplicator

/-- A user enrolled in a screen. -/
structure ScreenPilot where
  /-- The identifier, the replica's key. -/
  id : ScreenPilotId
  /-- The screen definition. -/
  screenDefinitionId : ScreenDefinitionId
  /-- The user. -/
  userId : UserId
  /-- Whether the enrolment is in use. -/
  status : RecordStatus
  /-- Who created it. -/
  createdBy : String
  /-- When it was created. -/
  createdAt : Instant
  /-- Who last changed it. -/
  updatedBy : Option String
  /-- When it was last changed. -/
  updatedAt : Option Instant
  deriving DecidableEq, Repr

namespace ScreenPilot

/-- The fields in declaration order, with whether each is required. -/
def shape : Shape :=
  ⟨"ScreenPilot",
    [("id", true), ("screen_definition_id", true), ("user_id", true), ("status", true),
     ("created_by", true), ("created_at", true), ("updated_by", false),
     ("updated_at", false)]⟩

/-- The fields read so far. -/
structure Slots where
  /-- The value of field `id`, once read. -/
  id : Option ScreenPilotId := none
  /-- The value of field `screen_definition_id`, once read. -/
  screenDefinitionId : Option ScreenDefinitionId := none
  /-- The value of field `user_id`, once read. -/
  userId : Option UserId := none
  /-- The value of field `status`, once read. -/
  status : Option RecordStatus := none
  /-- The value of field `created_by`, once read. -/
  createdBy : Option String := none
  /-- The value of field `created_at`, once read. -/
  createdAt : Option Instant := none
  /-- The value of field `updated_by`, once read. -/
  updatedBy : Option (Option String) := none
  /-- The value of field `updated_at`, once read. -/
  updatedAt : Option (Option Instant) := none

/-- Store the value of a field; unknown keys are skipped. -/
def put (s : Slots) (key : String) (v : Json) : Except DecodeError Slots :=
  match key with
  | "id" => do pure { s with id := some (← ScreenPilotId.decode v) }
  | "screen_definition_id" => do
    pure { s with screenDefinitionId := some (← ScreenDefinitionId.decode v) }
  | "user_id" => do pure { s with userId := some (← UserId.decode v) }
  | "status" => do pure { s with status := some (← RecordStatus.decode v) }
  | "created_by" => do pure { s with createdBy := some (← Json.decodeString v) }
  | "created_at" => do pure { s with createdAt := some (← Json.decodeInstant v) }
  | "updated_by" => do pure { s with updatedBy := some (← Json.decodeOption Json.decodeString v) }
  | "updated_at" => do pure { s with updatedAt := some (← Json.decodeOption Json.decodeInstant v) }
  | _ => pure s

/-- The pilot of complete slots; the first absent required field is reported. -/
def finish (s : Slots) : Except DecodeError ScreenPilot := do
  let id ← requireField "id" s.id
  let screenDefinitionId ← requireField "screen_definition_id" s.screenDefinitionId
  let userId ← requireField "user_id" s.userId
  let status ← requireField "status" s.status
  let createdBy ← requireField "created_by" s.createdBy
  let createdAt ← requireField "created_at" s.createdAt
  pure { id, screenDefinitionId, userId, status, createdBy, createdAt,
         updatedBy := s.updatedBy.getD none, updatedAt := s.updatedAt.getD none }

/-- The pilot of a JSON value. -/
def decode : Json → Except DecodeError ScreenPilot :=
  shape.decode put {} finish

/-- The JSON form, with every field, timestamps written by `stamp`. -/
def toJsonWith (stamp : Instant → Json) (e : ScreenPilot) : Json :=
  Json.object
    [("id", e.id.toJson), ("screen_definition_id", e.screenDefinitionId.toJson),
     ("user_id", e.userId.toJson), ("status", e.status.toJson),
     ("created_by", .string e.createdBy), ("created_at", stamp e.createdAt),
     ("updated_by", Json.optString e.updatedBy),
     ("updated_at", match e.updatedAt with | some t => stamp t | none => .null)]

/-- The JSON form, with every field. -/
def toJson (e : ScreenPilot) : Json := e.toJsonWith ScreenDefinition.instantJson

/-- The replica key. -/
def key (e : ScreenPilot) : Int := e.id.val

/-- The audit stamp. -/
def audit (e : ScreenPilot) : AuditStamp := ⟨e.updatedBy, e.updatedAt⟩

end ScreenPilot

end OutboxReplicator
