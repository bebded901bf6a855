import OutboxReplicator.Proofs.Time.TextRoundTrip
import OutboxReplicator.Proofs.Ids.UuidText
import OutboxReplicator.Outbox.Record
import OutboxReplicator.Text.Integer
/-!
# Payloads read back

The record written for an entity names the entity's kind and key, and its payload, the
entity's JSON form, decodes back to the entity (`forEntity_reads_back`).  This holds
for every screen definition and screen pilot whose values lie in the ranges of their wire
types (`ScreenDefinition.InRange`, `ScreenPilot.InRange`): 64-bit ids, a 32-bit sort
order, and timestamps that a UTC date-time names, leap seconds and years outside 0 to
9999 among them.  Strings, optional fields, the status and the user need no condition.

Each field's decoder reads back what its encoder writes: integers by their range
(`Json.decodeInteger_int`), timestamps by the lenient reader (`Instant.parse_format`),
users by the UUID reader (`Uuid.parse_toText`).  The object's fields come sorted by
key, the decoder stores each in its own slot, and `finish` finds every required slot
filled.
-/

namespace OutboxReplicator

/-! ## Fields -/

namespace Json

theorem decodeInteger_int {name : String} {lo hi i : Int} (low : lo ≤ i) (high : i ≤ hi) :
    decodeInteger name lo hi (Json.int i) = .ok i := by
  by_cases nonneg : 0 ≤ i
  · simp [Json.int, decodeInteger, nonneg, Int.toNat_of_nonneg nonneg, low, high]
  · simp [Json.int, decodeInteger, nonneg, low, high]

/-- An integer decoder with the bounds of a range reads back every integer of the range. -/
theorem decodeInteger_of_contains {name : String} {r : IntegerRange} {i : Int}
    (fits : r.contains i = true) : decodeInteger name r.least r.greatest (Json.int i) = .ok i := by
  obtain ⟨low, high⟩ := of_decide_eq_true fits
  exact decodeInteger_int low high

theorem decodeI64_int {i : Int} (fits : IntegerRange.i64.contains i = true) :
    decodeI64 (Json.int i) = .ok i :=
  decodeInteger_of_contains fits

theorem decodeI32_int {i : Int} (fits : IntegerRange.i32.contains i = true) :
    decodeI32 (Json.int i) = .ok i :=
  decodeInteger_of_contains fits

theorem decodeOption_optString (o : Option String) :
    decodeOption decodeString (optString o) = .ok o := by
  cases o <;> rfl

theorem decodeInstant_instantJson {t : Instant} (representable : t.Representable) :
    decodeInstant (ScreenDefinition.instantJson t) = .ok t := by
  simp [decodeInstant, ScreenDefinition.instantJson, Instant.parse_format representable]

theorem decodeOption_instantJson {o : Option Instant}
    (representable : ∀ t ∈ o, t.Representable) :
    decodeOption decodeInstant ((o.map ScreenDefinition.instantJson).getD .null) = .ok o := by
  cases o with
  | none => rfl
  | some t =>
    have read := decodeInstant_instantJson (representable t rfl)
    unfold ScreenDefinition.instantJson at read ⊢
    simp [decodeOption, read, Except.map]

end Json

theorem RecordStatus.decode_toJson (s : RecordStatus) : RecordStatus.decode s.toJson = .ok s := by
  cases s <;> rfl

theorem ScreenDefinitionId.decode_toJson {i : ScreenDefinitionId}
    (fits : IntegerRange.i64.contains i.val = true) :
    ScreenDefinitionId.decode i.toJson = .ok i := by
  simp [ScreenDefinitionId.decode, ScreenDefinitionId.toJson, Json.decodeI64_int fits,
    Except.map]

theorem ScreenPilotId.decode_toJson {i : ScreenPilotId}
    (fits : IntegerRange.i64.contains i.val = true) : ScreenPilotId.decode i.toJson = .ok i := by
  simp [ScreenPilotId.decode, ScreenPilotId.toJson, Json.decodeI64_int fits, Except.map]

theorem UserId.decode_toJson (u : UserId) : UserId.decode u.toJson = .ok u := by
  simp [UserId.decode, UserId.toJson, UserId.toText, Json.decodeUuid, Uuid.parse_toText,
    Except.map]

/-! ## Screen definitions -/

namespace ScreenDefinition

/-- A screen definition whose values fit its wire types: a 64-bit id, a 32-bit sort order
and timestamps a UTC date-time names. -/
structure InRange (e : ScreenDefinition) : Prop where
  id : IntegerRange.i64.contains e.id.val = true
  sortOrder : IntegerRange.i32.contains e.sortOrder = true
  createdAt : e.createdAt.Representable
  updatedAt : ∀ t ∈ e.updatedAt, t.Representable

/-- The JSON form of a definition, its fields sorted by key. -/
theorem toJson_obj (e : ScreenDefinition) : e.toJson = .obj
    [("code", .string e.code), ("created_at", instantJson e.createdAt),
     ("created_by", .string e.createdBy), ("description", Json.optString e.description),
     ("id", e.id.toJson), ("name", .string e.name), ("route", .string e.route),
     ("sort_order", Json.int e.sortOrder), ("status", e.status.toJson),
     ("updated_at", (e.updatedAt.map instantJson).getD .null),
     ("updated_by", Json.optString e.updatedBy)] := by
  simp +decide only [toJson, toJsonWith, Json.object, Json.insertField, List.foldl_cons,
    List.foldl_nil]
  cases e.updatedAt <;> rfl

theorem decode_toJson {e : ScreenDefinition} (inRange : e.InRange) : decode e.toJson = .ok e := by
  rw [toJson_obj]
  simp [decode, Shape.decode, List.foldlM, put, finish, requireField, Json.decodeString,
    ScreenDefinitionId.decode_toJson inRange.id, Json.decodeI32_int inRange.sortOrder,
    Json.decodeInstant_instantJson inRange.createdAt,
    Json.decodeOption_instantJson inRange.updatedAt, Json.decodeOption_optString,
    RecordStatus.decode_toJson, bind, Except.bind, pure, Except.pure]

end ScreenDefinition

/-! ## Screen pilots -/

namespace ScreenPilot

/-- A screen pilot whose values fit its wire types: 64-bit ids and timestamps a UTC
date-time names. -/
structure InRange (e : ScreenPilot) : Prop where
  id : IntegerRange.i64.contains e.id.val = true
  screenDefinitionId : IntegerRange.i64.contains e.screenDefinitionId.val = true
  createdAt : e.createdAt.Representable
  updatedAt : ∀ t ∈ e.updatedAt, t.Representable

/-- The JSON form of a pilot, its fields sorted by key. -/
theorem toJson_obj (e : ScreenPilot) : e.toJson = .obj
    [("created_at", ScreenDefinition.instantJson e.createdAt), ("created_by", .string e.createdBy),
     ("id", e.id.toJson), ("screen_definition_id", e.screenDefinitionId.toJson),
     ("status", e.status.toJson),
     ("updated_at", (e.updatedAt.map ScreenDefinition.instantJson).getD .null),
     ("updated_by", Json.optString e.updatedBy), ("user_id", e.userId.toJson)] := by
  simp +decide only [toJson, toJsonWith, Json.object, Json.insertField, List.foldl_cons,
    List.foldl_nil]
  cases e.updatedAt <;> rfl

theorem decode_toJson {e : ScreenPilot} (inRange : e.InRange) : decode e.toJson = .ok e := by
  rw [toJson_obj]
  simp [decode, Shape.decode, List.foldlM, put, finish, requireField, Json.decodeString,
    ScreenPilotId.decode_toJson inRange.id,
    ScreenDefinitionId.decode_toJson inRange.screenDefinitionId, UserId.decode_toJson,
    Json.decodeInstant_instantJson inRange.createdAt,
    Json.decodeOption_instantJson inRange.updatedAt, Json.decodeOption_optString,
    RecordStatus.decode_toJson, bind, Except.bind, pure, Except.pure]

end ScreenPilot

/-! ## Records -/

/-- The record written for an operation on an entity names the entity's kind, its key,
the operation and the correlation id, and its payload decodes back to the entity: for
every screen definition and every screen pilot whose values fit their wire types. -/
theorem forEntity_reads_back (op : Operation) (correlationId : Option String) :
    (∀ e : ScreenDefinition, e.InRange →
      (NewRecord.forEntity op (.definition e) correlationId).entityType = "ScreenDefinition" ∧
      (NewRecord.forEntity op (.definition e) correlationId).entityId = e.id.val ∧
      (NewRecord.forEntity op (.definition e) correlationId).operation = op ∧
      (NewRecord.forEntity op (.definition e) correlationId).correlationId = correlationId ∧
      Change.decode (NewRecord.forEntity op (.definition e) correlationId).entityType
        (NewRecord.forEntity op (.definition e) correlationId).payload = .ok (.definition e)) ∧
    (∀ e : ScreenPilot, e.InRange →
      (NewRecord.forEntity op (.pilot e) correlationId).entityType = "ScreenPilot" ∧
      (NewRecord.forEntity op (.pilot e) correlationId).entityId = e.id.val ∧
      (NewRecord.forEntity op (.pilot e) correlationId).operation = op ∧
      (NewRecord.forEntity op (.pilot e) correlationId).correlationId = correlationId ∧
      Change.decode (NewRecord.forEntity op (.pilot e) correlationId).entityType
        (NewRecord.forEntity op (.pilot e) correlationId).payload = .ok (.pilot e)) := by
  constructor
  · intro e inRange
    refine ⟨rfl, rfl, rfl, rfl, ?_⟩
    simp [NewRecord.forEntity, Change.kind, Change.decode, Change.toJson,
      ScreenDefinition.decode_toJson inRange]
  · intro e inRange
    refine ⟨rfl, rfl, rfl, rfl, ?_⟩
    simp [NewRecord.forEntity, Change.kind, Change.decode, Change.toJson,
      ScreenPilot.decode_toJson inRange]

/-- A definition at the ends of its ranges: the least 64-bit id, the greatest 32-bit sort
order, created in the leap second at the end of 1998 and changed at the start of year
10000. -/
def leapSecondDefinition : ScreenDefinition :=
  ⟨⟨-9223372036854775808⟩, "home", "Home", "/", none, 2147483647, .active, "admin",
    ⟨915148799, 1500000000⟩, some "editor", some ⟨253402300800, 0⟩⟩

/-- A pilot with the greatest 64-bit id, created in the first second of year -1, never
changed. -/
def yearMinusOnePilot : ScreenPilot :=
  ⟨⟨9223372036854775807⟩, ⟨1⟩,
    ⟨⟨BitVec.ofNat 128 0x0123456789abcdef0123456789abcdef⟩⟩, .inactive, "admin",
    ⟨-62198755200, 999999999⟩, none, none⟩

theorem edge_payloads_read_back :
    leapSecondDefinition.InRange ∧ yearMinusOnePilot.InRange ∧
    Change.decode (NewRecord.forEntity .update (.definition leapSecondDefinition) none).entityType
      (NewRecord.forEntity .update (.definition leapSecondDefinition) none).payload =
        .ok (.definition leapSecondDefinition) ∧
    Change.decode (NewRecord.forEntity .delete (.pilot yearMinusOnePilot) (some "req")).entityType
      (NewRecord.forEntity .delete (.pilot yearMinusOnePilot) (some "req")).payload =
        .ok (.pilot yearMinusOnePilot) := by
  have definitionInRange : leapSecondDefinition.InRange :=
    ⟨by decide, by decide, ⟨by decide, by decide, by decide⟩,
      by rintro t ⟨⟩; exact ⟨by decide, by decide, by decide⟩⟩
  have pilotInRange : yearMinusOnePilot.InRange :=
    ⟨by decide, by decide, ⟨by decide, by decide, by decide⟩, by rintro t ⟨⟩⟩
  exact ⟨definitionInRange, pilotInRange,
    ((forEntity_reads_back .update none).1 _ definitionInRange).2.2.2.2,
    ((forEntity_reads_back .delete (some "req")).2 _ pilotInRange).2.2.2.2⟩

end OutboxReplicator
