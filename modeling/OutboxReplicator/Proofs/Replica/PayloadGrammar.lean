import OutboxReplicator.Proofs.Json.RecordGrammar
import OutboxReplicator.Replica.Change
/-!
# The payload grammar

A payload is decoded by the kind its entity type names, matched exactly: any other type
is reported unknown, whatever the payload (`Change.decode_eq_unknown_iff`).  A known
kind's payload decodes exactly when it is in the grammar of the kind's fields
(`EntityKind.payloadFields`, `RecordGrammar`), and otherwise fails as an invalid payload
of that kind.

A screen definition has the required fields `id`, `code`, `name`, `route`, `status`,
`created_by` and `created_at`, and the defaulted fields `description`, `sort_order`,
`updated_by` and `updated_at`; a screen pilot has the required fields `id`,
`screen_definition_id`, `user_id`, `status`, `created_by` and `created_at`, and the
defaulted `updated_by` and `updated_at`.  Ids are 64-bit integers, the sort order a
32-bit one, the status 0 or 1, the user a UUID text and timestamps texts the lenient
reader accepts; only the optional fields take `null`.

Each kind's slots keep the discipline of `Shape.SlotLaws` (`ScreenDefinition.slotLaws`,
`ScreenPilot.slotLaws`), so the kind's decoder reads exactly its grammar.
-/

namespace OutboxReplicator

/-! ## Screen definitions -/

namespace ScreenDefinition

/-- The fields of a definition's payload, in declaration order. -/
def payloadFields : List FieldSpec :=
  [⟨"id", .integer .i64, true⟩, ⟨"code", .text, true⟩, ⟨"name", .text, true⟩,
   ⟨"route", .text, true⟩, ⟨"description", .optional .text, false⟩,
   ⟨"sort_order", .integer .i32, false⟩, ⟨"status", .status, true⟩,
   ⟨"created_by", .text, true⟩, ⟨"created_at", .instant, true⟩,
   ⟨"updated_by", .optional .text, false⟩, ⟨"updated_at", .optional .instant, false⟩]

/-- Whether the slots hold a value for the field of this name. -/
def Slots.filled (s : Slots) (name : String) : Bool :=
  ([("id", s.id.isSome), ("code", s.code.isSome), ("name", s.name.isSome),
    ("route", s.route.isSome), ("description", s.description.isSome),
    ("sort_order", s.sortOrder.isSome), ("status", s.status.isSome),
    ("created_by", s.createdBy.isSome), ("created_at", s.createdAt.isSome),
    ("updated_by", s.updatedBy.isSome), ("updated_at", s.updatedAt.isSome)].lookup name).getD false

theorem slotLaws : shape.SlotLaws payloadFields put {} finish Slots.filled where
  shape := rfl
  distinct := by decide
  put_ok s key v := by
    unfold put
    -- each known key is read by the decoder of its field's type; other keys are skipped
    split
    · exact ((Json.reads_i64.map _).store _ v).trans (by simp [payloadFields])
    · exact (Json.reads_string.store _ v).trans (by simp [payloadFields])
    · exact (Json.reads_string.store _ v).trans (by simp [payloadFields])
    · exact (Json.reads_string.store _ v).trans (by simp [payloadFields])
    · exact (Json.reads_string.option.store _ v).trans (by simp [payloadFields])
    · exact (Json.reads_i32.store _ v).trans (by simp [payloadFields])
    · exact (RecordStatus.reads_decode.store _ v).trans (by simp [payloadFields])
    · exact (Json.reads_string.store _ v).trans (by simp [payloadFields])
    · exact (Json.reads_instant.store _ v).trans (by simp [payloadFields])
    · exact (Json.reads_string.option.store _ v).trans (by simp [payloadFields])
    · exact (Json.reads_instant.option.store _ v).trans (by simp [payloadFields])
    · simp_all [payloadFields, pure, Except.pure]
  put_filled s key v s' stored := by
    unfold put at stored
    split at stored
    -- an unknown key changes nothing
    case h_12 =>
      cases stored
      simp_all [payloadFields, Slots.filled, List.lookup_cons]
    all_goals
      obtain ⟨a, -, rfl⟩ := bind_pure_eq_ok stored
      simp [payloadFields, Slots.filled, List.lookup_cons]
  empty_filled := by simp [payloadFields, Slots.filled, List.lookup_cons]
  finish_ok s := by
    simp [finish, exists_requireField_bind_ok, payloadFields, Slots.filled, List.lookup_cons,
      pure, Except.pure, Option.isSome_iff_exists]

/-- A definition is decoded from exactly the objects and arrays of its grammar. -/
theorem decode_ok_iff (v : Json) : (∃ e, decode v = .ok e) ↔ RecordGrammar payloadFields v :=
  slotLaws.decode_ok_iff v

end ScreenDefinition

/-! ## Screen pilots -/

namespace ScreenPilot

/-- The fields of a pilot's payload, in declaration order. -/
def payloadFields : List FieldSpec :=
  [⟨"id", .integer .i64, true⟩, ⟨"screen_definition_id", .integer .i64, true⟩,
   ⟨"user_id", .uuid, true⟩, ⟨"status", .status, true⟩, ⟨"created_by", .text, true⟩,
   ⟨"created_at", .instant, true⟩, ⟨"updated_by", .optional .text, false⟩,
   ⟨"updated_at", .optional .instant, false⟩]

/-- Whether the slots hold a value for the field of this name. -/
def Slots.filled (s : Slots) (name : String) : Bool :=
  ([("id", s.id.isSome), ("screen_definition_id", s.screenDefinitionId.isSome),
    ("user_id", s.userId.isSome), ("status", s.status.isSome), ("created_by", s.createdBy.isSome),
    ("created_at", s.createdAt.isSome), ("updated_by", s.updatedBy.isSome),
    ("updated_at", s.updatedAt.isSome)].lookup name).getD false

theorem slotLaws : shape.SlotLaws payloadFields put {} finish Slots.filled where
  shape := rfl
  distinct := by decide
  put_ok s key v := by
    unfold put
    -- each known key is read by the decoder of its field's type; other keys are skipped
    split
    · exact ((Json.reads_i64.map _).store _ v).trans (by simp [payloadFields])
    · exact ((Json.reads_i64.map _).store _ v).trans (by simp [payloadFields])
    · exact ((Json.reads_uuid.map _).store _ v).trans (by simp [payloadFields])
    · exact (RecordStatus.reads_decode.store _ v).trans (by simp [payloadFields])
    · exact (Json.reads_string.store _ v).trans (by simp [payloadFields])
    · exact (Json.reads_instant.store _ v).trans (by simp [payloadFields])
    · exact (Json.reads_string.option.store _ v).trans (by simp [payloadFields])
    · exact (Json.reads_instant.option.store _ v).trans (by simp [payloadFields])
    · simp_all [payloadFields, pure, Except.pure]
  put_filled s key v s' stored := by
    unfold put at stored
    split at stored
    -- an unknown key changes nothing
    case h_9 =>
      cases stored
      simp_all [payloadFields, Slots.filled, List.lookup_cons]
    all_goals
      obtain ⟨a, -, rfl⟩ := bind_pure_eq_ok stored
      simp [payloadFields, Slots.filled, List.lookup_cons]
  empty_filled := by simp [payloadFields, Slots.filled, List.lookup_cons]
  finish_ok s := by
    simp [finish, exists_requireField_bind_ok, payloadFields, Slots.filled, List.lookup_cons, pure,
      Except.pure, Option.isSome_iff_exists]

/-- A pilot is decoded from exactly the objects and arrays of its grammar. -/
theorem decode_ok_iff (v : Json) : (∃ e, decode v = .ok e) ↔ RecordGrammar payloadFields v :=
  slotLaws.decode_ok_iff v

end ScreenPilot

/-! ## Changes -/

namespace EntityKind

/-- The fields of a kind's payload. -/
def payloadFields : EntityKind → List FieldSpec
  | .screenDefinition => ScreenDefinition.payloadFields
  | .screenPilot => ScreenPilot.payloadFields

theorem tag_of_ofTag? {s : String} {k : EntityKind} (read : ofTag? s = some k) : k.tag = s := by
  simpa using List.find?_some read

/-- A text names no kind exactly when it is neither kind's tag. -/
theorem ofTag?_eq_none_iff {s : String} :
    ofTag? s = none ↔ s ≠ "ScreenDefinition" ∧ s ≠ "ScreenPilot" := by
  constructor
  · intro unknown
    refine ⟨fun named => ?_, fun named => ?_⟩
    · rw [named, show "ScreenDefinition" = screenDefinition.tag from rfl, ofTag?_tag] at unknown
      cases unknown
    · rw [named, show "ScreenPilot" = screenPilot.tag from rfl, ofTag?_tag] at unknown
      cases unknown
  · rintro ⟨notDefinition, notPilot⟩
    cases read : ofTag? s with
    | none => rfl
    | some k =>
      have tagged := tag_of_ofTag? read
      cases k
      · exact absurd tagged.symm notDefinition
      · exact absurd tagged.symm notPilot

end EntityKind

namespace Change

theorem decode_of_ofTag?_none {t : String} (unknown : EntityKind.ofTag? t = none) (v : Json) :
    decode t v = .error (.unknownEntityType t) := by
  simp [decode, unknown]

theorem decode_definition (v : Json) : decode EntityKind.screenDefinition.tag v =
    ((ScreenDefinition.decode v).map .definition).mapError (.invalidPayload .screenDefinition) := by
  simp only [decode, EntityKind.ofTag?_tag]
  cases ScreenDefinition.decode v <;> rfl

theorem decode_pilot (v : Json) : decode EntityKind.screenPilot.tag v =
    ((ScreenPilot.decode v).map .pilot).mapError (.invalidPayload .screenPilot) := by
  simp only [decode, EntityKind.ofTag?_tag]
  cases ScreenPilot.decode v <;> rfl

/-- A known kind's payload decodes exactly on the kind's grammar, to a change of that
kind; otherwise it fails as an invalid payload of that kind. -/
theorem decode_known (k : EntityKind) (v : Json) :
    ((∃ c, decode k.tag v = .ok c) ↔ RecordGrammar k.payloadFields v) ∧
      ((∃ c, decode k.tag v = .ok c ∧ c.kind = k) ∨
        ∃ err, decode k.tag v = .error (.invalidPayload k err)) := by
  cases k with
  | screenDefinition =>
    rw [decode_definition, EntityKind.payloadFields, ← ScreenDefinition.decode_ok_iff]
    cases ScreenDefinition.decode v <;> simp [Except.map, Except.mapError, kind]
  | screenPilot =>
    rw [decode_pilot, EntityKind.payloadFields, ← ScreenPilot.decode_ok_iff]
    cases ScreenPilot.decode v <;> simp [Except.map, Except.mapError, kind]

/-- A payload is reported of an unknown entity type exactly when the type names no kind. -/
theorem decode_eq_unknown_iff (t : String) (v : Json) :
    decode t v = .error (.unknownEntityType t) ↔ EntityKind.ofTag? t = none := by
  refine ⟨fun unknown => ?_, fun none => decode_of_ofTag?_none none v⟩
  cases read : EntityKind.ofTag? t with
  | none => rfl
  | some k =>
    rw [← EntityKind.tag_of_ofTag? read] at unknown
    rcases (decode_known k v).2 with ⟨c, decoded, -⟩ | ⟨err, invalid⟩
    · cases unknown.symm.trans decoded
    · cases unknown.symm.trans invalid

end Change

/-- Decoding a change reads exactly the payload grammar.  A type that is neither
`ScreenDefinition` nor `ScreenPilot`, exactly, is reported unknown whatever the payload.
A kind's payload decodes exactly when it is an object or an array of the kind's
grammar, and then to a change of that kind; otherwise it fails as an invalid payload of
that kind. -/
theorem decode_accepts_exactly_the_payload_grammar (t : String) (v : Json) :
    (Change.decode t v = .error (.unknownEntityType t) ↔ t ≠ "ScreenDefinition" ∧ t ≠ "ScreenPilot") ∧
    ∀ k : EntityKind,
      ((∃ c, Change.decode k.tag v = .ok c) ↔ RecordGrammar k.payloadFields v) ∧
      ((∃ c, Change.decode k.tag v = .ok c ∧ c.kind = k) ∨
        ∃ err, Change.decode k.tag v = .error (.invalidPayload k err)) :=
  ⟨(Change.decode_eq_unknown_iff t v).trans EntityKind.ofTag?_eq_none_iff, fun k => Change.decode_known k v⟩

end OutboxReplicator
