import OutboxReplicator.Json.Decode
/-!
# Record status

A replicated row is active or inactive.  On the wire the status is a byte, 1 for active
and 0 for inactive; any other byte is refused with its own error, and a value that is
no byte at all gets the usual decoding error.
-/

namespace OutboxReplicator

/-- Whether a replicated row is in use. -/
inductive RecordStatus where
  /-- Stored as `0`: soft-deleted or switched off. -/
  | inactive
  /-- Stored as `1`: in use. -/
  | active
  deriving DecidableEq, Repr

namespace RecordStatus

/-- The byte of the status. -/
def toByte : RecordStatus → Nat
  | .inactive => 0
  | .active => 1

/-- The status of a byte, if it names one. -/
def ofByte? : Nat → Option RecordStatus
  | 0 => some .inactive
  | 1 => some .active
  | _ => none

/-- Reading back a status's byte gives the status. -/
@[simp] theorem ofByte?_toByte (s : RecordStatus) : ofByte? s.toByte = some s := by
  cases s <;> rfl

/-- Whether the status is active. -/
def isActive (s : RecordStatus) : Bool := s == .active

/-- The name of the status. -/
def name : RecordStatus → String
  | .inactive => "Inactive"
  | .active => "Active"

/-- The status of a JSON value: a byte naming a status. -/
def decode (j : Json) : Except DecodeError RecordStatus := do
  let b ← Json.decodeU8 j
  match ofByte? b with
  | some s => pure s
  | none => throw (.custom ("unknown record status " ++ toString b))

/-- The JSON form: the byte. -/
def toJson (s : RecordStatus) : Json := Json.nat s.toByte

end RecordStatus

end OutboxReplicator
