/-!
# Outbox operations and statuses

An outbox record asks for one of three operations on its entity, and moves through
four statuses: pending, then processing while a processor holds it, then completed or
failed.  Both are stored as their tags, matched exactly; an unknown tag is an unknown
variant.
-/

namespace OutboxReplicator

/-- What a record asks the replica to do. -/
inductive Operation where
  /-- The entity was created. -/
  | insert
  /-- The entity was changed. -/
  | update
  /-- The entity was deleted. -/
  | delete
  deriving DecidableEq, Repr

namespace Operation

/-- Every operation. -/
def all : List Operation := [.insert, .update, .delete]

/-- The tag. -/
def tag : Operation → String
  | .insert => "Insert"
  | .update => "Update"
  | .delete => "Delete"

/-- The operation with exactly this tag. -/
def ofTag? (s : String) : Option Operation := all.find? (·.tag == s)

/-- Reading back an operation's tag gives the operation. -/
@[simp] theorem ofTag?_tag (op : Operation) : ofTag? op.tag = some op := by
  cases op <;> decide

end Operation

/-- Where a record is in its life. -/
inductive OutboxStatus where
  /-- Waiting to be delivered. -/
  | pending
  /-- Claimed by a cycle that is delivering it. -/
  | processing
  /-- Delivered. -/
  | completed
  /-- Its last delivery failed. -/
  | failed
  deriving DecidableEq, Repr

namespace OutboxStatus

/-- Every status. -/
def all : List OutboxStatus := [.pending, .processing, .completed, .failed]

/-- The tag. -/
def tag : OutboxStatus → String
  | .pending => "Pending"
  | .processing => "Processing"
  | .completed => "Completed"
  | .failed => "Failed"

/-- The status with exactly this tag. -/
def ofTag? (s : String) : Option OutboxStatus := all.find? (·.tag == s)

/-- Reading back a status's tag gives the status. -/
@[simp] theorem ofTag?_tag (st : OutboxStatus) : ofTag? st.tag = some st := by
  cases st <;> decide

end OutboxStatus

/-- The text of an unknown tag's error. -/
def unknownVariantMessage (s : String) : String := "unknown variant: " ++ s

end OutboxReplicator
