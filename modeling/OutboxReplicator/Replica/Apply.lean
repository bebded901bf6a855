import OutboxReplicator.Replica.Tables
import OutboxReplicator.Outbox.Tags
/-!
# Applying changes

A change is applied idempotently, by whether its key is present:

| operation | key present | key missing |
|---|---|---|
| insert | nothing (already present) | insert (inserted) |
| update | overwrite (updated) | insert (inserted on update) |
| delete | soft delete (soft deleted) | nothing (nothing to delete) |

Replicating a record decodes its payload first; a record that does not decode leaves
the replica as it was.
-/

namespace OutboxReplicator

/-- What applying a change did. -/
inductive Outcome where
  /-- An insert added the row. -/
  | inserted
  /-- An insert found the row already there and left it. -/
  | alreadyPresent
  /-- An update changed the row. -/
  | updated
  /-- An update found no row and added it. -/
  | insertedOnUpdate
  /-- A delete marked the row inactive. -/
  | softDeleted
  /-- A delete found no row. -/
  | nothingToDelete
  deriving DecidableEq, Repr

namespace Outcome

/-- The name of the outcome. -/
def name : Outcome → String
  | .inserted => "inserted"
  | .alreadyPresent => "already_present"
  | .updated => "updated"
  | .insertedOnUpdate => "inserted_on_update"
  | .softDeleted => "soft_deleted"
  | .nothingToDelete => "nothing_to_delete"

end Outcome

namespace Replica

/-- Apply an operation with a change. -/
def apply (r : Replica) (op : Operation) (c : Change) : Except Failure (Outcome × Replica) :=
  let present := r.contains c.kind c.key
  match op, present with
  | .insert, true => .ok (.alreadyPresent, r)
  | .insert, false => (r.insert c).map fun r => (.inserted, r)
  | .update, true => (r.update c).map fun r => (.updated, r)
  | .update, false => (r.insert c).map fun r => (.insertedOnUpdate, r)
  | .delete, true => .ok (.softDeleted, r.softDelete c.kind c.key c.audit)
  | .delete, false => .ok (.nothingToDelete, r)

/-- Decode a record's payload as its entity type and apply the operation. -/
def replicate (r : Replica) (entityType : String) (op : Operation) (payload : Json) :
    Except Failure (Outcome × Replica) := do
  let c ← Change.decode entityType payload
  r.apply op c

end Replica

end OutboxReplicator
