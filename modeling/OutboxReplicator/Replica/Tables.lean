import OutboxReplicator.Replica.Change
/-!
# The replica tables

The replica holds one table of screen definitions and one of screen pilots, each keyed
by the entity's id and kept in key order.  A definition's code is unique among
definitions.

The tables offer four operations per kind:

* `exists`: whether a key is present;
* `insert`: add a row, doing nothing when its key is present; a definition whose code
  another row holds is refused;
* `update`: overwrite every column of the row with the entity's key except its creator
  and creation time; a missing row is a failure, and so is a code another row holds;
* `softDelete`: set the status of a present row to inactive and its editor and edit
  time to the given stamp, missing ones included; a missing row is left alone.

Failures are internal, with the operation as context and the database fault as cause.
-/

namespace OutboxReplicator

/-- The replicated tables. -/
structure Replica where
  /-- Screen definitions, in key order. -/
  definitions : List ScreenDefinition
  /-- Screen pilots, in key order. -/
  pilots : List ScreenPilot
  deriving Repr

namespace Replica

/-- The empty replica. -/
def empty : Replica := ⟨[], []⟩

/-- Put an element among elements in key order. -/
def insertByKey {α : Type} (key : α → Int) (x : α) : List α → List α
  | [] => [x]
  | y :: rest => if key x < key y then x :: y :: rest else y :: insertByKey key x rest

/-- Whether a key is present for a kind. -/
def contains (r : Replica) : EntityKind → Int → Bool
  | .screenDefinition, k => r.definitions.any (·.key == k)
  | .screenPilot, k => r.pilots.any (·.key == k)

/-- Whether another definition than the one with key `k` has the code. -/
def codeTaken (r : Replica) (code : String) (k : Int) : Bool :=
  r.definitions.any fun d => d.code == code && d.key != k

/-- Add a definition unless its key is present; a taken code is refused. -/
def insertDefinition (r : Replica) (e : ScreenDefinition) : Except Failure Replica :=
  if r.contains .screenDefinition e.key then .ok r
  else if r.codeTaken e.code e.key then
    .error (.database "insert screen definition replica" .uniqueViolation)
  else .ok { r with definitions := insertByKey ScreenDefinition.key e r.definitions }

/-- Add a pilot unless its key is present. -/
def insertPilot (r : Replica) (e : ScreenPilot) : Except Failure Replica :=
  if r.contains .screenPilot e.key then .ok r
  else .ok { r with pilots := insertByKey ScreenPilot.key e r.pilots }

/-- The definition `e` over the stored row `d`, keeping the row's creator and creation
time. -/
def ScreenDefinition.overwrite (d e : ScreenDefinition) : ScreenDefinition :=
  { e with createdBy := d.createdBy, createdAt := d.createdAt }

/-- The pilot `e` over the stored row `p`, keeping the row's creator and creation time. -/
def ScreenPilot.overwrite (p e : ScreenPilot) : ScreenPilot :=
  { e with createdBy := p.createdBy, createdAt := p.createdAt }

/-- Overwrite the definition with the same key. -/
def updateDefinition (r : Replica) (e : ScreenDefinition) : Except Failure Replica :=
  if !r.contains .screenDefinition e.key then
    .error (.database "update screen definition replica" .recordNotUpdated)
  else if r.codeTaken e.code e.key then
    .error (.database "update screen definition replica" .uniqueViolation)
  else .ok { r with definitions := r.definitions.map fun d =>
    if d.key == e.key then ScreenDefinition.overwrite d e else d }

/-- Overwrite the pilot with the same key. -/
def updatePilot (r : Replica) (e : ScreenPilot) : Except Failure Replica :=
  if !r.contains .screenPilot e.key then
    .error (.database "update screen pilot replica" .recordNotUpdated)
  else .ok { r with pilots := r.pilots.map fun p =>
    if p.key == e.key then ScreenPilot.overwrite p e else p }

/-- Deactivate the row of a kind with a key, stamping it. -/
def softDelete (r : Replica) (kind : EntityKind) (k : Int) (a : AuditStamp) : Replica :=
  match kind with
  | .screenDefinition =>
    { r with definitions := r.definitions.map fun d =>
        if d.key == k then { d with status := .inactive, updatedBy := a.updatedBy,
                                    updatedAt := a.updatedAt } else d }
  | .screenPilot =>
    { r with pilots := r.pilots.map fun p =>
        if p.key == k then { p with status := .inactive, updatedBy := a.updatedBy,
                                    updatedAt := a.updatedAt } else p }

/-- Add the entity of a change unless its key is present. -/
def insert (r : Replica) : Change → Except Failure Replica
  | .definition e => r.insertDefinition e
  | .pilot e => r.insertPilot e

/-- Overwrite the row of a change's key. -/
def update (r : Replica) : Change → Except Failure Replica
  | .definition e => r.updateDefinition e
  | .pilot e => r.updatePilot e

end Replica

end OutboxReplicator
