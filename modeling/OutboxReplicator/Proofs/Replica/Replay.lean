import Mathlib.Data.List.Infix
import OutboxReplicator.Proofs.Processor.KeyFifo
/-!
# Replaying records

Delivery is at least once: a record may be applied again after it was applied.  Every
branch of the apply table that finds its row writes over it: an insert leaves it, an
update overwrites all of it but its creation, a delete writes three columns.  So applying
a sequence of records a second time changes nothing (`replay_is_harmless`), provided that

* no code belongs to two keys among the stored definitions and the definitions the
  records carry, so that no write is refused for a taken code, and
* no delete of the sequence finds its row missing the first time: a delete that finds
  nothing, followed by an insert of the key, would deactivate the inserted row on the
  replay.

The argument is about the row under one key (`RowWrites`).  Writes over a stored row,
run again after any writes, change nothing that running them once more would not
(`RowWrites.runStored_absorbs`); the first write to a missing row inserts its entity,
which the same write on the replay keeps (`RowWrites.runSlot_idem`).  The replica's view
under each key is the run of the writes to that key (`ReplicaView.replay_definitions`),
the replay finds every row it writes and so leaves the order of keys as it was, and a
replica with unique keys is determined by its order of keys and its view
(`Replica.eq_of_view`).
-/

namespace OutboxReplicator

/-! ## Writes under one key -/

/-- How the rows of one kind are written over: `overwrite d e` stores the entity `e`
over the stored row `d`, keeping `d`'s creator and creation time, and `deactivate d e`
marks `d` inactive with `e`'s editor and edit time.  The laws are what a replay relies
on: an overwrite forgets what earlier writes did to the row but its creation, and a
deactivation replaces an earlier one. -/
structure RowWrites (α : Type) where
  overwrite : α → α → α
  deactivate : α → α → α
  overwrite_self (e : α) : overwrite e e = e
  overwrite_overwrite (d e e' : α) : overwrite (overwrite d e) e' = overwrite d e'
  overwrite_deactivate (d e e' : α) : overwrite (deactivate d e) e' = overwrite d e'
  deactivate_deactivate (d e e' : α) : deactivate (deactivate d e) e' = deactivate d e'

namespace RowWrites

variable {α β : Type} (w : RowWrites α)

/-- A write to a stored row: an insert leaves it, an update overwrites it and a delete
deactivates it. -/
def onStored : Operation → α → α → α
  | .insert, _, d => d
  | .update, e, d => w.overwrite d e
  | .delete, e, d => w.deactivate d e

/-- A write to the row stored under its key, `none` when there is none: a missing row is
inserted by an insert or an update and left missing by a delete. -/
def onSlot : Operation → α → Option α → Option α
  | op, e, some d => some (w.onStored op e d)
  | .delete, _, none => none
  | _, e, none => some e

variable (write : β → Option (Operation × α))

/-- The write that `write` reads off an item, to a stored row; an item that writes
nothing leaves it. -/
def stepStored (i : β) (d : α) : α :=
  match write i with
  | some (op, e) => w.onStored op e d
  | none => d

/-- The write that `write` reads off an item, to the row under the key. -/
def stepSlot (i : β) (x : Option α) : Option α :=
  match write i with
  | some (op, e) => w.onSlot op e x
  | none => x

/-- A stored row after the writes of the items, in order. -/
def runStored : List β → α → α
  | [], d => d
  | i :: items, d => runStored items (w.stepStored write i d)

/-- The row under the key after the writes of the items, in order. -/
def runSlot : List β → Option α → Option α
  | [], x => x
  | i :: items, x => runSlot items (w.stepSlot write i x)

/-- Every delete among the items finds the row under the key present. -/
def DeletesFind (items : List β) (x : Option α) : Prop :=
  ∀ pre i post e, items = pre ++ i :: post → write i = some (.delete, e) →
    (w.runSlot write pre x).isSome

variable {w write}

@[simp] theorem stepSlot_some (i : β) (d : α) :
    w.stepSlot write i (some d) = some (w.stepStored write i d) := by
  unfold stepSlot stepStored
  split <;> rfl

theorem runStored_append (items more : List β) (d : α) :
    w.runStored write (items ++ more) d = w.runStored write more (w.runStored write items d) := by
  induction items generalizing d with
  | nil => rfl
  | cons i items induction => exact induction _

/-- A present row stays present. -/
theorem runSlot_some (items : List β) (d : α) :
    w.runSlot write items (some d) = some (w.runStored write items d) := by
  induction items generalizing d with
  | nil => rfl
  | cons i items induction => simp only [runSlot, runStored, stepSlot_some, induction]

theorem overwrite_stepStored (i : β) (d e : α) :
    w.overwrite (w.stepStored write i d) e = w.overwrite d e := by
  unfold stepStored
  split
  next op _ _ =>
    cases op <;> simp only [onStored, w.overwrite_overwrite, w.overwrite_deactivate]
  next => rfl

/-- An overwrite forgets the writes before it, all of which keep the row's creation. -/
theorem overwrite_runStored (items : List β) (d e : α) :
    w.overwrite (w.runStored write items d) e = w.overwrite d e := by
  induction items generalizing d with
  | nil => rfl
  | cons i items induction => rw [runStored, induction, overwrite_stepStored]

/-- A deactivation before some writes is forgotten when the same deactivation follows
them. -/
theorem deactivate_runStored_deactivate (items : List β) (d e : α) :
    w.deactivate (w.runStored write items (w.deactivate d e)) e =
      w.deactivate (w.runStored write items d) e := by
  induction items generalizing d with
  | nil => exact w.deactivate_deactivate d e e
  | cons i items induction =>
    simp only [runStored, stepStored]
    -- the first write takes the deactivation in, or passes it on to the rest
    split
    next op e' _ =>
      cases op with
      | insert => exact induction d
      | update => rw [onStored, w.overwrite_deactivate]; rfl
      | delete => rw [onStored, w.deactivate_deactivate]; rfl
    next => exact induction d

/-- A write, made again after some writes that followed it, changes nothing that making
it after them alone would not. -/
theorem stepStored_absorbs (i : β) (items : List β) (d : α) :
    w.stepStored write i (w.runStored write items (w.stepStored write i d)) =
      w.stepStored write i (w.runStored write items d) := by
  unfold stepStored
  split
  next op e _ =>
    cases op with
    | insert => rfl
    | update => simp only [onStored, overwrite_runStored, w.overwrite_overwrite]
    | delete => exact deactivate_runStored_deactivate items d e
  next => rfl

/-- Writes run again after any writes change nothing that running them after those
writes alone would not: the writes under a key overwrite some of its columns, each
with values of its own. -/
theorem runStored_absorbs (items more : List β) (d : α) :
    w.runStored write items (w.runStored write more (w.runStored write items d)) =
      w.runStored write items (w.runStored write more d) := by
  induction items generalizing more d with
  | nil => rfl
  | cons i items induction =>
    -- the first write joins the writes in between
    calc w.runStored write items (w.stepStored write i
            (w.runStored write more (w.runStored write items (w.stepStored write i d))))
        = w.runStored write items (w.runStored write (more ++ [i])
            (w.runStored write items (w.stepStored write i d))) := by
          rw [runStored_append]; rfl
      _ = w.runStored write items (w.runStored write (more ++ [i]) (w.stepStored write i d)) :=
          induction _ _
      _ = w.runStored write items (w.stepStored write i
            (w.runStored write more (w.stepStored write i d))) := by
          rw [runStored_append]; rfl
      _ = w.runStored write items (w.stepStored write i (w.runStored write more d)) := by
          rw [stepStored_absorbs]

theorem runStored_idem (items : List β) (d : α) :
    w.runStored write items (w.runStored write items d) = w.runStored write items d :=
  runStored_absorbs items [] d

/-- Running the writes a second time gives the row the first run gave, when every delete
of the first run finds its row. -/
theorem runSlot_idem {items : List β} {x : Option α} (finds : w.DeletesFind write items x) :
    w.runSlot write items (w.runSlot write items x) = w.runSlot write items x := by
  cases x with
  | some d => rw [runSlot_some, runSlot_some, runStored_idem]
  | none =>
    induction items with
    | nil => rfl
    | cons i items induction =>
      rcases found : write i with _ | ⟨op, e⟩
      · -- an item that writes nothing leaves the row missing
        have later : w.DeletesFind write items none := fun pre j post e' split isDelete => by
          have earlier := finds (i :: pre) j post e' (by rw [split]; rfl) isDelete
          simpa only [runSlot, stepSlot, found] using earlier
        simpa only [runSlot, stepSlot, found] using induction later
      · -- the first write inserts its entity, which the same write on the replay keeps
        cases op with
        | insert =>
          simp only [runSlot, stepSlot, found, onSlot, runSlot_some, onStored, runStored_idem]
        | update =>
          simp only [runSlot, stepSlot, found, onSlot, runSlot_some, onStored,
            overwrite_runStored, w.overwrite_self]
        | delete => exact absurd (finds [] i items e rfl found) (by simp [runSlot])

/-- After writes that every delete of which finds its row, the row under the key is
present once an item writes to it. -/
theorem runSlot_isSome {items : List β} {x : Option α} (finds : w.DeletesFind write items x)
    (writes : ∃ i ∈ items, (write i).isSome) : (w.runSlot write items x).isSome := by
  cases x with
  | some d => simp [runSlot_some]
  | none =>
    induction items with
    | nil => simp at writes
    | cons i items induction =>
      rcases found : write i with _ | ⟨op, e⟩
      · have later : w.DeletesFind write items none := fun pre j post e' split isDelete => by
          have earlier := finds (i :: pre) j post e' (by rw [split]; rfl) isDelete
          simpa only [runSlot, stepSlot, found] using earlier
        have writesLater : ∃ j ∈ items, (write j).isSome := by
          obtain ⟨j, mem, isSome⟩ := writes
          rcases List.mem_cons.mp mem with rfl | later
          · simp [found] at isSome
          · exact ⟨j, later, isSome⟩
        simpa only [runSlot, stepSlot, found] using induction writesLater later
      · cases op with
        | delete => exact absurd (finds [] i items e rfl found) (by simp [runSlot])
        | insert | update => simp [runSlot, stepSlot, found, onSlot, runSlot_some]

end RowWrites

/-- Screen definitions as the apply table writes them. -/
def ScreenDefinition.rowWrites : RowWrites ScreenDefinition where
  overwrite := Replica.ScreenDefinition.overwrite
  deactivate d e := { d with status := .inactive, updatedBy := e.updatedBy, updatedAt := e.updatedAt }
  overwrite_self _ := rfl
  overwrite_overwrite _ _ _ := rfl
  overwrite_deactivate _ _ _ := rfl
  deactivate_deactivate _ _ _ := rfl

/-- Screen pilots as the apply table writes them. -/
def ScreenPilot.rowWrites : RowWrites ScreenPilot where
  overwrite := Replica.ScreenPilot.overwrite
  deactivate p e := { p with status := .inactive, updatedBy := e.updatedBy, updatedAt := e.updatedAt }
  overwrite_self _ := rfl
  overwrite_overwrite _ _ _ := rfl
  overwrite_deactivate _ _ _ := rfl
  deactivate_deactivate _ _ _ := rfl

/-! ## Records as writes under a key -/

namespace Change

/-- The screen definition a change carries. -/
def definition? : Change → Option ScreenDefinition
  | .definition e => some e
  | .pilot _ => none

/-- The screen pilot a change carries. -/
def pilot? : Change → Option ScreenPilot
  | .definition _ => none
  | .pilot e => some e

end Change

namespace OutboxRecord

/-- The change a record's payload decodes to. -/
def change? (x : OutboxRecord) : Option Change :=
  (Change.decode x.entityType x.payload).toOption

theorem change?_eq_some {x : OutboxRecord} {c : Change} :
    x.change? = some c ↔ Change.decode x.entityType x.payload = .ok c := by
  unfold change?
  cases Change.decode x.entityType x.payload <;> simp [Except.toOption]

/-- The write a record makes to the row of one kind under key `k`: its operation with the
entity of that kind its payload carries, when the entity has the key. -/
def writeAt {α : Type} (select : Change → Option α) (key : α → Int) (k : Int)
    (x : OutboxRecord) : Option (Operation × α) :=
  (x.change?.bind select).bind fun e => if key e = k then some (x.operation, e) else none

theorem writeAt_eq_some {α : Type} {select : Change → Option α} {key : α → Int} {k : Int}
    {x : OutboxRecord} {op : Operation} {e : α} (writes : x.writeAt select key k = some (op, e)) :
    ∃ c, x.change? = some c ∧ select c = some e ∧ key e = k ∧ op = x.operation := by
  unfold writeAt at writes
  obtain ⟨e', carried, kept⟩ := Option.bind_eq_some_iff.mp writes
  obtain ⟨c, decoded, selected⟩ := Option.bind_eq_some_iff.mp carried
  split at kept
  next same =>
    simp only [Option.some.injEq, Prod.mk.injEq] at kept
    obtain ⟨rfl, rfl⟩ := kept
    exact ⟨c, decoded, selected, same, rfl⟩
  next => cases kept

end OutboxRecord

namespace ReplicaView

variable {v : ReplicaView} {σ : List OutboxRecord}

/-- The view after the records whose payloads decode, each applied with success in turn. -/
def replay (v : ReplicaView) : List OutboxRecord → ReplicaView
  | [] => v
  | x :: rest =>
    match x.change? with
    | some c => (v.applied x.operation c).replay rest
    | none => v.replay rest

/-- A successful write of a record is, under each key of definitions, the write the record
makes there. -/
theorem applied_definitions (v : ReplicaView) {x : OutboxRecord} {c : Change}
    (decoded : x.change? = some c) (k : Int) :
    (v.applied x.operation c).definitions k =
      ScreenDefinition.rowWrites.stepSlot
        (OutboxRecord.writeAt Change.definition? ScreenDefinition.key k) x (v.definitions k) := by
  simp only [RowWrites.stepSlot, OutboxRecord.writeAt, decoded, Option.bind_some]
  cases c with
  | pilot e =>
    simp only [applied, Change.definition?, Option.bind_none]
    split <;> rfl
  | definition e =>
    simp only [Change.definition?, Option.bind_some]
    by_cases same : e.key = k
    · subst same
      cases op : x.operation <;> cases found : v.definitions e.key <;>
        simp [applied, found, setDefinition, RowWrites.onSlot, RowWrites.onStored,
          ScreenDefinition.rowWrites, Replica.ScreenDefinition.overwrite]
    · cases x.operation <;> cases found : v.definitions e.key <;>
        simp [applied, found, setDefinition, same, Function.update_of_ne (Ne.symm same)]

/-- A successful write of a record is, under each key of pilots, the write the record
makes there. -/
theorem applied_pilots (v : ReplicaView) {x : OutboxRecord} {c : Change}
    (decoded : x.change? = some c) (k : Int) :
    (v.applied x.operation c).pilots k =
      ScreenPilot.rowWrites.stepSlot
        (OutboxRecord.writeAt Change.pilot? ScreenPilot.key k) x (v.pilots k) := by
  simp only [RowWrites.stepSlot, OutboxRecord.writeAt, decoded, Option.bind_some]
  cases c with
  | definition e =>
    simp only [applied, Change.pilot?, Option.bind_none]
    split <;> rfl
  | pilot e =>
    simp only [Change.pilot?, Option.bind_some]
    by_cases same : e.key = k
    · subst same
      cases x.operation <;> cases found : v.pilots e.key <;>
        simp [applied, found, setPilot, RowWrites.onSlot, RowWrites.onStored,
          ScreenPilot.rowWrites, Replica.ScreenPilot.overwrite]
    · cases x.operation <;> cases found : v.pilots e.key <;>
        simp [applied, found, setPilot, same, Function.update_of_ne (Ne.symm same)]

/-- The definition under a key after a replay is the run of the records' writes there. -/
theorem replay_definitions (v : ReplicaView) (σ : List OutboxRecord) (k : Int) :
    (v.replay σ).definitions k = ScreenDefinition.rowWrites.runSlot
      (OutboxRecord.writeAt Change.definition? ScreenDefinition.key k) σ (v.definitions k) := by
  induction σ generalizing v with
  | nil => rfl
  | cons x rest induction =>
    cases decoded : x.change? with
    | none =>
      -- a record whose payload does not decode writes nothing
      simp only [replay, decoded, RowWrites.runSlot, RowWrites.stepSlot, OutboxRecord.writeAt,
        Option.bind_none]
      exact induction v
    | some c =>
      simp only [replay, decoded, RowWrites.runSlot]
      rw [induction, applied_definitions v decoded]

/-- The pilot under a key after a replay is the run of the records' writes there. -/
theorem replay_pilots (v : ReplicaView) (σ : List OutboxRecord) (k : Int) :
    (v.replay σ).pilots k = ScreenPilot.rowWrites.runSlot
      (OutboxRecord.writeAt Change.pilot? ScreenPilot.key k) σ (v.pilots k) := by
  induction σ generalizing v with
  | nil => rfl
  | cons x rest induction =>
    cases decoded : x.change? with
    | none =>
      simp only [replay, decoded, RowWrites.runSlot, RowWrites.stepSlot, OutboxRecord.writeAt,
        Option.bind_none]
      exact induction v
    | some c =>
      simp only [replay, decoded, RowWrites.runSlot]
      rw [induction, applied_pilots v decoded]

/-! ## Deletes that find their rows -/

/-- The view holds a row of the change's kind under its key. -/
def holds (v : ReplicaView) : Change → Prop
  | .definition e => (v.definitions e.key).isSome
  | .pilot e => (v.pilots e.key).isSome

/-- Every delete among the records finds its row in the view the records before it
leave. -/
def DeletesFind (v : ReplicaView) (σ : List OutboxRecord) : Prop :=
  ∀ pre x post c, σ = pre ++ x :: post → x.operation = .delete → x.change? = some c →
    (v.replay pre).holds c

theorem DeletesFind.definitions (finds : v.DeletesFind σ) (k : Int) :
    ScreenDefinition.rowWrites.DeletesFind
      (OutboxRecord.writeAt Change.definition? ScreenDefinition.key k) σ (v.definitions k) := by
  intro pre x post e split writes
  obtain ⟨c, decoded, carried, rfl, isDelete⟩ := OutboxRecord.writeAt_eq_some writes
  cases c with
  | pilot => cases carried
  | definition e' =>
    cases carried
    have found := finds pre x post (.definition e) split isDelete.symm decoded
    simpa only [holds, replay_definitions] using found

theorem DeletesFind.pilots (finds : v.DeletesFind σ) (k : Int) :
    ScreenPilot.rowWrites.DeletesFind
      (OutboxRecord.writeAt Change.pilot? ScreenPilot.key k) σ (v.pilots k) := by
  intro pre x post e split writes
  obtain ⟨c, decoded, carried, rfl, isDelete⟩ := OutboxRecord.writeAt_eq_some writes
  cases c with
  | definition => cases carried
  | pilot e' =>
    cases carried
    have found := finds pre x post (.pilot e) split isDelete.symm decoded
    simpa only [holds, replay_pilots] using found

/-- Replaying records a second time changes nothing, when every delete of the first
replay finds its row. -/
theorem replay_replay (finds : v.DeletesFind σ) : (v.replay σ).replay σ = v.replay σ := by
  refine ReplicaView.ext (funext fun k => ?_) (funext fun k => ?_)
  · rw [replay_definitions (v.replay σ), replay_definitions v,
      RowWrites.runSlot_idem (finds.definitions k)]
  · rw [replay_pilots (v.replay σ), replay_pilots v, RowWrites.runSlot_idem (finds.pilots k)]

/-- After a replay, the row that any record of it writes is there, and stays through any
further records. -/
theorem holds_replay (finds : v.DeletesFind σ) {x : OutboxRecord} {c : Change} (mem : x ∈ σ)
    (decoded : x.change? = some c) (more : List OutboxRecord) :
    ((v.replay σ).replay more).holds c := by
  cases c with
  | definition e =>
    have written : ∃ i ∈ σ,
        (OutboxRecord.writeAt Change.definition? ScreenDefinition.key e.key i).isSome :=
      ⟨x, mem, by simp [OutboxRecord.writeAt, decoded, Change.definition?]⟩
    obtain ⟨d, found⟩ := Option.isSome_iff_exists.mp
      (RowWrites.runSlot_isSome (finds.definitions e.key) written)
    simp only [holds, replay_definitions (v.replay σ), replay_definitions v, found,
      RowWrites.runSlot_some, Option.isSome_some]
  | pilot e =>
    have written : ∃ i ∈ σ,
        (OutboxRecord.writeAt Change.pilot? ScreenPilot.key e.key i).isSome :=
      ⟨x, mem, by simp [OutboxRecord.writeAt, decoded, Change.pilot?]⟩
    obtain ⟨p, found⟩ := Option.isSome_iff_exists.mp
      (RowWrites.runSlot_isSome (finds.pilots e.key) written)
    simp only [holds, replay_pilots (v.replay σ), replay_pilots v, found,
      RowWrites.runSlot_some, Option.isSome_some]

/-! ## Codes -/

/-- The definition stored under key `k`, if any, has the key and the code of a definition
of `defs`. -/
def CodeFrom (defs : List ScreenDefinition) (k : Int) (slot : Option ScreenDefinition) : Prop :=
  ∀ d, slot = some d → ∃ p ∈ defs, p.key = k ∧ p.code = d.code

/-- Every definition of the view has the key and the code of a definition of `defs`. -/
def CodesFrom (defs : List ScreenDefinition) (v : ReplicaView) : Prop :=
  ∀ k, CodeFrom defs k (v.definitions k)

/-- A write keeps the codes under its key from `defs` when the definition it carries is
one of them: an update or an insert stores that definition's code, a delete keeps the
stored one. -/
theorem codeFrom_stepSlot {defs : List ScreenDefinition} {k : Int} {x : OutboxRecord}
    (carried : ∀ e, x.change? = some (.definition e) → e ∈ defs)
    {slot : Option ScreenDefinition} (before : CodeFrom defs k slot) :
    CodeFrom defs k (ScreenDefinition.rowWrites.stepSlot
      (OutboxRecord.writeAt Change.definition? ScreenDefinition.key k) x slot) := by
  unfold RowWrites.stepSlot
  split
  next op e writes =>
    obtain ⟨c, decoded, selected, key, -⟩ := OutboxRecord.writeAt_eq_some writes
    cases c with
    | pilot => cases selected
    | definition e' =>
      cases selected
      have stored : ∃ p ∈ defs, p.key = k ∧ p.code = e.code := ⟨e, carried e decoded, key, rfl⟩
      intro d after
      cases slot with
      | none =>
        cases op <;> simp only [RowWrites.onSlot, Option.some.injEq, reduceCtorEq] at after <;>
          exact after ▸ stored
      | some d' =>
        cases op <;> simp only [RowWrites.onSlot, RowWrites.onStored, Option.some.injEq] at after
        · exact after ▸ before d' rfl
        · exact after ▸ stored
        · exact after ▸ before d' rfl
  next => exact before

theorem CodesFrom.applied {defs : List ScreenDefinition} (codes : v.CodesFrom defs)
    {x : OutboxRecord} {c : Change} (decoded : x.change? = some c)
    (carried : ∀ e, x.change? = some (.definition e) → e ∈ defs) :
    (v.applied x.operation c).CodesFrom defs := fun k => by
  rw [applied_definitions v decoded]
  exact codeFrom_stepSlot carried (codes k)

theorem CodesFrom.replay {defs : List ScreenDefinition} (codes : v.CodesFrom defs)
    (carried : ∀ x ∈ σ, ∀ e, x.change? = some (.definition e) → e ∈ defs) :
    (v.replay σ).CodesFrom defs := by
  induction σ generalizing v with
  | nil => exact codes
  | cons x rest induction =>
    have later := fun y mem => carried y (List.mem_cons_of_mem x mem)
    cases decoded : x.change? with
    | none =>
      simp only [replay, decoded]
      exact induction codes later
    | some c =>
      simp only [replay, decoded]
      exact induction (codes.applied decoded (carried x List.mem_cons_self)) later

/-- No definition of another key holds the code of a definition of `defs` when no code
belongs to two keys among `defs`. -/
theorem CodesFrom.not_codeHeld {defs : List ScreenDefinition} (codes : v.CodesFrom defs)
    (keyed : ∀ p ∈ defs, ∀ q ∈ defs, p.code = q.code → p.key = q.key)
    {e : ScreenDefinition} (mem : e ∈ defs) : ¬ v.codeHeld e.code e.key := by
  rintro ⟨k, d, other, found, code⟩
  obtain ⟨p, carried, key, sameCode⟩ := codes k d found
  exact other (key ▸ keyed p carried e mem (sameCode.trans code))

/-- A write of the table fails only on a definition whose code another row holds. -/
theorem applyRow_error_codeHeld {v' : ReplicaView} {op : Operation} {c : Change} {f : Failure}
    (row : v.applyRow op c (.error f) v') : ∃ e, c = .definition e ∧ v.codeHeld e.code e.key := by
  cases c with
  | definition e =>
    cases op <;> cases found : v.definitions e.key <;>
      simp_all [applyRow, definitionRow]
  | pilot e =>
    cases op <;> cases found : v.pilots e.key <;>
      simp_all [applyRow, pilotRow]

end ReplicaView

/-! ## Replicating records with success -/

namespace Replica

variable {r r' : Replica} {σ : List OutboxRecord}

theorem contains_holds (c : Change) : r.contains c.kind c.key = true ↔ r.view.holds c := by
  cases c <;>
    simp [Change.kind, Change.key, contains_definition, contains_pilot, ReplicaView.holds]

/-- A change whose definition's code no other row holds is applied with success. -/
theorem apply_succeeds (wf : r.WellFormed) (op : Operation) {c : Change}
    (free : ∀ e, c = .definition e → ¬ r.view.codeHeld e.code e.key) :
    ∃ o r', r.apply op c = .ok (o, r') := by
  have follows := r.apply_follows wf op c
  cases applied : r.apply op c with
  | error f =>
    simp only [applied, viewAfter] at follows
    obtain ⟨e, rfl, held⟩ := ReplicaView.applyRow_error_codeHeld follows
    exact absurd held (free e rfl)
  | ok step => exact ⟨step.1, step.2, rfl⟩

/-- Records that decode, whose definitions have codes that no two keys share with each
other or with the stored definitions, replicate with success one after another. -/
theorem replicateAll_succeeds {defs : List ScreenDefinition} (wf : r.WellFormed)
    (codes : r.view.CodesFrom defs) (keyed : ∀ p ∈ defs, ∀ q ∈ defs, p.code = q.code → p.key = q.key)
    (decodes : ∀ x ∈ σ, ∃ c, x.change? = some c)
    (carried : ∀ x ∈ σ, ∀ e, x.change? = some (.definition e) → e ∈ defs) :
    ∃ r', r.replicateAll σ = .ok r' := by
  induction σ generalizing r with
  | nil => exact ⟨r, rfl⟩
  | cons x rest induction =>
    obtain ⟨c, decoded⟩ := decodes x List.mem_cons_self
    have free : ∀ e, c = .definition e → ¬ r.view.codeHeld e.code e.key := by
      rintro e rfl
      exact codes.not_codeHeld keyed (carried x List.mem_cons_self e decoded)
    obtain ⟨o, r₁, applied⟩ := apply_succeeds wf x.operation free
    have replicated : r.replicate x.entityType x.operation x.payload = .ok (o, r₁) := by
      simp [replicate, bind, Except.bind, OutboxRecord.change?_eq_some.mp decoded, applied]
    obtain ⟨c', decoded', view⟩ := replicate_ok_view wf replicated
    rw [← OutboxRecord.change?_eq_some, decoded, Option.some.injEq] at decoded'
    subst decoded'
    -- the rest starts from the replica this record leaves, whose codes still come from defs
    obtain ⟨r₂, rest⟩ := induction (wf.replicate _ _ _ replicated)
      (view ▸ codes.applied decoded (carried x List.mem_cons_self))
      (fun y mem => decodes y (List.mem_cons_of_mem x mem))
      (fun y mem => carried y (List.mem_cons_of_mem x mem))
    exact ⟨r₂, by simp [replicateAll, replicated, rest]⟩

/-- Records replicated with success one after another leave unique keys and the view of
their replay. -/
theorem replicateAll_view (wf : r.WellFormed) (replicated : r.replicateAll σ = .ok r') :
    r'.WellFormed ∧ r'.view = r.view.replay σ := by
  induction σ generalizing r with
  | nil =>
    cases replicated
    exact ⟨wf, rfl⟩
  | cons x rest induction =>
    simp only [replicateAll] at replicated
    split at replicated
    next o r₁ step =>
      obtain ⟨c, decoded, view⟩ := replicate_ok_view wf step
      obtain ⟨wf', view'⟩ := induction (wf.replicate _ _ _ step) replicated
      refine ⟨wf', ?_⟩
      rw [view', view]
      simp only [ReplicaView.replay, OutboxRecord.change?_eq_some.mpr decoded]
    next => cases replicated

/-! ## The order of keys -/

/-- An update rewrites rows in place. -/
theorem update_keys {c : Change} (updated : r.update c = .ok r') :
    r'.definitions.map ScreenDefinition.key = r.definitions.map ScreenDefinition.key ∧
      r'.pilots.map ScreenPilot.key = r.pilots.map ScreenPilot.key := by
  cases c with
  | definition e =>
    simp only [update, updateDefinition] at updated
    split at updated
    · cases updated
    · split at updated
      · cases updated
      · cases updated
        refine ⟨?_, rfl⟩
        rw [List.map_map]
        exact List.map_congr_left fun d _ => key_rewriteAt ScreenDefinition.key
          (fun d => Replica.ScreenDefinition.overwrite d e) (fun _ _ => rfl) d
  | pilot e =>
    simp only [update, updatePilot] at updated
    split at updated
    · cases updated
    · cases updated
      refine ⟨rfl, ?_⟩
      rw [List.map_map]
      exact List.map_congr_left fun p _ => key_rewriteAt ScreenPilot.key
        (fun p => Replica.ScreenPilot.overwrite p e) (fun _ _ => rfl) p

/-- A soft delete rewrites rows in place. -/
theorem softDelete_keys (kind : EntityKind) (k : Int) (a : AuditStamp) :
    (r.softDelete kind k a).definitions.map ScreenDefinition.key =
        r.definitions.map ScreenDefinition.key ∧
      (r.softDelete kind k a).pilots.map ScreenPilot.key = r.pilots.map ScreenPilot.key := by
  cases kind with
  | screenDefinition =>
    refine ⟨?_, rfl⟩
    simp only [softDelete, List.map_map]
    exact List.map_congr_left fun d _ => key_rewriteAt ScreenDefinition.key
      (fun d => { d with status := .inactive, updatedBy := a.updatedBy, updatedAt := a.updatedAt })
      (fun _ same => same) d
  | screenPilot =>
    refine ⟨rfl, ?_⟩
    simp only [softDelete, List.map_map]
    exact List.map_congr_left fun p _ => key_rewriteAt ScreenPilot.key
      (fun p => { p with status := .inactive, updatedBy := a.updatedBy, updatedAt := a.updatedAt })
      (fun _ same => same) p

/-- A change whose row is present is applied in place: the order of keys stays. -/
theorem apply_keys {op : Operation} {c : Change} {o : Outcome}
    (present : r.contains c.kind c.key = true) (applied : r.apply op c = .ok (o, r')) :
    r'.definitions.map ScreenDefinition.key = r.definitions.map ScreenDefinition.key ∧
      r'.pilots.map ScreenPilot.key = r.pilots.map ScreenPilot.key := by
  cases op <;> simp only [apply, present] at applied
  · cases applied
    exact ⟨rfl, rfl⟩
  · cases updated : r.update c with
    | error f => simp [updated, Except.map] at applied
    | ok r'' =>
      simp only [updated, Except.map, Except.ok.injEq, Prod.mk.injEq] at applied
      obtain ⟨-, rfl⟩ := applied
      exact update_keys updated
  · cases applied
    exact softDelete_keys _ _ _

/-- Records each of which finds its row replicate in place: the order of keys stays. -/
theorem replicateAll_keys (replicated : r.replicateAll σ = .ok r')
    (present : ∀ pre x post c, σ = pre ++ x :: post → ∀ r₁, r.replicateAll pre = .ok r₁ →
      x.change? = some c → r₁.contains c.kind c.key = true) :
    r'.definitions.map ScreenDefinition.key = r.definitions.map ScreenDefinition.key ∧
      r'.pilots.map ScreenPilot.key = r.pilots.map ScreenPilot.key := by
  induction σ generalizing r with
  | nil =>
    cases replicated
    exact ⟨rfl, rfl⟩
  | cons x rest induction =>
    simp only [replicateAll] at replicated
    split at replicated
    next o r₁ step =>
      obtain ⟨c, decoded, applied⟩ : ∃ c, Change.decode x.entityType x.payload = .ok c ∧
          r.apply x.operation c = .ok (o, r₁) := by
        simp only [replicate, bind, Except.bind] at step
        split at step
        · cases step
        · next c decoded => exact ⟨c, decoded, step⟩
      have decoded' := OutboxRecord.change?_eq_some.mpr decoded
      have first := apply_keys (present [] x rest c rfl r rfl decoded') applied
      -- the records after this one find their rows from where it leaves the replica
      have later := induction replicated fun pre y post c' split r₂ replicatedPre =>
        present (x :: pre) y post c' (by rw [split]; rfl) r₂
          (by simp [replicateAll, step, replicatedPre])
      exact ⟨later.1.trans first.1, later.2.trans first.2⟩
    next => cases replicated

end Replica

/-- Rows with unique keys are determined by the order of their keys and the row each key
finds. -/
theorem eq_of_keys_find? {α : Type} (key : α → Int) {l l' : List α} (unique : (l.map key).Nodup)
    (keys : l'.map key = l.map key)
    (found : ∀ k, l'.find? (fun x => key x == k) = l.find? (fun x => key x == k)) : l' = l := by
  induction l generalizing l' with
  | nil => exact List.map_eq_nil_iff.mp keys
  | cons x l induction =>
    obtain ⟨y, l'', rfl, yKey, restKeys⟩ := List.map_eq_cons_iff.mp keys
    have first : y = x := by simpa [yKey] using found (key x)
    subst first
    have fresh : key y ∉ l.map key := (List.nodup_cons.mp unique).1
    congr 1
    refine induction (List.nodup_cons.mp unique).2 restKeys fun k => ?_
    by_cases same : key y = k
    · -- the head's key is found in neither tail
      subst same
      have absent : ∀ z ∈ l, key z ≠ key y := fun z mem same => fresh (same ▸ List.mem_map_of_mem mem)
      have absent' : ∀ z ∈ l'', key z ≠ key y := fun z mem same =>
        fresh (restKeys ▸ same ▸ List.mem_map_of_mem mem)
      rw [List.find?_eq_none.mpr (by simpa using absent'), List.find?_eq_none.mpr (by simpa using absent)]
    · simpa [same] using found k

/-- A replica with unique keys is determined by the order of its keys and its view. -/
theorem Replica.eq_of_view {r r' : Replica} (wf : r.WellFormed)
    (definitionKeys : r'.definitions.map ScreenDefinition.key = r.definitions.map ScreenDefinition.key)
    (pilotKeys : r'.pilots.map ScreenPilot.key = r.pilots.map ScreenPilot.key)
    (view : r'.view = r.view) : r' = r := by
  have definitions := eq_of_keys_find? ScreenDefinition.key wf.definitions_unique definitionKeys
    fun k => congrFun (congrArg ReplicaView.definitions view) k
  have pilots := eq_of_keys_find? ScreenPilot.key wf.pilots_unique pilotKeys
    fun k => congrFun (congrArg ReplicaView.pilots view) k
  cases r
  cases r'
  simp only at definitions pilots
  rw [definitions, pilots]

/-! ## Replaying a delivered sequence -/

/-- Replaying a delivered sequence of records is harmless.  Take a replica with unique keys
and records whose payloads decode, such that no code belongs to two keys among the stored
definitions and the definitions the records carry, and no delete among the records finds
its row missing when they are replicated in turn.  Then replicating the records succeeds
at every step, and replicating them once more succeeds at every step and leaves the
replica as the first time did. -/
theorem replay_is_harmless {r : Replica} (wf : r.WellFormed) (σ : List OutboxRecord)
    (decodable : ∀ x ∈ σ, ∃ c, Change.decode x.entityType x.payload = .ok c)
    (codes : ∀ p ∈ r.definitions ++ σ.filterMap (fun x => x.change?.bind Change.definition?),
      ∀ q ∈ r.definitions ++ σ.filterMap (fun x => x.change?.bind Change.definition?),
        p.code = q.code → p.key = q.key)
    (deletesFind : ∀ pre x post c, σ = pre ++ x :: post → x.operation = .delete →
      Change.decode x.entityType x.payload = .ok c →
      ∀ r', r.replicateAll pre = .ok r' → r'.contains c.kind c.key = true) :
    ∃ r', r.replicateAll σ = .ok r' ∧ r'.replicateAll σ = .ok r' := by
  have stored : r.view.CodesFrom (r.definitions ++
      σ.filterMap (fun x => x.change?.bind Change.definition?)) := fun k d found =>
    ⟨d, List.mem_append_left _ (List.mem_of_find?_eq_some found),
      by simpa using List.find?_some found, rfl⟩
  have carried : ∀ x ∈ σ, ∀ e, x.change? = some (.definition e) →
      e ∈ r.definitions ++ σ.filterMap (fun x => x.change?.bind Change.definition?) :=
    fun x mem e decoded => List.mem_append_right _
      (List.mem_filterMap.mpr ⟨x, mem, by simp [decoded, Change.definition?]⟩)
  have decodes : ∀ x ∈ σ, ∃ c, x.change? = some c := fun x mem =>
    (decodable x mem).imp fun _ decoded => OutboxRecord.change?_eq_some.mpr decoded
  -- the first time: every step succeeds, and every delete finds its row in the view
  obtain ⟨r₁, first⟩ := Replica.replicateAll_succeeds wf stored codes decodes carried
  obtain ⟨wf₁, view₁⟩ := Replica.replicateAll_view wf first
  have finds : r.view.DeletesFind σ := by
    intro pre x post c split isDelete decoded
    obtain ⟨r', before, -⟩ := Replica.replicateAll_append_ok (split ▸ first)
    have found := deletesFind pre x post c split isDelete
      (OutboxRecord.change?_eq_some.mp decoded) r' before
    rwa [Replica.contains_holds, (Replica.replicateAll_view wf before).2] at found
  -- the second time: codes still come from the same definitions, and every row is found
  obtain ⟨r₂, second⟩ := Replica.replicateAll_succeeds wf₁ (view₁ ▸ stored.replay carried)
    codes decodes carried
  obtain ⟨-, view₂⟩ := Replica.replicateAll_view wf₁ second
  have keys := Replica.replicateAll_keys second fun pre x post c split r₃ before decoded => by
    have mem : x ∈ σ := by rw [split]; simp
    rw [Replica.contains_holds, (Replica.replicateAll_view wf₁ before).2, view₁]
    exact ReplicaView.holds_replay finds mem decoded pre
  have same : r₂ = r₁ := Replica.eq_of_view wf₁ keys.1 keys.2
    (by rw [view₂, view₁, ReplicaView.replay_replay finds])
  exact ⟨r₁, first, same ▸ second⟩

/-- Records that create a screen, rename it, add a second screen by an update, and
withdraw the first screen. -/
def screenEdits : List OutboxRecord :=
  let home : ScreenDefinition :=
    ⟨⟨1⟩, "home", "Home", "/", none, 0, .active, "admin", ⟨1714557600, 0⟩, none, none⟩
  let record (id : Int) (op : Operation) (e : ScreenDefinition) : OutboxRecord :=
    ⟨id, "ScreenDefinition", e.key, op, e.toJson, .pending, 0, none, ⟨1714557600, 0⟩, none, none,
      none, none⟩
  [record 1 .insert home, record 2 .update { home with name := "Start" },
    record 3 .update { home with id := ⟨2⟩, code := "settings", name := "Settings" },
    record 4 .delete { home with updatedBy := some "admin", updatedAt := some ⟨1714561200, 0⟩ }]

/-- Replaying `screenEdits` on an empty replica. -/
theorem screen_edits_replay :
    Replica.empty.WellFormed ∧
      (∀ x ∈ screenEdits, ∃ c, Change.decode x.entityType x.payload = .ok c) ∧
      (∀ p ∈ Replica.empty.definitions ++
          screenEdits.filterMap (fun x => x.change?.bind Change.definition?),
        ∀ q ∈ Replica.empty.definitions ++
          screenEdits.filterMap (fun x => x.change?.bind Change.definition?),
          p.code = q.code → p.key = q.key) ∧
      (∀ pre x post c, screenEdits = pre ++ x :: post → x.operation = .delete →
        Change.decode x.entityType x.payload = .ok c →
        ∀ r', Replica.empty.replicateAll pre = .ok r' → r'.contains c.kind c.key = true) ∧
      ∃ r', Replica.empty.replicateAll screenEdits = .ok r' ∧
        r'.replicateAll screenEdits = .ok r' := by
  have decodes : ∀ x ∈ screenEdits, (Change.decode x.entityType x.payload).toOption.isSome :=
    by decide +kernel
  have decodable : ∀ x ∈ screenEdits, ∃ c, Change.decode x.entityType x.payload = .ok c :=
    fun x mem => by
      obtain ⟨c, decoded⟩ := Option.isSome_iff_exists.mp (decodes x mem)
      exact ⟨c, OutboxRecord.change?_eq_some.mp decoded⟩
  have codes : ∀ p ∈ Replica.empty.definitions ++
        screenEdits.filterMap (fun x => x.change?.bind Change.definition?),
      ∀ q ∈ Replica.empty.definitions ++
        screenEdits.filterMap (fun x => x.change?.bind Change.definition?),
        p.code = q.code → p.key = q.key := by decide +kernel
  -- every prefix past the first record holds the screen that the one delete withdraws
  have kept : ∀ p ∈ screenEdits.inits, p ≠ [] →
      (match Replica.empty.replicateAll p with
        | .ok r => r.contains .screenDefinition 1
        | .error _ => true) = true := by decide +kernel
  have deletesFind : ∀ pre x post c, screenEdits = pre ++ x :: post → x.operation = .delete →
      Change.decode x.entityType x.payload = .ok c →
      ∀ r', Replica.empty.replicateAll pre = .ok r' → r'.contains c.kind c.key = true := by
    intro pre x post c split isDelete decoded r' replicated
    have mem : x ∈ screenEdits := by rw [split]; simp
    have earlier : pre ∈ screenEdits.inits := (List.mem_inits _ _).mpr ⟨x :: post, split.symm⟩
    simp only [screenEdits, List.mem_cons, List.not_mem_nil, or_false] at mem
    rcases mem with same | same | same | same
    · rw [same] at isDelete; cases isDelete
    · rw [same] at isDelete; cases isDelete
    · rw [same] at isDelete; cases isDelete
    · -- the withdrawal of screen 1 is the fourth record, so something comes before it
      have key : (Change.decode x.entityType x.payload).toOption.map (fun c => (c.kind, c.key)) =
          some (.screenDefinition, 1) := by
        rw [same]
        decide +kernel
      rw [decoded] at key
      obtain ⟨kind, key⟩ := Prod.mk.inj (Option.some.inj key)
      have started : pre ≠ [] := by
        rintro rfl
        have ids := congrArg (List.map OutboxRecord.id) split
        simp [screenEdits, same] at ids
      have holds := kept pre earlier started
      rw [replicated] at holds
      rw [kind, key]
      exact holds
  exact ⟨Replica.empty_wellFormed, decodable, codes, deletesFind,
    replay_is_harmless Replica.empty_wellFormed screenEdits decodable codes deletesFind⟩

end OutboxReplicator
