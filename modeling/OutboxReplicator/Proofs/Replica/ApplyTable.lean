import OutboxReplicator.Proofs.Processor.Steps
/-!
# The apply table

A replicated row is found by its key, so the replica reads as two maps from key to row,
one per kind (`ReplicaView`).  Replicating a record decodes its payload first; a payload
that does not decode is reported and changes nothing.  A decoded entity `e` with key `k`
is then applied as the table `ReplicaView.applyRow` gives:

| operation | `k` present | `k` missing |
|---|---|---|
| insert | unchanged (already present) | row `e` (inserted) |
| update | row `e` with the stored creator and creation time (updated) | row `e` (inserted on update) |
| delete | stored row, inactive, with `e`'s editor and edit time (soft deleted) | unchanged (nothing to delete) |

A definition's code is unique among definitions: an insert or update of a definition
whose code another row holds fails with a unique violation and changes nothing.

`replicate_follows_apply_table` proves that replicating follows the table on every
replica whose keys are unique in each table (`Replica.WellFormed`), which replicating
keeps (`Replica.WellFormed.replicate`).
-/

namespace OutboxReplicator

/-! ## Rows found by key -/

section Keyed

variable {α : Type} (key : α → Int)

/-- Mapping rows by a function that keeps keys maps the row found by each key. -/
theorem find?_map_keeping (f : α → α) (keeps : ∀ x, key (f x) = key x) (rows : List α)
    (k : Int) :
    (rows.map f).find? (fun x => key x == k) = (rows.find? (fun x => key x == k)).map f := by
  rw [List.find?_map]
  congr 2
  funext x
  simp [keeps]

/-- After an insert of a new key, that key finds the inserted row. -/
theorem find?_insertByKey_self (x : α) (rows : List α)
    (absent : rows.find? (fun y => key y == key x) = none) :
    (Replica.insertByKey key x rows).find? (fun y => key y == key x) = some x := by
  induction rows with
  | nil => simp [Replica.insertByKey]
  | cons y rest induction =>
    have other : key y ≠ key x := by
      intro same
      simp [same] at absent
    have absentRest : rest.find? (fun y => key y == key x) = none := by
      simpa [other] using absent
    simp only [Replica.insertByKey]
    split
    next => simp
    next => simp [other, induction absentRest]

/-- An insert leaves the rows found by other keys. -/
theorem find?_insertByKey_of_ne (x : α) (rows : List α) {k : Int} (different : key x ≠ k) :
    (Replica.insertByKey key x rows).find? (fun y => key y == k) =
      rows.find? (fun y => key y == k) := by
  induction rows with
  | nil => simp [Replica.insertByKey, different]
  | cons y rest induction =>
    simp only [Replica.insertByKey]
    split
    next => simp [different]
    next => simp [List.find?_cons, induction]

/-- Mapping rows by a function that keeps keys and fixes the rows of keys other than `k`
leaves the rows found by those keys. -/
theorem find?_map_fixing (f : α → α) (keeps : ∀ x, key (f x) = key x) {k : Int}
    (fixes : ∀ x, key x ≠ k → f x = x) (rows : List α) {k' : Int} (other : k' ≠ k) :
    (rows.map f).find? (fun x => key x == k') = rows.find? (fun x => key x == k') := by
  rw [find?_map_keeping key f keeps]
  cases found : rows.find? (fun x => key x == k') with
  | none => rfl
  | some x =>
    have xKey : key x = k' := by simpa using List.find?_some found
    simp [fixes x (xKey ▸ other)]

/-- Rewriting the rows of key `k` by a function that keeps their key keeps every key: the
shape of the replica's updates and soft deletes. -/
theorem key_rewriteAt (g : α → α) {k : Int} (keeps : ∀ x, key x = k → key (g x) = k) (x : α) :
    key (if key x == k then g x else x) = key x := by
  by_cases same : key x = k
  · simp [same, keeps x same]
  · simp [same]

/-- With unique keys, a row of the list is the row its key finds. -/
theorem find?_of_mem {rows : List α} (unique : (rows.map key).Nodup) {x : α} (mem : x ∈ rows) :
    rows.find? (fun y => key y == key x) = some x := by
  cases found : rows.find? (fun y => key y == key x) with
  | none => simpa using (List.find?_eq_none.mp found) x mem
  | some y =>
    have yMem := List.mem_of_find?_eq_some found
    have yKey : key y = key x := by simpa using List.find?_some found
    rw [List.inj_on_of_nodup_map unique yMem mem yKey]

theorem insertByKey_perm (x : α) (rows : List α) :
    (Replica.insertByKey key x rows).Perm (x :: rows) := by
  induction rows with
  | nil => simp [Replica.insertByKey]
  | cons y rest induction =>
    simp only [Replica.insertByKey]
    split
    next => exact List.Perm.refl _
    next => exact (induction.cons y).trans (List.Perm.swap x y rest)

/-- Inserting a row of a new key keeps keys unique. -/
theorem nodup_insertByKey (x : α) (rows : List α) (unique : (rows.map key).Nodup)
    (absent : rows.find? (fun y => key y == key x) = none) :
    ((Replica.insertByKey key x rows).map key).Nodup := by
  rw [((insertByKey_perm key x rows).map key).nodup_iff, List.map_cons, List.nodup_cons]
  refine ⟨?_, unique⟩
  intro mem
  obtain ⟨z, zMem, zKey⟩ := List.mem_map.mp mem
  simpa [zKey] using (List.find?_eq_none.mp absent) z zMem

end Keyed

/-! ## The replica as maps -/

/-- The replica as two maps from key to row. -/
@[ext] structure ReplicaView where
  /-- The definition stored under each key. -/
  definitions : Int → Option ScreenDefinition
  /-- The pilot stored under each key. -/
  pilots : Int → Option ScreenPilot

namespace ReplicaView

/-- The view with a definition stored under a key. -/
def setDefinition (v : ReplicaView) (k : Int) (d : ScreenDefinition) : ReplicaView :=
  { v with definitions := Function.update v.definitions k (some d) }

/-- The view with a pilot stored under a key. -/
def setPilot (v : ReplicaView) (k : Int) (p : ScreenPilot) : ReplicaView :=
  { v with pilots := Function.update v.pilots k (some p) }

/-- Whether a definition stored under another key than `k` has the code. -/
def codeHeld (v : ReplicaView) (code : String) (k : Int) : Prop :=
  ∃ k' d, k' ≠ k ∧ v.definitions k' = some d ∧ d.code = code

/-- The table for a screen definition `e`: the result of applying `op` with it to the
view `v`, and the view `v'` after. -/
def definitionRow (v : ReplicaView) (op : Operation) (e : ScreenDefinition)
    (result : Except Failure Outcome) (v' : ReplicaView) : Prop :=
  let refused (context : String) :=
    v.codeHeld e.code e.key ∧ result = .error (Failure.database context .uniqueViolation) ∧
      v' = v
  let written (outcome : Outcome) (d : ScreenDefinition) :=
    ¬ v.codeHeld e.code e.key ∧ result = .ok outcome ∧ v' = v.setDefinition e.key d
  match op, v.definitions e.key with
  | .insert, some _ => result = .ok .alreadyPresent ∧ v' = v
  | .insert, none => refused "insert screen definition replica" ∨ written .inserted e
  | .update, some d => refused "update screen definition replica" ∨
      written .updated { e with createdBy := d.createdBy, createdAt := d.createdAt }
  | .update, none => refused "insert screen definition replica" ∨ written .insertedOnUpdate e
  | .delete, some d => result = .ok .softDeleted ∧
      v' = v.setDefinition e.key
        { d with status := .inactive, updatedBy := e.updatedBy, updatedAt := e.updatedAt }
  | .delete, none => result = .ok .nothingToDelete ∧ v' = v

/-- The table for a screen pilot `e`. -/
def pilotRow (v : ReplicaView) (op : Operation) (e : ScreenPilot)
    (result : Except Failure Outcome) (v' : ReplicaView) : Prop :=
  match op, v.pilots e.key with
  | .insert, some _ => result = .ok .alreadyPresent ∧ v' = v
  | .insert, none => result = .ok .inserted ∧ v' = v.setPilot e.key e
  | .update, some p => result = .ok .updated ∧
      v' = v.setPilot e.key { e with createdBy := p.createdBy, createdAt := p.createdAt }
  | .update, none => result = .ok .insertedOnUpdate ∧ v' = v.setPilot e.key e
  | .delete, some p => result = .ok .softDeleted ∧
      v' = v.setPilot e.key
        { p with status := .inactive, updatedBy := e.updatedBy, updatedAt := e.updatedAt }
  | .delete, none => result = .ok .nothingToDelete ∧ v' = v

/-- The table for a change. -/
def applyRow (v : ReplicaView) (op : Operation) :
    Change → Except Failure Outcome → ReplicaView → Prop
  | .definition e => v.definitionRow op e
  | .pilot e => v.pilotRow op e

end ReplicaView

namespace Replica

/-- The replica as maps: each key finds its row. -/
def view (r : Replica) : ReplicaView :=
  ⟨fun k => r.definitions.find? (·.key == k), fun k => r.pilots.find? (·.key == k)⟩

/-- Keys are unique in each table, as the tables' primary keys make them. -/
structure WellFormed (r : Replica) : Prop where
  definitions_unique : (r.definitions.map ScreenDefinition.key).Nodup
  pilots_unique : (r.pilots.map ScreenPilot.key).Nodup

variable {r : Replica}

theorem contains_definition (k : Int) :
    r.contains .screenDefinition k = (r.view.definitions k).isSome := by
  simp only [contains, view, List.isSome_find?]

theorem contains_pilot (k : Int) : r.contains .screenPilot k = (r.view.pilots k).isSome := by
  simp only [contains, view, List.isSome_find?]

/-- The code check of the table is the view's: another stored definition has the code. -/
theorem codeTaken_iff (wf : r.WellFormed) (code : String) (k : Int) :
    r.codeTaken code k = true ↔ r.view.codeHeld code k := by
  simp only [codeTaken, List.any_eq_true, Bool.and_eq_true, beq_iff_eq, bne_iff_ne, ne_eq]
  constructor
  · rintro ⟨d, mem, code, other⟩
    exact ⟨d.key, d, other, find?_of_mem ScreenDefinition.key wf.definitions_unique mem, code⟩
  · rintro ⟨k', d, other, found, code⟩
    have dKey : d.key = k' := by simpa using List.find?_some found
    exact ⟨d, List.mem_of_find?_eq_some found, code, dKey ▸ other⟩

/-! ## What each write does to the view -/

theorem view_insertDefinition {e : ScreenDefinition} (absent : r.view.definitions e.key = none) :
    ({ r with definitions := insertByKey ScreenDefinition.key e r.definitions } : Replica).view =
      r.view.setDefinition e.key e := by
  refine ReplicaView.ext (funext fun k => ?_) rfl
  by_cases same : k = e.key
  · subst same
    simpa [view, ReplicaView.setDefinition] using
      find?_insertByKey_self ScreenDefinition.key e r.definitions absent
  · simpa [view, ReplicaView.setDefinition, same] using
      find?_insertByKey_of_ne ScreenDefinition.key e r.definitions (Ne.symm same)

theorem view_insertPilot {e : ScreenPilot} (absent : r.view.pilots e.key = none) :
    ({ r with pilots := insertByKey ScreenPilot.key e r.pilots } : Replica).view =
      r.view.setPilot e.key e := by
  refine ReplicaView.ext rfl (funext fun k => ?_)
  by_cases same : k = e.key
  · subst same
    simpa [view, ReplicaView.setPilot] using
      find?_insertByKey_self ScreenPilot.key e r.pilots absent
  · simpa [view, ReplicaView.setPilot, same] using
      find?_insertByKey_of_ne ScreenPilot.key e r.pilots (Ne.symm same)

/-- Rewriting the definitions by a function that keeps keys and changes only the row of
key `k` stores that row's image under `k`. -/
theorem view_mapDefinitions (f : ScreenDefinition → ScreenDefinition)
    (keeps : ∀ d, (f d).key = d.key) {k : Int} (fixes : ∀ d, d.key ≠ k → f d = d)
    {d : ScreenDefinition} (found : r.view.definitions k = some d) :
    ({ r with definitions := r.definitions.map f } : Replica).view =
      r.view.setDefinition k (f d) := by
  refine ReplicaView.ext (funext fun k' => ?_) rfl
  by_cases same : k' = k
  · subst same
    simp only [view] at found
    simp [view, ReplicaView.setDefinition, find?_map_keeping ScreenDefinition.key f keeps, found]
  · simpa [view, ReplicaView.setDefinition, same] using
      find?_map_fixing ScreenDefinition.key f keeps fixes r.definitions same

theorem view_mapPilots (f : ScreenPilot → ScreenPilot) (keeps : ∀ p, (f p).key = p.key)
    {k : Int} (fixes : ∀ p, p.key ≠ k → f p = p) {p : ScreenPilot}
    (found : r.view.pilots k = some p) :
    ({ r with pilots := r.pilots.map f } : Replica).view = r.view.setPilot k (f p) := by
  refine ReplicaView.ext rfl (funext fun k' => ?_)
  by_cases same : k' = k
  · subst same
    simp only [view] at found
    simp [view, ReplicaView.setPilot, find?_map_keeping ScreenPilot.key f keeps, found]
  · simpa [view, ReplicaView.setPilot, same] using
      find?_map_fixing ScreenPilot.key f keeps fixes r.pilots same

/-! ## The table -/

/-- The result of a write that may fail, with the view after it: a failure leaves the
replica as it was. -/
def viewAfter (r : Replica) : Except Failure (Outcome × Replica) → Except Failure Outcome × ReplicaView
  | .ok (outcome, r') => (.ok outcome, r'.view)
  | .error f => (.error f, r.view)

theorem apply_definition_follows (wf : r.WellFormed) (op : Operation) (e : ScreenDefinition) :
    r.view.definitionRow op e (r.viewAfter (r.apply op (.definition e))).1
      (r.viewAfter (r.apply op (.definition e))).2 := by
  have taken := r.codeTaken_iff wf e.code e.key
  cases found : r.view.definitions e.key with
  | none =>
    have absent : r.contains .screenDefinition e.key = false := by
      simp [contains_definition, found]
    cases op with
    | insert =>
      simp only [apply, Change.kind, Change.key, absent, insert, insertDefinition]
      by_cases held : r.codeTaken e.code e.key = true
      · simp only [held, Bool.false_eq_true, if_true, if_false, Except.map, viewAfter,
          ReplicaView.definitionRow, found]
        exact .inl ⟨taken.mp held, trivial, trivial⟩
      · simp only [held, Bool.false_eq_true, if_false, Except.map, viewAfter,
          ReplicaView.definitionRow, found]
        exact .inr ⟨mt taken.mpr held, trivial, view_insertDefinition found⟩
    | update =>
      simp only [apply, Change.kind, Change.key, absent, insert, insertDefinition]
      by_cases held : r.codeTaken e.code e.key = true
      · simp only [held, Bool.false_eq_true, if_true, if_false, Except.map, viewAfter,
          ReplicaView.definitionRow, found]
        exact .inl ⟨taken.mp held, trivial, trivial⟩
      · simp only [held, Bool.false_eq_true, if_false, Except.map, viewAfter,
          ReplicaView.definitionRow, found]
        exact .inr ⟨mt taken.mpr held, trivial, view_insertDefinition found⟩
    | delete =>
      simp only [apply, Change.kind, Change.key, absent, viewAfter, ReplicaView.definitionRow,
        found]
      exact ⟨trivial, trivial⟩
  | some d =>
    have present : r.contains .screenDefinition e.key = true := by
      simp [contains_definition, found]
    have dKey : d.key = e.key := by simpa [view] using List.find?_some found
    cases op with
    | insert =>
      simp only [apply, Change.kind, Change.key, present, viewAfter, ReplicaView.definitionRow,
        found]
      exact ⟨trivial, trivial⟩
    | update =>
      simp only [apply, Change.kind, Change.key, present, update, updateDefinition]
      by_cases held : r.codeTaken e.code e.key = true
      · simp only [held, Bool.not_true, Bool.false_eq_true, if_true, if_false, Except.map,
          viewAfter, ReplicaView.definitionRow, found]
        exact .inl ⟨taken.mp held, trivial, trivial⟩
      · simp only [held, Bool.not_true, Bool.false_eq_true, if_false, Except.map, viewAfter,
          ReplicaView.definitionRow, found]
        refine .inr ⟨mt taken.mpr held, trivial, ?_⟩
        rw [view_mapDefinitions _ ?keeps ?fixes found]
        case keeps => exact key_rewriteAt ScreenDefinition.key _ fun _ _ => rfl
        case fixes => intro d' other; simp [other]
        simp [dKey, ScreenDefinition.overwrite]
    | delete =>
      simp only [apply, Change.kind, Change.key, Change.audit, present, softDelete, viewAfter,
        ReplicaView.definitionRow, found]
      refine ⟨trivial, ?_⟩
      rw [view_mapDefinitions _ ?keeps ?fixes found]
      case keeps => exact key_rewriteAt ScreenDefinition.key _ fun _ same => same
      case fixes => intro d' other; simp [other]
      simp [dKey, ScreenDefinition.audit]

theorem apply_pilot_follows (op : Operation) (e : ScreenPilot) :
    r.view.pilotRow op e (r.viewAfter (r.apply op (.pilot e))).1
      (r.viewAfter (r.apply op (.pilot e))).2 := by
  cases found : r.view.pilots e.key with
  | none =>
    have absent : r.contains .screenPilot e.key = false := by
      simp [contains_pilot, found]
    cases op with
    | insert =>
      simp only [apply, Change.kind, Change.key, absent, insert, insertPilot, Bool.false_eq_true,
        if_false, Except.map, viewAfter, ReplicaView.pilotRow, found]
      exact ⟨trivial, view_insertPilot found⟩
    | update =>
      simp only [apply, Change.kind, Change.key, absent, insert, insertPilot, Bool.false_eq_true,
        if_false, Except.map, viewAfter, ReplicaView.pilotRow, found]
      exact ⟨trivial, view_insertPilot found⟩
    | delete =>
      simp only [apply, Change.kind, Change.key, absent, viewAfter, ReplicaView.pilotRow, found]
      exact ⟨trivial, trivial⟩
  | some p =>
    have present : r.contains .screenPilot e.key = true := by
      simp [contains_pilot, found]
    have pKey : p.key = e.key := by simpa [view] using List.find?_some found
    cases op with
    | insert =>
      simp only [apply, Change.kind, Change.key, present, viewAfter, ReplicaView.pilotRow, found]
      exact ⟨trivial, trivial⟩
    | update =>
      simp only [apply, Change.kind, Change.key, present, update, updatePilot, Bool.not_true,
        Bool.false_eq_true, if_false, Except.map, viewAfter, ReplicaView.pilotRow, found]
      refine ⟨trivial, ?_⟩
      rw [view_mapPilots _ ?keeps ?fixes found]
      case keeps => exact key_rewriteAt ScreenPilot.key _ fun _ _ => rfl
      case fixes => intro p' other; simp [other]
      simp [pKey, ScreenPilot.overwrite]
    | delete =>
      simp only [apply, Change.kind, Change.key, Change.audit, present, softDelete, viewAfter,
        ReplicaView.pilotRow, found]
      refine ⟨trivial, ?_⟩
      rw [view_mapPilots _ ?keeps ?fixes found]
      case keeps => exact key_rewriteAt ScreenPilot.key _ fun _ same => same
      case fixes => intro p' other; simp [other]
      simp [pKey, ScreenPilot.audit]

theorem apply_follows (wf : r.WellFormed) (op : Operation) (c : Change) :
    r.view.applyRow op c (r.viewAfter (r.apply op c)).1 (r.viewAfter (r.apply op c)).2 := by
  cases c with
  | definition e => exact apply_definition_follows wf op e
  | pilot e => exact apply_pilot_follows op e

/-! ## Keys stay unique -/

theorem WellFormed.mapDefinitions (wf : r.WellFormed) (f : ScreenDefinition → ScreenDefinition)
    (keeps : ∀ d, (f d).key = d.key) :
    ({ r with definitions := r.definitions.map f } : Replica).WellFormed :=
  ⟨by simpa [Function.comp_def, keeps] using wf.definitions_unique, wf.pilots_unique⟩

theorem WellFormed.mapPilots (wf : r.WellFormed) (f : ScreenPilot → ScreenPilot)
    (keeps : ∀ p, (f p).key = p.key) : ({ r with pilots := r.pilots.map f } : Replica).WellFormed :=
  ⟨wf.definitions_unique, by simpa [Function.comp_def, keeps] using wf.pilots_unique⟩

theorem WellFormed.insert (wf : r.WellFormed) {c : Change} {r' : Replica}
    (written : r.insert c = .ok r') : r'.WellFormed := by
  cases c with
  | definition e =>
    simp only [Replica.insert, insertDefinition] at written
    split at written
    next => cases written; exact wf
    next absent =>
      split at written
      next => cases written
      next =>
        cases written
        refine ⟨nodup_insertByKey _ e _ wf.definitions_unique ?_, wf.pilots_unique⟩
        simpa [contains_definition, view] using absent
  | pilot e =>
    simp only [Replica.insert, insertPilot] at written
    split at written
    next => cases written; exact wf
    next absent =>
      cases written
      refine ⟨wf.definitions_unique, nodup_insertByKey _ e _ wf.pilots_unique ?_⟩
      simpa [contains_pilot, view] using absent

theorem WellFormed.update (wf : r.WellFormed) {c : Change} {r' : Replica}
    (written : r.update c = .ok r') : r'.WellFormed := by
  cases c with
  | definition e =>
    simp only [Replica.update, updateDefinition] at written
    split at written
    next => cases written
    next =>
      split at written
      next => cases written
      next =>
        cases written
        exact wf.mapDefinitions _ (key_rewriteAt ScreenDefinition.key _ fun _ _ => rfl)
  | pilot e =>
    simp only [Replica.update, updatePilot] at written
    split at written
    next => cases written
    next =>
      cases written
      exact wf.mapPilots _ (key_rewriteAt ScreenPilot.key _ fun _ _ => rfl)

theorem WellFormed.softDelete (wf : r.WellFormed) (kind : EntityKind) (k : Int) (a : AuditStamp) :
    (r.softDelete kind k a).WellFormed := by
  cases kind with
  | screenDefinition =>
    exact wf.mapDefinitions _ (key_rewriteAt ScreenDefinition.key _ fun _ same => same)
  | screenPilot => exact wf.mapPilots _ (key_rewriteAt ScreenPilot.key _ fun _ same => same)

/-- Applying a change keeps keys unique. -/
theorem WellFormed.apply (wf : r.WellFormed) (op : Operation) (c : Change) {o : Outcome}
    {r' : Replica} (applied : r.apply op c = .ok (o, r')) : r'.WellFormed := by
  -- every successful branch is the replica itself or one insert, update or soft delete
  have mapped : ∀ {w : Except Failure Replica} {outcome : Outcome},
      (∀ {r''}, w = .ok r'' → r''.WellFormed) →
      w.map (fun r'' => (outcome, r'')) = .ok (o, r') → r'.WellFormed := by
    intro w outcome keeps written
    cases w with
    | error => cases written
    | ok r'' =>
      simp only [Except.map, Except.ok.injEq, Prod.mk.injEq] at written
      obtain ⟨-, rfl⟩ := written
      exact keeps rfl
  cases op <;> cases present : r.contains c.kind c.key <;>
    simp only [Replica.apply, present] at applied
  · exact mapped wf.insert applied
  · cases applied; exact wf
  · exact mapped wf.insert applied
  · exact mapped wf.update applied
  · cases applied; exact wf
  · cases applied; exact wf.softDelete _ _ _

theorem WellFormed.replicate (wf : r.WellFormed) (entityType : String) (op : Operation)
    (payload : Json) {o : Outcome} {r' : Replica}
    (replicated : r.replicate entityType op payload = .ok (o, r')) : r'.WellFormed := by
  simp only [Replica.replicate, bind, Except.bind] at replicated
  split at replicated
  next => cases replicated
  next c _ => exact wf.apply op c replicated

theorem empty_wellFormed : Replica.empty.WellFormed :=
  ⟨List.nodup_nil, List.nodup_nil⟩

end Replica

/-! ## Replicating a record -/

/-- Replicating a record into a replica with unique keys follows the apply table: a
payload that does not decode is reported and changes nothing, a decoded change is applied
as `ReplicaView.applyRow` says, and the outbox and the clock are left alone. -/
theorem replicate_follows_apply_table {s : Stores} (wf : s.replica.WellFormed)
    (entityType : String) (op : Operation) (payload : Json) :
    let s' := (s.replicate entityType op payload).2
    let result := (s.replicate entityType op payload).1
    s'.outbox = s.outbox ∧ s'.clock = s.clock ∧
      match Change.decode entityType payload with
      | .error f => result = .error f ∧ s'.replica = s.replica
      | .ok c => s.replica.view.applyRow op c result s'.replica.view := by
  intro s' result
  have kept : s'.outbox = s.outbox ∧ s'.clock = s.clock := by
    simp only [s', Stores.replicate]
    split <;> exact ⟨rfl, rfl⟩
  refine ⟨kept.1, kept.2, ?_⟩
  simp only [s', result, Stores.replicate, Replica.replicate, bind, Except.bind]
  cases decoded : Change.decode entityType payload with
  | error f => simp
  | ok c =>
    -- the table holds of the replica's own result; the stores pass it on
    have follows := s.replica.apply_follows wf op c
    cases applied : s.replica.apply op c with
    | error f => simpa [Replica.viewAfter, applied] using follows
    | ok step => simpa [Replica.viewAfter, applied] using follows

/-- A replica holding the screen `home`, and three records: a rename of `home` by another
editor, a new pilot enrolment, and a withdrawal of `home`.  Each decodes, and each
replication is the row of the table for its operation and key: an update of a stored
screen, an insert of a missing pilot, and a soft delete of a stored screen, reported as
such. -/
theorem replicate_follows_apply_table_on_a_screen :
    let home : ScreenDefinition :=
      ⟨⟨1⟩, "home", "Home", "/", none, 0, .active, "admin", ⟨1714557600, 0⟩, none, none⟩
    let s : Stores := ⟨Outbox.empty, ⟨[home], []⟩, .ticking ⟨1714557600, 0⟩⟩
    let screen (name editor : String) : Json :=
      Json.object [("id", Json.int 1), ("code", .string "home"), ("name", .string name),
        ("route", .string "/"), ("status", Json.int 1), ("created_by", .string editor),
        ("created_at", .string "2024-05-02T10:00:00Z")]
    let enrolment : Json :=
      .array [.number (.unsigned 7), .number (.unsigned 1),
        .string "550e8400-e29b-41d4-a716-446655440000", .number (.unsigned 1),
        .string "editor", .string "2024-05-02T10:00:00Z"]
    let records : List (String × Operation × Json) :=
      [("ScreenDefinition", .update, screen "Start" "editor"), ("ScreenPilot", .insert, enrolment),
       ("ScreenDefinition", .delete, screen "Home" "editor")]
    s.replica.WellFormed ∧ (∀ x ∈ records, (Change.decode x.1 x.2.2).toOption.isSome) ∧
      records.map (fun x => (s.replicate x.1 x.2.1 x.2.2).1.toOption) =
        [some .updated, some .inserted, some .softDeleted] ∧
      ∀ x ∈ records,
        (s.replicate x.1 x.2.1 x.2.2).2.outbox = s.outbox ∧ (s.replicate x.1 x.2.1 x.2.2).2.clock = s.clock ∧
        match Change.decode x.1 x.2.2 with
        | .error f => (s.replicate x.1 x.2.1 x.2.2).1 = .error f ∧
            (s.replicate x.1 x.2.1 x.2.2).2.replica = s.replica
        | .ok c => s.replica.view.applyRow x.2.1 c (s.replicate x.1 x.2.1 x.2.2).1
            (s.replicate x.1 x.2.1 x.2.2).2.replica.view := by
  intro home s screen enrolment records
  have wf : s.replica.WellFormed := ⟨List.nodup_singleton _, List.nodup_nil⟩
  exact ⟨wf, by decide +kernel, by decide +kernel,
    fun x _ => replicate_follows_apply_table wf x.1 x.2.1 x.2.2⟩

end OutboxReplicator
