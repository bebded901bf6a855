import Mathlib.Data.List.Nodup
import OutboxReplicator.Proofs.Processor.OrderedCycle
import OutboxReplicator.Proofs.Replica.ApplyTable
/-!
# Order per key under retries

A record that fails goes back to pending only in a later cycle, after the records that
followed it in its batch were applied.  For a key none of whose records ever fails the
order still holds: `key_fifo_without_failures` runs any number of cycles, under any
options, from stores whose outbox is a backlog and whose replica has unique keys, with
failures of other keys allowed, and finds the key's completed records to be its first
ones, the others still pending, and the replica's row for the key to be the apply table
folded over the completed ones in order, from the replica's first row.

A key whose older record fails loses that order: `requeued_update_overwrites_newer`
writes an update of a definition that fails on a code held by another definition, a
newer update of the same definition that succeeds, and an update that frees the code;
the next cycle retries the older update, and it overwrites the newer one.

The fold is of `ReplicaView.applied`, the apply table of `ReplicaView.applyRow` on its
successful writes (`ReplicaView.applyRow_ok`): the row a key holds after it depends only
on the row before and the change (`ReplicaView.rowAt_applied`), and a change under
another key leaves the row alone (`ReplicaView.rowAt_applied_of_ne`).
-/

namespace OutboxReplicator

/-! ## Successful writes as a fold -/

/-- The kind and key of the row a change writes. -/
def Change.target (c : Change) : EntityKind × Int := (c.kind, c.key)

namespace ReplicaView

/-- The view after a change is applied with success: the writes of the apply table. -/
def applied (v : ReplicaView) (op : Operation) : Change → ReplicaView
  | .definition e =>
    match op, v.definitions e.key with
    | .insert, some _ | .delete, none => v
    | .insert, none | .update, none => v.setDefinition e.key e
    | .update, some d =>
      v.setDefinition e.key { e with createdBy := d.createdBy, createdAt := d.createdAt }
    | .delete, some d =>
      v.setDefinition e.key
        { d with status := .inactive, updatedBy := e.updatedBy, updatedAt := e.updatedAt }
  | .pilot e =>
    match op, v.pilots e.key with
    | .insert, some _ | .delete, none => v
    | .insert, none | .update, none => v.setPilot e.key e
    | .update, some p =>
      v.setPilot e.key { e with createdBy := p.createdBy, createdAt := p.createdAt }
    | .delete, some p =>
      v.setPilot e.key
        { p with status := .inactive, updatedBy := e.updatedBy, updatedAt := e.updatedAt }

/-- Changes applied with success one after another. -/
def appliedAll (v : ReplicaView) (changes : List (Operation × Change)) : ReplicaView :=
  changes.foldl (fun v change => v.applied change.1 change.2) v

/-- The row a view holds under a key of a kind. -/
def rowAt (v : ReplicaView) : EntityKind × Int → Option (ScreenDefinition ⊕ ScreenPilot)
  | (.screenDefinition, k) => (v.definitions k).map .inl
  | (.screenPilot, k) => (v.pilots k).map .inr

variable {v v' w : ReplicaView} {op : Operation} {c : Change}

/-- A write of the table that succeeds is the write of `applied`: the refusals of the
table fail. -/
theorem applyRow_ok {o : Outcome} (row : v.applyRow op c (.ok o) v') : v' = v.applied op c := by
  cases c with
  | definition e =>
    cases op <;> cases found : v.definitions e.key <;>
      simp_all [applyRow, definitionRow, applied]
  | pilot e =>
    cases op <;> cases found : v.pilots e.key <;>
      simp_all [applyRow, pilotRow, applied]

theorem appliedAll_append (changes more : List (Operation × Change)) :
    v.appliedAll (changes ++ more) = (v.appliedAll changes).appliedAll more := by
  simp [appliedAll, List.foldl_append]

/-! ## The row under one key -/

variable {K : EntityKind × Int}

theorem rowAt_setDefinition_self (k : Int) (d : ScreenDefinition) :
    (v.setDefinition k d).rowAt (.screenDefinition, k) = some (.inl d) := by
  simp [setDefinition, rowAt]

theorem rowAt_setPilot_self (k : Int) (p : ScreenPilot) :
    (v.setPilot k p).rowAt (.screenPilot, k) = some (.inr p) := by
  simp [setPilot, rowAt]

theorem rowAt_setDefinition_of_ne {k : Int} (d : ScreenDefinition)
    (other : (EntityKind.screenDefinition, k) ≠ K) : (v.setDefinition k d).rowAt K = v.rowAt K := by
  obtain ⟨kind, k'⟩ := K
  cases kind with
  | screenDefinition =>
    have different : k' ≠ k := fun same => other (by rw [same])
    simp [setDefinition, rowAt, Function.update_of_ne different]
  | screenPilot => rfl

theorem rowAt_setPilot_of_ne {k : Int} (p : ScreenPilot)
    (other : (EntityKind.screenPilot, k) ≠ K) : (v.setPilot k p).rowAt K = v.rowAt K := by
  obtain ⟨kind, k'⟩ := K
  cases kind with
  | screenDefinition => rfl
  | screenPilot =>
    have different : k' ≠ k := fun same => other (by rw [same])
    simp [setPilot, rowAt, Function.update_of_ne different]

/-- A change leaves the rows under other keys alone. -/
theorem rowAt_applied_of_ne (other : c.target ≠ K) : (v.applied op c).rowAt K = v.rowAt K := by
  cases c with
  | definition e =>
    cases op <;> cases found : v.definitions e.key <;> simp only [applied, found] <;>
      first | rfl | exact rowAt_setDefinition_of_ne _ other
  | pilot e =>
    cases op <;> cases found : v.pilots e.key <;> simp only [applied, found] <;>
      first | rfl | exact rowAt_setPilot_of_ne _ other

/-- The row under a change's key after it depends only on the row before. -/
theorem rowAt_applied (same : v.rowAt c.target = w.rowAt c.target) :
    (v.applied op c).rowAt c.target = (w.applied op c).rowAt c.target := by
  cases c with
  | definition e =>
    have found : v.definitions e.key = w.definitions e.key :=
      Option.map_injective (fun _ _ => Sum.inl.inj) same
    cases op <;> simp only [applied, found] <;> split <;>
      first | exact same | simp only [Change.target, Change.kind, Change.key, rowAt_setDefinition_self]
  | pilot e =>
    have found : v.pilots e.key = w.pilots e.key :=
      Option.map_injective (fun _ _ => Sum.inr.inj) same
    cases op <;> simp only [applied, found] <;> split <;>
      first | exact same | simp only [Change.target, Change.kind, Change.key, rowAt_setPilot_self]

/-- Under one key, applying changes one after another is applying that key's changes
alone. -/
theorem rowAt_appliedAll_filter (K : EntityKind × Int) (changes : List (Operation × Change))
    (same : v.rowAt K = w.rowAt K) :
    (v.appliedAll changes).rowAt K =
      (w.appliedAll (changes.filter fun change => change.2.target = K)).rowAt K := by
  induction changes generalizing v w with
  | nil => exact same
  | cons change rest induction =>
    obtain ⟨op, c⟩ := change
    by_cases here : c.target = K
    · -- both sides apply the change
      subst here
      simp only [appliedAll, List.foldl_cons, List.filter_cons, decide_true, if_true]
      exact induction (rowAt_applied same)
    · -- only the left applies it, and it does not touch the row
      simp only [appliedAll, List.foldl_cons, List.filter_cons, here, decide_false,
        Bool.false_eq_true, if_false]
      exact induction (by rw [rowAt_applied_of_ne here, same])

/-- Views with one row under a key hold one row there after the same changes. -/
theorem rowAt_appliedAll_congr (changes : List (Operation × Change)) (same : v.rowAt K = w.rowAt K) :
    (v.appliedAll changes).rowAt K = (w.appliedAll changes).rowAt K :=
  (rowAt_appliedAll_filter K changes same).trans (rowAt_appliedAll_filter K changes rfl).symm

end ReplicaView

namespace RowOrigin

/-- The operation and the change a row's record carries, when its operation tag is known
and its payload decodes. -/
def change? (o : RowOrigin) : Option (Operation × Change) :=
  match Operation.ofTag? o.operation, Change.decode o.entityType o.payload with
  | some op, .ok c => some (op, c)
  | _, _ => none

/-- The kind and key of the replica row a record writes, when it reads. -/
def target? (o : RowOrigin) : Option (EntityKind × Int) :=
  o.change?.map fun change => change.2.target

end RowOrigin

/-! ## Replicating a record as the fold's step -/

/-- A replication that succeeds writes what `applied` writes, and keeps keys unique. -/
theorem Replica.replicate_ok_view {r r' : Replica} (wf : r.WellFormed) {entityType : String}
    {op : Operation} {payload : Json} {o : Outcome}
    (replicated : r.replicate entityType op payload = .ok (o, r')) :
    ∃ c, Change.decode entityType payload = .ok c ∧ r'.view = r.view.applied op c := by
  simp only [Replica.replicate, bind, Except.bind] at replicated
  split at replicated
  · cases replicated
  · next c decoded =>
    have follows := r.apply_follows wf op c
    simp only [replicated, Replica.viewAfter] at follows
    exact ⟨c, decoded, ReplicaView.applyRow_ok follows⟩

/-- The record of a row carries the row's change. -/
theorem OutboxRow.change?_of_toRecord {y : OutboxRow} {x : OutboxRecord} {c : Change}
    (read : y.toRecord = .ok x) (decoded : Change.decode x.entityType x.payload = .ok c) :
    y.origin.change? = some (x.operation, c) := by
  unfold OutboxRow.toRecord at read
  split at read
  · cases read
  · next op known =>
    split at read
    · cases read
    · cases read
      simp [RowOrigin.change?, OutboxRow.origin, known, decoded]

/-! ## Processing a batch anywhere in the table -/

/-- `y'` is `y` after its record was processed: the same record, completed with the
retry count it had, or failed with one more. -/
def OutboxRow.SettledFrom (y y' : OutboxRow) : Prop :=
  y'.origin = y.origin ∧
    (y'.status = OutboxStatus.completed.tag ∧ y'.retryCount = y.retryCount ∨
      y'.status = OutboxStatus.failed.tag ∧ y'.retryCount = y.retryCount + 1)

/-- Replacing the row with an id in a table of distinct ids. -/
theorem Outbox.map_replace_split {rows pre post : List OutboxRow} {y y' : OutboxRow}
    (split : rows = pre ++ y :: post) (others : ∀ z ∈ pre ++ post, z.id ≠ y.id) :
    rows.map (fun z => if z.id = y.id then y' else z) = pre ++ y' :: post := by
  have keep : ∀ zs : List OutboxRow, (∀ z ∈ zs, z.id ≠ y.id) →
      zs.map (fun z => if z.id = y.id then y' else z) = zs := by
    intro zs different
    exact (List.map_congr_left fun z mem => if_neg (different z mem)).trans (List.map_id' zs)
  rw [split, List.map_append, List.map_cons, if_pos rfl,
    keep pre fun z mem => others z (List.mem_append_left _ mem),
    keep post fun z mem => others z (List.mem_append_right _ mem)]

namespace Processor

variable {s : Stores} {x : OutboxRecord} {y : OutboxRow}

/-- Processing the record of a pending row settles that row and leaves the others; the
replica takes the row's change when it completes, and stays when it fails. -/
theorem processRecord_settles (found : y ∈ s.outbox.rows)
    (distinct : (s.outbox.rows.map OutboxRow.id).Nodup) (pending : y.status = OutboxStatus.pending.tag)
    (read : y.toRecord = .ok x) (wf : s.replica.WellFormed) :
    ∃ y', y.SettledFrom y' ∧
      (processRecord s x).2.outbox.rows = s.outbox.rows.map (fun z => if z.id = y.id then y' else z) ∧
      (processRecord s x).2.replica.view = s.replica.view.appliedAll
        (if y'.status = OutboxStatus.completed.tag then y.origin.change?.toList else []) ∧
      (processRecord s x).2.replica.WellFormed := by
  obtain ⟨pre, post, split⟩ := List.append_of_mem found
  have others := others_of_nodup (split ▸ distinct)
  have processed := processRecord_pending split others pending (OutboxRow.toRecord_ok read).1
  simp only at processed
  split at processed
  · next o replica' replicated =>
    obtain ⟨-, rows', replica⟩ := processed
    obtain ⟨y', rows', settled⟩ : ∃ y', (processRecord s x).2.outbox.rows = pre ++ y' :: post ∧
        y.SettledFrom y' ∧ y'.status = OutboxStatus.completed.tag :=
      ⟨_, rows', ⟨rfl, .inl ⟨rfl, rfl⟩⟩, rfl⟩
    obtain ⟨c, decoded, viewed⟩ := Replica.replicate_ok_view wf replicated
    refine ⟨y', settled.1, by rw [rows', Outbox.map_replace_split split others], ?_,
      replica ▸ wf.replicate _ _ _ replicated⟩
    simp [replica, viewed, settled.2, OutboxRow.change?_of_toRecord read decoded,
      ReplicaView.appliedAll]
  · next f failed =>
    obtain ⟨-, rows', replica⟩ := processed
    obtain ⟨y', rows', settled⟩ : ∃ y', (processRecord s x).2.outbox.rows = pre ++ y' :: post ∧
        y.SettledFrom y' ∧ y'.status = OutboxStatus.failed.tag :=
      ⟨_, rows', ⟨rfl, .inr ⟨rfl, rfl⟩⟩, rfl⟩
    refine ⟨y', settled.1, by rw [rows', Outbox.map_replace_split split others], ?_, replica ▸ wf⟩
    simp [replica, settled.2, ReplicaView.appliedAll]

/-- What processing leaves in the stores does not depend on the report it counts into. -/
theorem processAll_snd (report report' : CycleReport) (records : List OutboxRecord) :
    (processAll s report records).2 = (processAll s report' records).2 := by
  induction records generalizing s report report' with
  | nil => rfl
  | cons r rest induction =>
    simp only [processAll]
    exact induction _ _

/-- Processing the records of pending rows, wherever the rows stand in the table, settles
each of them and leaves the other rows; the replica takes the changes of the rows that
completed, in processing order, and keeps its keys unique. -/
theorem processAll_settles {report : CycleReport} {batch : List OutboxRow}
    {records : List OutboxRecord} (inTable : ∀ y ∈ batch, y ∈ s.outbox.rows)
    (batchDistinct : (batch.map OutboxRow.id).Nodup)
    (distinct : (s.outbox.rows.map OutboxRow.id).Nodup)
    (pending : ∀ y ∈ batch, y.status = OutboxStatus.pending.tag)
    (read : List.Forall₂ (fun y x => y.toRecord = .ok x) batch records) (wf : s.replica.WellFormed) :
    ∃ settle : OutboxRow → OutboxRow,
      (processAll s report records).2.outbox.rows = s.outbox.rows.map settle ∧
      (∀ z ∈ s.outbox.rows, z ∉ batch → settle z = z) ∧
      (∀ y ∈ batch, y.SettledFrom (settle y)) ∧
      (processAll s report records).2.replica.view = s.replica.view.appliedAll
        ((batch.filter fun y => (settle y).status = OutboxStatus.completed.tag).filterMap
          fun y => y.origin.change?) ∧
      (processAll s report records).2.replica.WellFormed := by
  induction read generalizing s report with
  | nil =>
    exact ⟨id, by simp [processAll], fun _ _ _ => rfl, by simp,
      by simp [processAll, ReplicaView.appliedAll], wf⟩
  | @cons y x batch records first _ induction =>
    -- the first record settles its row; the rest of the batch then runs on what it left
    obtain ⟨y', settled, rows₁, view₁, wf₁⟩ :=
      processRecord_settles (inTable y (by simp)) distinct (pending y (by simp)) first wf
    have sameId : y'.id = y.id := congrArg RowOrigin.id settled.1
    rw [List.map_cons, List.nodup_cons] at batchDistinct
    have others : ∀ z ∈ batch, z.id ≠ y.id := fun z mem same =>
      batchDistinct.1 (same ▸ List.mem_map_of_mem mem)
    have keepsIds : ∀ z : OutboxRow, (if z.id = y.id then y' else z).id = z.id := by
      intro z
      split <;> simp_all
    have distinct₁ : ((processRecord s x).2.outbox.rows.map OutboxRow.id).Nodup := by
      rw [rows₁, List.map_map]
      simpa [Function.comp_def, keepsIds] using distinct
    have inTable₁ : ∀ z ∈ batch, z ∈ (processRecord s x).2.outbox.rows := by
      intro z mem
      rw [rows₁]
      exact List.mem_map.mpr ⟨z, inTable z (by simp [mem]), if_neg (others z mem)⟩
    obtain ⟨settle, rows', unchanged, settles, view', wf'⟩ :=
      @induction (processRecord s x).2 { report with completed := report.completed + 1 }
        inTable₁ batchDistinct.2 distinct₁ (fun z mem => pending z (by simp [mem])) wf₁
    have later : (processAll s report (x :: records)).2 =
        (processAll (processRecord s x).2 { report with completed := report.completed + 1 }
          records).2 := by
      simp only [processAll]
      exact processAll_snd _ _ _
    -- the row of the first record keeps its settled state through the rest of the batch
    have settledStays : settle y' = y' :=
      unchanged y' (by rw [rows₁]; exact List.mem_map.mpr ⟨y, inTable y (by simp), if_pos rfl⟩)
        fun mem => batchDistinct.1 (sameId ▸ List.mem_map_of_mem mem)
    have restSettles : ∀ z ∈ batch, settle (if z.id = y.id then y' else z) = settle z :=
      fun z mem => by rw [if_neg (others z mem)]
    rw [later]
    refine ⟨fun z => settle (if z.id = y.id then y' else z), ?_, ?_, ?_, ?_, wf'⟩
    · rw [rows', rows₁, List.map_map]
      rfl
    · intro z mem outside
      have other : z.id ≠ y.id := fun same =>
        outside (by rw [List.inj_on_of_nodup_map distinct mem (inTable y (by simp)) same]; simp)
      show settle (if z.id = y.id then y' else z) = z
      rw [if_neg other]
      exact unchanged z (by rw [rows₁]; exact List.mem_map.mpr ⟨z, mem, if_neg other⟩)
        fun inBatch => outside (List.mem_cons_of_mem _ inBatch)
    · intro z mem
      show z.SettledFrom (settle (if z.id = y.id then y' else z))
      rcases List.mem_cons.mp mem with rfl | inBatch
      · rw [if_pos rfl, settledStays]
        exact settled
      · rw [restSettles z inBatch]
        exact settles z inBatch
    · have restFilter : batch.filter (fun z => decide
            ((settle (if z.id = y.id then y' else z)).status = OutboxStatus.completed.tag)) =
          batch.filter fun z => decide ((settle z).status = OutboxStatus.completed.tag) :=
        List.filter_congr fun z mem => by rw [restSettles z mem]
      rw [view', view₁, ← ReplicaView.appliedAll_append]
      by_cases completed : y'.status = OutboxStatus.completed.tag
      · simp only [completed, settledStays, restFilter, List.filter_cons, if_true, decide_true]
        cases change : y.origin.change? <;> simp [change]
      · simp [completed, settledStays, restFilter]

end Processor

/-! ## Housekeeping between batches -/

namespace Stores

variable {s : Stores}

/-- With no claims, releasing stale claims only reads the clock. -/
theorem releaseStale_unclaimed (unclaimed : ∀ y ∈ s.outbox.rows, y.status ≠ OutboxStatus.processing.tag)
    (span : Span) : (s.releaseStale span).2 = { s with clock := s.clock.read.2 } := by
  simp only [releaseStale, now, Clock.read]
  split
  · rfl
  · next c _ =>
    simp only [Outbox.release]
    rw [Outbox.map_fixing fun y mem => by simp [Outbox.staleClaim, unclaimed y mem]]

/-- Requeueing makes some failed rows with retries left pending and changes nothing else
but the clock. -/
theorem requeueDue_rows (maxRetry : Int) (span : Span) :
    ∃ due : OutboxRow → Bool,
      (s.requeueDue maxRetry span).2.outbox.rows =
        s.outbox.rows.map (fun y => if due y then { y with status := OutboxStatus.pending.tag } else y) ∧
      (∀ y, due y = true → y.status = OutboxStatus.failed.tag ∧ y.retryCount < maxRetry) ∧
      (s.requeueDue maxRetry span).2.replica = s.replica := by
  simp only [requeueDue, now, Clock.read]
  split
  · exact ⟨fun _ => false, by simp, by simp, rfl⟩
  · next c _ =>
    refine ⟨Outbox.dueForRetry maxRetry c, rfl, fun y due => ?_, rfl⟩
    simp only [Outbox.dueForRetry, Bool.and_eq_true, beq_iff_eq, decide_eq_true_eq] at due
    exact due.1

end Stores

namespace Processor

variable {opts : OutboxOptions} {s : Stores}

/-- An ordered cycle ends after releasing, after requeueing or at a failed read, or after
processing the records read from the first pending rows. -/
theorem orderedCycle_cases (opts : OutboxOptions) (s : Stores) :
    let s₁ := (s.releaseStale opts.claimTimeout).2
    let s₂ := (s₁.requeueDue opts.maxRetryCount opts.retryDelay).2
    (orderedCycle opts s).2 = s₁ ∨ (orderedCycle opts s).2 = s₂ ∨
      ∃ report batch, Outbox.readSelected "fetch pending outbox records"
          ((s₂.outbox.rows.filter (·.status == OutboxStatus.pending.tag)).take opts.batchSize) =
            .ok batch ∧
        (orderedCycle opts s).2 = (processAll s₂ report batch).2 := by
  intro s₁ s₂
  simp only [orderedCycle]
  split
  · exact .inl rfl
  · split
    · exact .inr (.inl rfl)
    · split
      · exact .inr (.inl rfl)
      · next batch fetched => exact .inr (.inr ⟨_, batch, Outbox.limited_ok fetched, rfl⟩)

/-- A run of cycles updates the table row by row. -/
theorem cycles_updates (opts : OutboxOptions) (k : Nat) (distinct : s.outbox.IdsDistinct) :
    ∃ us, (cycles opts k s).2.outbox = s.outbox.update us := by
  induction k generalizing s with
  | zero => exact ⟨[], by simp [cycles, Outbox.update]⟩
  | succ k induction =>
    obtain ⟨us, cycled⟩ := cycle_updates opts s distinct
    have distinct' : (cycle opts s).2.outbox.IdsDistinct := by
      rw [cycled]
      exact distinct.update us
    obtain ⟨vs, rest⟩ := induction distinct'
    exact ⟨us ++ vs, by rw [cycles_succ, rest, cycled, Outbox.update_update]⟩

end Processor

/-! ## The records of one key -/

namespace Outbox

/-- The rows whose records write the replica row under a key, in table order. -/
def keyRows (K : EntityKind × Int) (rows : List OutboxRow) : List OutboxRow :=
  rows.filter fun y => y.origin.target? = some K

variable {K : EntityKind × Int} {rows : List OutboxRow}

/-- Which key a row writes is a fact of the columns fixed at write time. -/
theorem keyRows_map {f : OutboxRow → OutboxRow} (keeps : ∀ y ∈ rows, (f y).origin = y.origin) :
    keyRows K (rows.map f) = (keyRows K rows).map f := by
  unfold keyRows
  rw [List.filter_map]
  congr 1
  exact List.filter_congr fun y mem => by simp [keeps y mem]

theorem keyRows_filter (p : OutboxRow → Bool) :
    keyRows K (rows.filter p) = (keyRows K rows).filter p := by
  simp only [keyRows, List.filter_filter, Bool.and_comm]

/-- A key's rows among the first rows are the key's first rows. -/
theorem keyRows_take (b : Nat) :
    keyRows K (rows.take b) = (keyRows K rows).take (keyRows K (rows.take b)).length :=
  List.prefix_iff_eq_take.mp ((List.take_prefix b rows).filter _)

/-- Of rows completed up to `n` and pending after, the pending ones are those after `n`. -/
theorem filter_pending_of_split {n : Nat}
    (completed : ∀ y ∈ rows.take n, y.status = OutboxStatus.completed.tag)
    (pending : ∀ y ∈ rows.drop n, y.status = OutboxStatus.pending.tag) :
    rows.filter (·.status == OutboxStatus.pending.tag) = rows.drop n := by
  conv_lhs => rw [← List.take_append_drop n rows]
  rw [List.filter_append, List.filter_eq_nil_iff.mpr, List.filter_eq_self.mpr, List.nil_append]
  · intro y mem
    simpa using pending y mem
  · intro y mem
    simp [completed y mem]

/-- Retry counts only grow: a key's rows unfailed before and after two runs of updates are
unfailed between them. -/
theorem keyRows_unfailed_between {o : Outbox} {us vs : List RowUpdate}
    (before : ∀ y ∈ keyRows K o.rows, y.retryCount = 0)
    (after : ∀ y ∈ keyRows K ((o.update us).update vs).rows, y.retryCount = 0) :
    ∀ y ∈ keyRows K (o.update us).rows, y.retryCount = 0 := by
  have keeps : ∀ (us : List RowUpdate) (rows : List OutboxRow),
      keyRows K (rows.map (RowUpdate.applyAll us)) = (keyRows K rows).map (RowUpdate.applyAll us) :=
    fun us _ => keyRows_map fun y _ => RowUpdate.applyAll_origin us y
  intro y' mem
  rw [update_rows, keeps] at mem
  obtain ⟨y, keyed, rfl⟩ := List.mem_map.mp mem
  have later := after (RowUpdate.applyAll vs (RowUpdate.applyAll us y)) (by
    rw [update_rows, update_rows, keeps, keeps]
    exact List.mem_map_of_mem (List.mem_map_of_mem keyed))
  have zero := before y keyed
  rw [RowUpdate.applyAll_retryCount, RowUpdate.applyAll_retryCount] at later
  rw [RowUpdate.applyAll_retryCount]
  omega

/-- The changes of rows that write under a key are the rows' changes that do. -/
theorem changes_filter_target (rows : List OutboxRow) :
    (rows.filterMap fun y => y.origin.change?).filter (fun change => change.2.target = K) =
      (keyRows K rows).filterMap fun y => y.origin.change? := by
  induction rows with
  | nil => rfl
  | cons y rows induction =>
    unfold keyRows at induction ⊢
    cases change : y.origin.change? with
    | none => simp [change, RowOrigin.target?, induction]
    | some change' =>
      by_cases here : change'.2.target = K <;>
        simp [change, RowOrigin.target?, here, induction]

end Outbox

/-- What a run of cycles keeps for one key, from the replica view `start`: the table
stays in order with no claim left open, the replica keeps its keys unique, the key's
rows never failed, the first of them are completed and the rest pending, and the
replica's row under the key is the fold of the completed ones' changes from `start`. -/
structure KeyProgress (K : EntityKind × Int) (start : ReplicaView) (s : Stores) : Prop where
  order : Outbox.InOrder s.outbox.rows
  unclaimed : ∀ y ∈ s.outbox.rows, y.status ≠ OutboxStatus.processing.tag
  replica : s.replica.WellFormed
  unfailed : ∀ y ∈ Outbox.keyRows K s.outbox.rows, y.retryCount = 0
  completedFirst : ∃ n, (∀ y ∈ (Outbox.keyRows K s.outbox.rows).take n,
      y.status = OutboxStatus.completed.tag) ∧
    (∀ y ∈ (Outbox.keyRows K s.outbox.rows).drop n, y.status = OutboxStatus.pending.tag) ∧
    s.replica.view.rowAt K = (start.appliedAll
      (((Outbox.keyRows K s.outbox.rows).take n).filterMap fun y => y.origin.change?)).rowAt K

namespace KeyProgress

variable {K : EntityKind × Int} {start : ReplicaView} {s : Stores}

/-- A backlog with a replica of unique keys starts a run for every key. -/
theorem of_backlog (backlog : Outbox.Backlog s.outbox.rows) (wf : s.replica.WellFormed) :
    KeyProgress K s.replica.view s where
  order := backlog.inOrder
  unclaimed y mem := by simp [(backlog.fresh y mem).pending]
  replica := wf
  unfailed y mem := (backlog.fresh y (List.mem_of_mem_filter mem)).retryCount_zero
  completedFirst := ⟨0, by simp,
    fun y mem => (backlog.fresh y (List.mem_of_mem_filter (List.drop_zero ▸ mem))).pending,
    by simp [ReplicaView.appliedAll]⟩

/-- A row of the key is completed or pending. -/
theorem keyRow_settled (progress : KeyProgress K start s) :
    ∀ y ∈ Outbox.keyRows K s.outbox.rows,
      y.status = OutboxStatus.completed.tag ∨ y.status = OutboxStatus.pending.tag := by
  obtain ⟨n, completed, pending, -⟩ := progress.completedFirst
  intro y mem
  rw [← List.take_append_drop n (Outbox.keyRows K s.outbox.rows), List.mem_append] at mem
  exact mem.imp (completed y) (pending y)

/-- Reading the clock keeps the progress. -/
theorem withClock (progress : KeyProgress K start s) (c : Clock) :
    KeyProgress K start { s with clock := c } :=
  ⟨progress.order, progress.unclaimed, progress.replica, progress.unfailed, progress.completedFirst⟩

/-- Requeueing keeps the progress: it only makes failed rows pending, and the key has
none. -/
theorem requeueDue (progress : KeyProgress K start s) (maxRetry : Int) (span : Span) :
    KeyProgress K start (s.requeueDue maxRetry span).2 := by
  obtain ⟨due, rows', dueFailed, replica'⟩ := s.requeueDue_rows maxRetry span
  have keeps : ∀ y ∈ s.outbox.rows,
      (if due y then { y with status := OutboxStatus.pending.tag } else y).origin = y.origin := by
    intro y _
    split <;> rfl
  have keyFixed : Outbox.keyRows K (s.requeueDue maxRetry span).2.outbox.rows =
      Outbox.keyRows K s.outbox.rows := by
    rw [rows', Outbox.keyRows_map keeps]
    refine (List.map_congr_left fun y mem => if_neg fun isDue => ?_).trans (List.map_id' _)
    have failed := (dueFailed y isDue).1
    rcases progress.keyRow_settled y mem with status | status <;> simp [status] at failed
  refine ⟨rows' ▸ progress.order.map keeps,
    ?_, replica' ▸ progress.replica, keyFixed ▸ progress.unfailed, ?_⟩
  · intro y' mem
    rw [rows', List.mem_map] at mem
    obtain ⟨y, found, rfl⟩ := mem
    split
    · simp
    · exact progress.unclaimed y found
  · rw [keyFixed, replica']
    exact progress.completedFirst

/-- Processing the first pending rows keeps the progress when the key's rows are still
unfailed after it: the key's rows in the batch are its next pending ones, and they all
complete, in order. -/
theorem processBatch (progress : KeyProgress K start s) {report : CycleReport}
    {records : List OutboxRecord} {b : Nat}
    (read : Outbox.readSelected "fetch pending outbox records"
      ((s.outbox.rows.filter (·.status == OutboxStatus.pending.tag)).take b) = .ok records)
    (stillUnfailed : ∀ y ∈ Outbox.keyRows K (Processor.processAll s report records).2.outbox.rows,
      y.retryCount = 0) :
    KeyProgress K start (Processor.processAll s report records).2 := by
  let batch := (s.outbox.rows.filter (·.status == OutboxStatus.pending.tag)).take b
  let ks := Outbox.keyRows K s.outbox.rows
  have inTable : batch.Sublist s.outbox.rows := (List.take_sublist _ _).trans List.filter_sublist
  have distinct : (s.outbox.rows.map OutboxRow.id).Nodup := progress.order.idsDistinct
  have batchRead : List.Forall₂ (fun y x => y.toRecord = .ok x) batch records := by
    unfold Outbox.readSelected at read
    split at read
    · cases read
    · exact Outbox.forall₂_of_readAll read
  obtain ⟨settle, rows', unchanged, settles, view', wf'⟩ :=
    @Processor.processAll_settles s report batch records (fun y mem => inTable.subset mem)
      (distinct.sublist (inTable.map _)) distinct
      (fun y mem => by simpa using (List.mem_filter.mp (List.mem_of_mem_take mem)).2)
      batchRead progress.replica
  have keeps : ∀ y ∈ s.outbox.rows, (settle y).origin = y.origin := by
    intro y mem
    by_cases inBatch : y ∈ batch
    · exact (settles y inBatch).1
    · rw [unchanged y mem inBatch]
  have keyed : Outbox.keyRows K (Processor.processAll s report records).2.outbox.rows =
      ks.map settle := by
    rw [rows', Outbox.keyRows_map keeps]
  obtain ⟨n, completedFirst, pendingRest, rowAtEq⟩ := progress.completedFirst
  -- the key's pending rows are the ones after its first n
  have keyPending : Outbox.keyRows K (s.outbox.rows.filter (·.status == OutboxStatus.pending.tag)) =
      ks.drop n := by
    rw [Outbox.keyRows_filter]
    exact Outbox.filter_pending_of_split completedFirst pendingRest
  -- so the key's rows in the batch are its next pending ones
  obtain ⟨m, keyBatch⟩ : ∃ m, Outbox.keyRows K batch = (ks.drop n).take m :=
    ⟨_, keyPending ▸ @Outbox.keyRows_take K _ b⟩
  have inKey : ∀ y ∈ Outbox.keyRows K batch, y ∈ ks := fun y mem =>
    (inTable.filter _).subset mem
  have ksDistinct : ks.Nodup :=
    (List.filter_sublist).nodup (List.Nodup.of_map OutboxRow.id distinct)
  -- and all of them complete: a failure would leave a retry count on the key
  have batchCompleted : ∀ y ∈ Outbox.keyRows K batch,
      (settle y).status = OutboxStatus.completed.tag := by
    intro y mem
    obtain ⟨-, completed | ⟨-, failedCount⟩⟩ := settles y (List.mem_of_mem_filter mem)
    · exact completed.1
    · have stays := stillUnfailed (settle y) (by rw [keyed]; exact List.mem_map_of_mem (inKey y mem))
      have zero := progress.unfailed y (inKey y mem)
      omega
  have notInBatch : ∀ y ∈ ks, y.status ≠ OutboxStatus.pending.tag → y ∉ batch := by
    intro y _ notPending inBatch
    exact notPending (by simpa using (List.mem_filter.mp (List.mem_of_mem_take inBatch)).2)
  refine ⟨rows' ▸ progress.order.map keeps,
    ?_, wf', stillUnfailed, ⟨n + m, ?_, ?_, ?_⟩⟩
  · -- a settled row is completed or failed, and the others are as they were
    intro y' mem
    rw [rows', List.mem_map] at mem
    obtain ⟨y, found, rfl⟩ := mem
    by_cases inBatch : y ∈ batch
    · obtain ⟨-, ⟨completed, -⟩ | ⟨failed, -⟩⟩ := settles y inBatch <;> simp [*]
    · rw [unchanged y found inBatch]
      exact progress.unclaimed y found
  · -- the first n were completed before, the next m complete now
    rw [keyed, ← List.map_take, List.take_add]
    intro y' settled
    obtain ⟨y, mem, rfl⟩ := List.mem_map.mp settled
    rcases List.mem_append.mp mem with old | new
    · have completed := completedFirst y old
      rw [unchanged y (List.mem_of_mem_filter (List.mem_of_mem_take old))
        (notInBatch y (List.mem_of_mem_take old) (by simp [completed]))]
      exact completed
    · exact batchCompleted y (keyBatch ▸ new)
  · -- the rest stay pending: they are not among the batch's rows of the key
    rw [keyed, ← List.map_drop, ← List.drop_drop]
    intro y' settled
    obtain ⟨y, mem, rfl⟩ := List.mem_map.mp settled
    have pending := pendingRest y (List.mem_of_mem_drop mem)
    have outside : y ∉ batch := by
      intro inBatch
      have taken : y ∈ (ks.drop n).take m :=
        keyBatch ▸ List.mem_filter.mpr ⟨inBatch, (List.mem_filter.mp (List.mem_of_mem_drop
          (List.mem_of_mem_drop mem))).2⟩
      exact List.disjoint_take_drop (ksDistinct.sublist (List.drop_sublist _ _)) (Nat.le_refl m)
        taken mem
    rw [unchanged y (List.mem_of_mem_filter (List.mem_of_mem_drop (List.mem_of_mem_drop mem)))
      outside]
    exact pending
  · -- under the key the replica took the batch's changes of the key, which extend the fold
    have changesKept : ((ks.take (n + m)).map settle).filterMap (fun y => y.origin.change?) =
        (ks.take (n + m)).filterMap fun y => y.origin.change? := by
      rw [List.filterMap_map]
      exact List.filterMap_congr fun y mem => by
        simp [keeps y (List.mem_of_mem_filter (List.mem_of_mem_take mem))]
    rw [view', keyed, ← List.map_take, changesKept]
    calc (s.replica.view.appliedAll
          ((batch.filter fun y => (settle y).status = OutboxStatus.completed.tag).filterMap
            fun y => y.origin.change?)).rowAt K
        = (s.replica.view.appliedAll ((Outbox.keyRows K
            (batch.filter fun y => (settle y).status = OutboxStatus.completed.tag)).filterMap
              fun y => y.origin.change?)).rowAt K := by
          rw [← Outbox.changes_filter_target]
          exact ReplicaView.rowAt_appliedAll_filter K _ rfl
      _ = (s.replica.view.appliedAll (((ks.drop n).take m).filterMap
            fun y => y.origin.change?)).rowAt K := by
          rw [Outbox.keyRows_filter, List.filter_eq_self.mpr (fun y mem => by
            simp [batchCompleted y mem]), keyBatch]
      _ = ((start.appliedAll ((ks.take n).filterMap fun y => y.origin.change?)).appliedAll
            (((ks.drop n).take m).filterMap fun y => y.origin.change?)).rowAt K :=
          ReplicaView.rowAt_appliedAll_congr _ rowAtEq
      _ = (start.appliedAll ((ks.take (n + m)).filterMap fun y => y.origin.change?)).rowAt K := by
          rw [← ReplicaView.appliedAll_append, ← List.filterMap_append, List.take_add]

/-- A cycle keeps the progress when the key's rows are still unfailed after it. -/
theorem cycle (progress : KeyProgress K start s) (opts : OutboxOptions)
    (stillUnfailed : ∀ y ∈ Outbox.keyRows K (Processor.cycle opts s).2.outbox.rows,
      y.retryCount = 0) :
    KeyProgress K start (Processor.cycle opts s).2 := by
  rw [Processor.cycle_eq_orderedCycle progress.order] at stillUnfailed ⊢
  have released : KeyProgress K start (s.releaseStale opts.claimTimeout).2 := by
    rw [Stores.releaseStale_unclaimed progress.unclaimed]
    exact progress.withClock _
  have requeued := released.requeueDue opts.maxRetryCount opts.retryDelay
  rcases Processor.orderedCycle_cases opts s with cycled | cycled | ⟨report, batch, read, cycled⟩
  · rw [cycled]
    exact released
  · rw [cycled]
    exact requeued
  · rw [cycled] at stillUnfailed ⊢
    exact requeued.processBatch read stillUnfailed

/-- A run of cycles keeps the progress when the key's rows are unfailed at its end. -/
theorem run (progress : KeyProgress K start s) (opts : OutboxOptions) (k : Nat)
    (unfailed : ∀ y ∈ Outbox.keyRows K (Processor.cycles opts k s).2.outbox.rows,
      y.retryCount = 0) :
    KeyProgress K start (Processor.cycles opts k s).2 := by
  induction k generalizing s with
  | zero => exact progress
  | succ k induction =>
    rw [Processor.cycles_succ] at unfailed ⊢
    obtain ⟨us, cycled⟩ := Processor.cycle_updates opts s progress.order.idsDistinct
    have distinct : (Processor.cycle opts s).2.outbox.IdsDistinct := by
      rw [cycled]
      exact progress.order.idsDistinct.update us
    obtain ⟨vs, rest⟩ := Processor.cycles_updates opts k distinct
    -- the rest of the run only updates rows, so the key was unfailed after the first cycle
    have stillUnfailed : ∀ y ∈ Outbox.keyRows K (Processor.cycle opts s).2.outbox.rows,
        y.retryCount = 0 := by
      rw [rest, cycled] at unfailed
      rw [cycled]
      exact Outbox.keyRows_unfailed_between progress.unfailed unfailed
    exact induction (progress.cycle opts stillUnfailed) unfailed

end KeyProgress

/-! ## Order per key -/

/-- The changes of the first rows depend only on the rows' origins. -/
theorem Outbox.changes_take_of_origins {rows rows' : List OutboxRow}
    (same : rows'.map OutboxRow.origin = rows.map OutboxRow.origin) (n : Nat) :
    (rows'.take n).filterMap (fun y => y.origin.change?) =
      (rows.take n).filterMap fun y => y.origin.change? := by
  have taken := congrArg (fun origins => (origins.take n).filterMap RowOrigin.change?) same
  simpa only [← List.map_take, List.filterMap_map, Function.comp_def] using taken

/-- A key none of whose records fails keeps its order through any run of cycles, under
any options and whatever happens to other keys: its rows are the ones written, its first
ones are completed and the rest pending, and the replica's row for the key is the apply
table folded over the completed ones' changes, in the order they were written. -/
theorem key_fifo_without_failures {opts : OutboxOptions} {k : Nat} {s : Stores}
    (K : EntityKind × Int) (backlog : Outbox.Backlog s.outbox.rows) (wf : s.replica.WellFormed)
    (unfailed : ∀ y ∈ Outbox.keyRows K (Processor.cycles opts k s).2.outbox.rows,
      y.retryCount = 0) :
    let final := (Processor.cycles opts k s).2
    let keyed := Outbox.keyRows K final.outbox.rows
    keyed.map OutboxRow.origin = (Outbox.keyRows K s.outbox.rows).map OutboxRow.origin ∧
      ∃ n, (∀ y ∈ keyed.take n, y.status = OutboxStatus.completed.tag) ∧
        (∀ y ∈ keyed.drop n, y.status = OutboxStatus.pending.tag) ∧
        final.replica.view.rowAt K = (s.replica.view.appliedAll
          (((Outbox.keyRows K s.outbox.rows).take n).filterMap fun y => y.origin.change?)).rowAt K := by
  intro final keyed
  have start : KeyProgress K s.replica.view s := .of_backlog backlog wf
  have origins : keyed.map OutboxRow.origin =
      (Outbox.keyRows K s.outbox.rows).map OutboxRow.origin := by
    obtain ⟨us, rest⟩ := Processor.cycles_updates opts k backlog.inOrder.idsDistinct
    simp only [keyed, final, rest, Outbox.update_rows,
      Outbox.keyRows_map fun y _ => RowUpdate.applyAll_origin us y, List.map_map]
    exact List.map_congr_left fun y _ => RowUpdate.applyAll_origin us y
  obtain ⟨n, completed, pending, rowAt⟩ := (start.run opts k unfailed).completedFirst
  refine ⟨origins, n, completed, pending, ?_⟩
  rw [← Outbox.changes_take_of_origins origins n]
  exact rowAt

/-- Four definitions written in one batch: definition 2 takes code X, an update of
definition 1 to code X, a newer update of definition 1 to code Y, and definition 2 moving
to code Z. -/
def codeSwap : Stores :=
  let definition (id : Int) (code name : String) : Json :=
    Json.object [("id", Json.int id), ("code", .string code), ("name", .string name),
      ("route", .string "/screen"), ("status", Json.int 1), ("created_by", .string "admin"),
      ("created_at", .string "2024-05-01T10:00:00Z")]
  ((Stores.start ⟨1714557600, 0⟩).publish
    [⟨"ScreenDefinition", 2, .insert, definition 2 "X" "Two", none⟩,
     ⟨"ScreenDefinition", 1, .update, definition 1 "X" "Old", none⟩,
     ⟨"ScreenDefinition", 1, .update, definition 1 "Y" "New", none⟩,
     ⟨"ScreenDefinition", 2, .update, definition 2 "Z" "Two", none⟩] true true).2

theorem codeSwap_backlog : Outbox.Backlog codeSwap.outbox.rows := by
  apply Outbox.Backlog.of_publish
  constructor
  · decide +kernel
  · unfold Instant.Plain
    decide +kernel

/-- In two cycles retrying at once, definition 2 never fails while definition 1 does, and
its records keep their order. -/
theorem definition_order_beside_a_failing_one :
    let final := (Processor.cycles { retryDelay := Span.ofSeconds 0 } 2 codeSwap).2
    let keyed := Outbox.keyRows (.screenDefinition, 2) final.outbox.rows
    Outbox.Backlog codeSwap.outbox.rows ∧ codeSwap.replica.WellFormed ∧
      (∀ y ∈ keyed, y.retryCount = 0) ∧
      (keyed.map OutboxRow.origin =
          (Outbox.keyRows (.screenDefinition, 2) codeSwap.outbox.rows).map OutboxRow.origin ∧
        ∃ n, (∀ y ∈ keyed.take n, y.status = OutboxStatus.completed.tag) ∧
          (∀ y ∈ keyed.drop n, y.status = OutboxStatus.pending.tag) ∧
          final.replica.view.rowAt (.screenDefinition, 2) = (codeSwap.replica.view.appliedAll
            (((Outbox.keyRows (.screenDefinition, 2) codeSwap.outbox.rows).take n).filterMap
              fun y => y.origin.change?)).rowAt (.screenDefinition, 2)) := by
  intro final keyed
  have wf : codeSwap.replica.WellFormed := Replica.empty_wellFormed
  have unfailed : ∀ y ∈ keyed, y.retryCount = 0 := by
    simp only [keyed, final, Processor.cycles_eq_orderedCycles 2 codeSwap_backlog.inOrder]
    decide +kernel
  exact ⟨codeSwap_backlog, wf, unfailed,
    key_fifo_without_failures (.screenDefinition, 2) codeSwap_backlog wf unfailed⟩

/-! ## A key whose older record fails -/

/-- The older update of definition 1 fails on the code definition 2 holds, the newer one
succeeds, and definition 2 moves to code Z.  The next cycle retries the older update, which
now succeeds: every record ends completed, and definition 1 holds the older update's name
where the fold of its records in order holds the newer one's. -/
theorem requeued_update_overwrites_newer :
    let final := (Processor.cycles { retryDelay := Span.ofSeconds 0 } 2 codeSwap).2
    let keyed := Outbox.keyRows (.screenDefinition, 1) final.outbox.rows
    (∀ y ∈ final.outbox.rows, y.status = OutboxStatus.completed.tag) ∧
      (final.replica.view.definitions 1).map (·.name) = some "Old" ∧
      ((Replica.empty.view.appliedAll (keyed.filterMap (·.origin.change?))).definitions 1).map
        (·.name) = some "New" := by
  intro final keyed
  simp only [final, keyed, Processor.cycles_eq_orderedCycles 2 codeSwap_backlog.inOrder]
  decide +kernel

end OutboxReplicator
