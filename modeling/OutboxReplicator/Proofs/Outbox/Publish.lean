import Mathlib.Data.List.Perm.Subperm
import Mathlib.Data.List.Sort
import Mathlib.Data.String.Basic
import OutboxReplicator.Proofs.Outbox.Reads
/-!
# Publishing in a transaction

A publish writes its records inside one transaction of the primary database, one call
per record or as a batch, and then commits or rolls back.

* A rollback leaves the outbox as it was, its sequence of ids included.
* A commit succeeds exactly when the sequence of ids has room for the records; the table
  then gains one row per record and nothing else, in the records' order, with the next
  ids of the sequence, each row fresh and carrying its record's columns
  (`OutboxRow.WrittenFrom`).  When the sequence runs out, the publish fails and the table
  is as it was.
* A batch shares one creation time, so the pending read returns its records in the
  order they were given.

The table keeps a payload as JSON text, so a row's payload is the payload as its text
reads back (`Json.reread`).  A float may come back one unit off: `stored_payload_moves`
publishes the number that `2.7e-298` reads as, and the row holds the next smaller one.
-/

namespace OutboxReplicator

/-! ## Appending rows -/

namespace Outbox

variable {o o' : Outbox}

/-- Appending records one after another gives each the next id of the sequence and its
time, and appends the rows the records write. -/
theorem appendAll_written {stamped : List (Instant × NewRecord)} {ids : List Int}
    (written : o.appendAll stamped = .ok (ids, o')) :
    ∃ fresh : List OutboxRow, o'.rows = o.rows ++ fresh ∧ ids = fresh.map OutboxRow.id ∧
      ids = (List.range stamped.length).map (fun i : Nat => o.lastId + 1 + (i : Int)) ∧
      fresh.map OutboxRow.createdAt = stamped.map Prod.fst ∧
      List.Forall₂ (fun p y => y.WrittenFrom p.2) stamped fresh := by
  induction stamped generalizing o ids with
  | nil =>
    simp only [Outbox.appendAll, Except.ok.injEq, Prod.mk.injEq] at written
    obtain ⟨rfl, rfl⟩ := written
    exact ⟨[], by simp, rfl, rfl, rfl, .nil⟩
  | cons first rest induction =>
    obtain ⟨t, r⟩ := first
    simp only [Outbox.appendAll, bind, Except.bind] at written
    split at written
    next => cases written
    next step appended =>
      obtain ⟨id, o₁⟩ := step
      split at written
      next => cases written
      next tail appendedRest =>
        obtain ⟨restIds, o₂⟩ := tail
        simp only [pure, Except.pure, Except.ok.injEq, Prod.mk.injEq] at written
        obtain ⟨rfl, rfl⟩ := written
        obtain ⟨nextId, lastId, row, rows₁, rowId, created, writtenRow⟩ := append_ok appended
        obtain ⟨fresh, rows₂, restIdsEq, restRange, restCreated, restWritten⟩ :=
          induction appendedRest
        refine ⟨row :: fresh, by simp [rows₂, rows₁], by simp [rowId, restIdsEq], ?_,
          by simp [created, restCreated], .cons writtenRow restWritten⟩
        -- the rest of the ids continue the sequence after this one
        rw [restRange, lastId, nextId, List.length_cons, List.range_succ_eq_map, List.map_cons,
          List.map_map]
        refine congrArg₂ List.cons (by simp) (List.map_congr_left fun i _ => ?_)
        simp only [Function.comp_apply]
        omega

/-- A write takes the next id when the sequence has room. -/
theorem append_of_room {now : Instant} {r : NewRecord} (room : o.lastId < maxId) :
    ∃ o₁, o.append now r = .ok (o.lastId + 1, o₁) ∧ o₁.lastId = o.lastId + 1 := by
  simp [append, nextId, room, bind, Except.bind, pure, Except.pure]

/-- A write fails when the sequence is full. -/
theorem append_full {now : Instant} {r : NewRecord} (full : maxId ≤ o.lastId) :
    o.append now r = .error .full := by
  simp [append, nextId, not_lt.mpr full, bind, Except.bind]

/-- Appending records succeeds exactly when the sequence has room for all of them. -/
theorem appendAll_ok_iff (stamped : List (Instant × NewRecord)) :
    (∃ w, o.appendAll stamped = .ok w) ↔ stamped = [] ∨ o.lastId + (stamped.length : Int) ≤ maxId := by
  induction stamped generalizing o with
  | nil => simp [Outbox.appendAll]
  | cons first rest induction =>
    obtain ⟨t, r⟩ := first
    simp only [List.length_cons, reduceCtorEq, false_or]
    by_cases room : o.lastId < maxId
    · obtain ⟨o₁, appended, lastId⟩ :
          ∃ o₁, o.append t r = .ok (o.lastId + 1, o₁) ∧ o₁.lastId = o.lastId + 1 :=
        append_of_room room
      have later := @induction o₁
      rw [lastId] at later
      simp only [appendAll, appended, bind, Except.bind]
      -- the rest fits exactly when it fits after this write
      cases restWritten : o₁.appendAll rest with
      | error e =>
        simp only [restWritten, reduceCtorEq, exists_false, false_iff, not_or] at later ⊢
        omega
      | ok tail =>
        simp only [restWritten, Except.ok.injEq, exists_eq', true_iff] at later
        simp only [pure, Except.pure, Except.ok.injEq, exists_eq', true_iff]
        rcases later with rfl | fits
        · simp only [List.length_nil]
          omega
        · omega
    · simp only [appendAll, append_full (not_lt.mp room), bind, Except.bind, reduceCtorEq,
        exists_false, false_iff]
      omega

end Outbox

/-! ## The transaction -/

namespace Stores

/-- Stamping gives every record a time and keeps them in order. -/
theorem stampEach_records (s : Stores) (records : List NewRecord) :
    (s.stampEach records).1.map Prod.snd = records := by
  induction records generalizing s with
  | nil => rfl
  | cons r rest induction => simp [stampEach, induction]

/-- A publish stamps the records, in order and with one time for a batch, and appends
them to the outbox; the outbox keeps what was appended only when the transaction commits,
and a failed write keeps nothing. -/
theorem publish_appends (s : Stores) (records : List NewRecord) (batch commit : Bool) :
    ∃ stamped : List (Instant × NewRecord), stamped.map Prod.snd = records ∧
      (batch = true → ∃ t, ∀ p ∈ stamped, p.1 = t) ∧
      match s.outbox.appendAll stamped with
      | .ok (ids, o) => (s.publish records batch commit).1 = .ok ids ∧
          (s.publish records batch commit).2.outbox = if commit then o else s.outbox
      | .error e => (s.publish records batch commit).1 = .error (.database e) ∧
          (s.publish records batch commit).2.outbox = s.outbox := by
  cases batch with
  | false =>
    refine ⟨(s.stampEach records).1, stampEach_records s records, by simp, ?_⟩
    simp only [publish, Bool.false_eq_true, if_false]
    rw [← stampEach_outbox s records]
    split <;> cases commit <;> simp_all
  | true =>
    refine ⟨records.map fun r => (s.clock.next, r), by simp, fun _ => ⟨s.clock.next, by simp⟩, ?_⟩
    simp only [publish, if_true]
    split <;> cases commit <;> simp_all [now, Clock.read]

/-- A rollback leaves the outbox as it was. -/
theorem publish_rollback (s : Stores) (records : List NewRecord) (batch : Bool) :
    (s.publish records batch false).2.outbox = s.outbox := by
  obtain ⟨stamped, -, -, appended⟩ := publish_appends s records batch false
  split at appended
  · simpa using appended.2
  · exact appended.2

end Stores

/-! ## Rows of one time come out in id order -/

namespace Outbox

theorem createdOrder_trans (a b c : OutboxRow) (ab : createdOrder a b = true)
    (bc : createdOrder b c = true) : createdOrder a c = true := by
  unfold createdOrder at *
  -- the order is lexicographic on the stored text and the id
  generalize a.createdAt.storedText = ta at *
  generalize b.createdAt.storedText = tb at *
  generalize c.createdAt.storedText = tc at *
  simp only [Bool.or_eq_true, decide_eq_true_eq, Bool.and_eq_true, beq_iff_eq] at *
  rcases ab with ab | ⟨rfl, ab'⟩ <;> rcases bc with bc | ⟨rfl, bc'⟩
  · exact .inl (lt_trans ab bc)
  · exact .inl ab
  · exact .inl bc
  · exact .inr ⟨rfl, le_trans ab' bc'⟩

theorem createdOrder_total (a b : OutboxRow) : (createdOrder a b || createdOrder b a) = true := by
  unfold createdOrder
  generalize a.createdAt.storedText = ta
  generalize b.createdAt.storedText = tb
  simp only [Bool.or_eq_true, decide_eq_true_eq, Bool.and_eq_true, beq_iff_eq]
  rcases lt_trichotomy ta tb with lt | rfl | gt
  · exact .inl (.inl lt)
  · rcases le_total a.id b.id with le | ge
    · exact .inl (.inr ⟨rfl, le⟩)
    · exact .inr (.inr ⟨rfl, ge⟩)
  · exact .inr (.inl gt)

variable {o : Outbox} {limit : Nat} {batch : List OutboxRecord}

/-- The pending read returns the rows of ascending ids `ids` that share one creation time
in the order of `ids`: the read sorts by creation text, then id. -/
theorem pending_sameTime_sublist (distinct : o.IdsDistinct) {ids : List Int}
    (ascending : ids.Pairwise (· < ·)) {t : Instant}
    (sameTime : ∀ y ∈ o.rows, y.id ∈ ids → y.createdAt = t) (read : o.pending limit = .ok batch) :
    ((batch.map (·.id)).filter (· ∈ ids)).Sublist ids := by
  let taken := ((o.rows.filter (·.status == OutboxStatus.pending.tag)).mergeSort createdOrder).take limit
  have selected : readSelected "fetch pending outbox records" taken = .ok batch := limited_ok read
  have nodup := selected_nodup distinct selected
  have sameIds : batch.map (·.id) = taken.map OutboxRow.id := by
    unfold readSelected at selected
    split at selected
    · cases selected
    · exact ids_of_readAll selected
  have inTable : ∀ y ∈ taken, y ∈ o.rows := fun y mem =>
    (List.mem_filter.mp (List.mem_mergeSort.mp (List.mem_of_mem_take mem))).1
  have sorted : taken.Pairwise fun a b => createdOrder a b = true :=
    (List.pairwise_mergeSort createdOrder_trans createdOrder_total _).sublist (List.take_sublist _ _)
  -- among rows of one time the order falls to the ids, which are distinct
  have ascendingTaken : ((taken.filter (·.id ∈ ids)).map OutboxRow.id).Pairwise (· < ·) := by
    rw [List.pairwise_map]
    have distinctTaken : (taken.filter (·.id ∈ ids)).Pairwise fun a b => a.id ≠ b.id :=
      (List.pairwise_map.mp (sameIds ▸ nodup)).sublist List.filter_sublist
    refine ((List.Pairwise.and_mem.mp (sorted.sublist List.filter_sublist)).and distinctTaken).imp ?_
    rintro a b ⟨⟨aMem, bMem, ordered⟩, different⟩
    have aKept := List.mem_filter.mp aMem
    have bKept := List.mem_filter.mp bMem
    have aTime := sameTime a (inTable a aKept.1) (by simpa using aKept.2)
    have bTime := sameTime b (inTable b bKept.1) (by simpa using bKept.2)
    unfold createdOrder at ordered
    rw [aTime, bTime] at ordered
    simp only [lt_self_iff_false, decide_false, beq_self_eq_true, Bool.true_and, Bool.false_or,
      decide_eq_true_eq] at ordered
    omega
  rw [sameIds, List.filter_map]
  refine List.sublist_of_subperm_of_pairwise (List.Nodup.subperm ?_ ?_) ascendingTaken ascending
  · exact ascendingTaken.imp ne_of_lt
  · intro i mem
    obtain ⟨y, kept, rfl⟩ := List.mem_map.mp mem
    simpa using (List.mem_filter.mp kept).2

/-- The ids a run of writes takes after the sequence's last value are ascending and above
it. -/
theorem sequence_ids_ascending (last : Int) (n : Nat) :
    ((List.range n).map fun i : Nat => last + 1 + (i : Int)).Pairwise (· < ·) ∧
      ∀ id ∈ (List.range n).map (fun i : Nat => last + 1 + (i : Int)), last < id := by
  refine ⟨?_, fun id taken => ?_⟩
  · rw [List.pairwise_map]
    exact (List.pairwise_lt_range).imp fun lt => by omega
  · obtain ⟨i, -, rfl⟩ := List.mem_map.mp taken
    omega

end Outbox

/-! ## The writer -/

/-- A publish is atomic with its transaction.  On a table whose ids are distinct and at
most the sequence's last value: a rollback keeps the outbox as it was; a commit succeeds
exactly when the sequence has room, keeps the outbox when it fails, and when it succeeds
appends one row per record and nothing else, in the records' order, with ascending ids
above every id present, each row written from its record.  A batch gives its rows one
creation time, and the pending read returns them in the records' order. -/
theorem publish_is_atomic {s : Stores} (records : List NewRecord) (batch : Bool)
    (distinct : s.outbox.IdsDistinct) (sequence : ∀ y ∈ s.outbox.rows, y.id ≤ s.outbox.lastId) :
    (s.publish records batch false).2.outbox = s.outbox ∧
    ((∃ ids, (s.publish records batch true).1 = .ok ids) ↔
      records = [] ∨ s.outbox.lastId + (records.length : Int) ≤ Outbox.maxId) ∧
    (∀ e, (s.publish records batch true).1 = .error e →
      (s.publish records batch true).2.outbox = s.outbox) ∧
    ∀ ids, (s.publish records batch true).1 = .ok ids →
      ∃ fresh, (s.publish records batch true).2.outbox.rows = s.outbox.rows ++ fresh ∧
        ids = fresh.map OutboxRow.id ∧
        ids = (List.range records.length).map (fun i : Nat => s.outbox.lastId + 1 + (i : Int)) ∧
        (∀ y ∈ s.outbox.rows, ∀ z ∈ fresh, y.id < z.id) ∧
        List.Forall₂ (fun r y => y.WrittenFrom r) records fresh ∧
        (batch = true → (∃ t, ∀ y ∈ fresh, y.createdAt = t) ∧
          ∀ limit pending, (s.publish records batch true).2.outbox.pending limit = .ok pending →
            ((pending.map (·.id)).filter (· ∈ ids)).Sublist ids) := by
  obtain ⟨stamped, records_eq, oneTime, appended⟩ := Stores.publish_appends s records batch true
  have sameLength : stamped.length = records.length := by rw [← records_eq, List.length_map]
  have noRecords : stamped = [] ↔ records = [] := by rw [← records_eq, List.map_eq_nil_iff]
  have fits := Outbox.appendAll_ok_iff (o := s.outbox) stamped
  rw [sameLength, noRecords] at fits
  refine ⟨Stores.publish_rollback s records batch, ?_⟩
  split at appended
  next ids o' written =>
    obtain ⟨succeeded, kept⟩ := appended
    simp only [if_true] at kept
    refine ⟨⟨fun _ => fits.mp ⟨_, written⟩, fun _ => ⟨ids, succeeded⟩⟩,
      fun e failed => by simp [succeeded] at failed, fun ids' result => ?_⟩
    rw [succeeded, Except.ok.injEq] at result
    subst result
    rw [kept]
    obtain ⟨fresh, rows, idsEq, range, created, written⟩ := Outbox.appendAll_written written
    rw [sameLength] at range
    have ⟨ascending, above⟩ := Outbox.sequence_ids_ascending s.outbox.lastId records.length
    rw [← range] at ascending above
    -- every new id is in the run of ids, so above every id present
    have newAbove : ∀ y ∈ s.outbox.rows, ∀ z ∈ fresh, y.id < z.id := fun y old z new =>
      lt_of_le_of_lt (sequence y old) (above z.id (idsEq ▸ List.mem_map_of_mem new))
    refine ⟨fresh, rows, idsEq, range, newAbove, ?_, fun isBatch => ?_⟩
    · rw [← records_eq]
      exact List.forall₂_map_left_iff.mpr written
    obtain ⟨t, sameTime⟩ := oneTime isBatch
    have freshTime : ∀ z ∈ fresh, z.createdAt = t := fun z new => by
      obtain ⟨p, stampedP, time⟩ := List.mem_map.mp (created ▸ List.mem_map_of_mem new)
      exact time ▸ sameTime p stampedP
    refine ⟨⟨t, freshTime⟩, fun limit pending read => ?_⟩
    have distinct' : o'.IdsDistinct := by
      unfold Outbox.IdsDistinct
      rw [rows, List.map_append, List.nodup_append]
      refine ⟨distinct, idsEq ▸ ascending.imp ne_of_lt, ?_⟩
      intro a old b new same
      obtain ⟨y, yOld, rfl⟩ := List.mem_map.mp old
      obtain ⟨z, zNew, rfl⟩ := List.mem_map.mp new
      exact absurd same (ne_of_lt (newAbove y yOld z zNew))
    refine Outbox.pending_sameTime_sublist (t := t) distinct' ascending (fun y mem taken => ?_) read
    rw [rows, List.mem_append] at mem
    rcases mem with old | new
    · exact absurd (above y.id taken) (not_lt.mpr (sequence y old))
    · exact freshTime y new
  next e failed =>
    obtain ⟨failedResult, kept⟩ := appended
    refine ⟨⟨fun ⟨ids, ok⟩ => by simp [failedResult] at ok, fun room => ?_⟩,
      fun _ _ => kept, fun ids ok => by simp [failedResult] at ok⟩
    obtain ⟨w, ok⟩ := fits.mpr room
    simp [failed] at ok

/-- Publishing two records as a batch into an empty outbox. -/
theorem publish_is_atomic_for_a_batch :
    let s := Stores.start ⟨1714557600, 0⟩
    s.outbox.IdsDistinct ∧ (∀ y ∈ s.outbox.rows, y.id ≤ s.outbox.lastId) ∧
      let records : List NewRecord :=
        [⟨"ScreenPilot", 7, .insert, .null, none⟩, ⟨"ScreenDefinition", 2, .delete, .null, some "c"⟩]
      (s.publish records true false).2.outbox = s.outbox ∧
      ((∃ ids, (s.publish records true true).1 = .ok ids) ↔
        records = [] ∨ s.outbox.lastId + (records.length : Int) ≤ Outbox.maxId) ∧
      (∀ e, (s.publish records true true).1 = .error e →
        (s.publish records true true).2.outbox = s.outbox) ∧
      ∀ ids, (s.publish records true true).1 = .ok ids →
        ∃ fresh, (s.publish records true true).2.outbox.rows = s.outbox.rows ++ fresh ∧
          ids = fresh.map OutboxRow.id ∧
          ids = (List.range records.length).map (fun i : Nat => s.outbox.lastId + 1 + (i : Int)) ∧
          (∀ y ∈ s.outbox.rows, ∀ z ∈ fresh, y.id < z.id) ∧
          List.Forall₂ (fun r y => y.WrittenFrom r) records fresh ∧
          (true = true → (∃ t, ∀ y ∈ fresh, y.createdAt = t) ∧
            ∀ limit pending, (s.publish records true true).2.outbox.pending limit = .ok pending →
              ((pending.map (·.id)).filter (· ∈ ids)).Sublist ids) :=
  let s := Stores.start ⟨1714557600, 0⟩
  have distinct : s.outbox.IdsDistinct := Outbox.empty_wellFormed.idsDistinct
  have sequence : ∀ y ∈ s.outbox.rows, y.id ≤ s.outbox.lastId := Outbox.empty_wellFormed.ids_le_lastId
  ⟨distinct, sequence, publish_is_atomic _ true distinct sequence⟩

/-- A payload whose float does not come back from its text: the number that 2.7e-298
reads as is stored as the next smaller float. -/
theorem stored_payload_moves :
    ∃ y ∈ ((Stores.start ⟨1714557600, 0⟩).publish
        [⟨"ScreenPilot", 1, .insert, .number (.float ⟨false, 6361935333462183, -1041⟩), none⟩]
        false true).2.outbox.rows,
      y.payload ≠ .number (.float ⟨false, 6361935333462183, -1041⟩) ∧
      y.payload.render = "2.6999999999999993e-298" ∧
      (Json.number (.float ⟨false, 6361935333462183, -1041⟩)).render = "2.6999999999999997e-298" := by
  have stored : (Json.reread (.number (.float ⟨false, 6361935333462183, -1041⟩))).render =
      "2.6999999999999993e-298" := by decide +kernel
  have given : (Json.number (.float ⟨false, 6361935333462183, -1041⟩)).render =
      "2.6999999999999997e-298" := by decide +kernel
  refine ⟨_, List.mem_singleton.mpr rfl, fun same => ?_, stored, given⟩
  have texts := congrArg Json.render same
  rw [stored, given] at texts
  exact absurd texts (by decide)

end OutboxReplicator
