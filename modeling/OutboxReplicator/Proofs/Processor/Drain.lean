import Mathlib.Data.List.Forall2
import OutboxReplicator.Proofs.Processor.Steps
import OutboxReplicator.Proofs.Time.StoredOrder
/-!
# Draining a backlog

A backlog is an outbox that holds only what writers wrote, none of it taken yet
(`Outbox.Backlog`): every row fresh, ids ascending with creation times that do not
decrease, and every creation time one the tables hold.  Such rows come out of a pending
read in id order: the read orders by stored creation text, which is ordered as the
times are (`Instant.storedText_lt`), and the cycle's own re-sort by creation time and id
leaves them so.

`drain_is_fifo_fold` runs cycles on a backlog of `N` records with a batch size `b` that a
query's limit holds: after `⌈N / b⌉` cycles every record is completed, cycle `i` took and
completed `min b (N - i·b)` records, and the replica is the fold of replication over the
records in creation order, provided no replication in the run fails and the
housekeeping steps return.

The run is followed one record at a time: processing a pending record claims it,
replicates it and marks it (`Processor.processRecord_pending`), a batch does so for each
of its records in turn (`Processor.processAll_completes`), and a cycle on a partly
drained backlog takes the next `b` records (`Processor.cycle_drains`).
-/

namespace OutboxReplicator

/-! ## One row among others -/

namespace Outbox

variable {o : Outbox} {pre post : List OutboxRow} {x : OutboxRow}

/-- A row after rows of other ids is the row its id finds. -/
theorem find?_split (rows : o.rows = pre ++ x :: post) (others : ∀ y ∈ pre, y.id ≠ x.id) :
    o.find? x.id = some x := by
  have absent : pre.find? (·.id == x.id) = none :=
    List.find?_eq_none.mpr fun y mem => by simpa using others y mem
  simp [find?, rows, List.find?_append, absent]

/-- Replacing a row among rows of other ids changes that row only. -/
theorem replace_split (rows : o.rows = pre ++ x :: post) (others : ∀ y ∈ pre ++ post, y.id ≠ x.id)
    {x' : OutboxRow} (sameId : x'.id = x.id) : (o.replace x').rows = pre ++ x' :: post := by
  have fixes : ∀ l : List OutboxRow, (∀ y ∈ l, y.id ≠ x.id) →
      l.map (fun s => if s.id == x'.id then x' else s) = l := by
    intro l otherIds
    have unchanged : ∀ y ∈ l, (if y.id == x'.id then x' else y) = y := fun y mem => by
      simp [sameId, otherIds y mem]
    rw [List.map_congr_left unchanged, List.map_id']
  simp only [replace, rows, List.map_append, List.map_cons, sameId, beq_self_eq_true, if_true]
  rw [← sameId, fixes pre fun y mem => sameId ▸ others y (List.mem_append_left _ mem),
    fixes post fun y mem => sameId ▸ others y (List.mem_append_right _ mem)]

theorem claim_split (rows : o.rows = pre ++ x :: post) (others : ∀ y ∈ pre ++ post, y.id ≠ x.id)
    (pending : x.status = OutboxStatus.pending.tag) (now : Instant) :
    (o.claim now x.id).1 = true ∧ (o.claim now x.id).2.rows =
      pre ++ { x with status := OutboxStatus.processing.tag, claimedAt := some now } :: post := by
  have found := find?_split rows fun y mem => others y (List.mem_append_left _ mem)
  simp only [claim, found, pending, beq_self_eq_true, if_true]
  exact ⟨trivial, replace_split rows others rfl⟩

theorem markProcessed_split (rows : o.rows = pre ++ x :: post)
    (others : ∀ y ∈ pre ++ post, y.id ≠ x.id) (notCompleted : x.status ≠ OutboxStatus.completed.tag)
    (now : Instant) :
    (o.markProcessed now x.id).rows =
      pre ++ { x with status := OutboxStatus.completed.tag, processedAt := some now,
                      error := none } :: post := by
  have found := find?_split rows fun y mem => others y (List.mem_append_left _ mem)
  simp only [markProcessed, found, beq_iff_eq, notCompleted, if_false]
  exact replace_split rows others rfl

theorem markFailed_split (rows : o.rows = pre ++ x :: post)
    (others : ∀ y ∈ pre ++ post, y.id ≠ x.id) (notCompleted : x.status ≠ OutboxStatus.completed.tag)
    (now : Instant) (message : String) :
    (o.markFailed now x.id message).rows =
      pre ++ { x with status := OutboxStatus.failed.tag, error := some message,
                      retryCount := x.retryCount + 1, failedAt := some now } :: post := by
  have found := find?_split rows fun y mem => others y (List.mem_append_left _ mem)
  simp only [markFailed, found, beq_iff_eq, notCompleted, if_false]
  exact replace_split rows others rfl

end Outbox

/-! ## Processing one record -/

namespace Processor

variable {s : Stores} {pre post : List OutboxRow} {x : OutboxRow} {r : OutboxRecord}

/-- Processing the record of a pending row claims the row, replicates the record, and
marks the row completed or failed by the replication's result; the other rows stay. -/
theorem processRecord_pending (rows : s.outbox.rows = pre ++ x :: post)
    (others : ∀ y ∈ pre ++ post, y.id ≠ x.id) (pending : x.status = OutboxStatus.pending.tag)
    (sameId : r.id = x.id) :
    let claimed := { x with status := OutboxStatus.processing.tag, claimedAt := some s.clock.next }
    let marked := s.clock.read.2.next
    match s.replica.replicate r.entityType r.operation r.payload with
    | .ok (_, replica') =>
      (processRecord s r).1 = .completed ∧
        (processRecord s r).2.outbox.rows =
          pre ++ { claimed with status := OutboxStatus.completed.tag, processedAt := some marked,
                                error := none } :: post ∧
        (processRecord s r).2.replica = replica'
    | .error f =>
      (processRecord s r).1 = .failed ∧
        (processRecord s r).2.outbox.rows =
          pre ++ { claimed with status := OutboxStatus.failed.tag, error := some f.failureMessage,
                                retryCount := x.retryCount + 1, failedAt := some marked } :: post ∧
        (processRecord s r).2.replica = s.replica := by
  intro claimed marked
  obtain ⟨won, claimedRows⟩ := Outbox.claim_split rows others pending s.clock.next
  have stillOpen : claimed.status ≠ OutboxStatus.completed.tag := by simp [claimed]
  -- the claim is won, so the record's fate is the replication's result
  cases replicated : s.replica.replicate r.entityType r.operation r.payload with
  | ok applied =>
    simp only [processRecord, Stores.claim, Stores.now, Clock.read, sameId, won, Bool.not_true,
      Bool.false_eq_true, if_false, Stores.replicate, replicated, Stores.markProcessed]
    exact ⟨trivial, Outbox.markProcessed_split claimedRows others stillOpen _, trivial⟩
  | error f =>
    simp only [processRecord, Stores.claim, Stores.now, Clock.read, sameId, won, Bool.not_true,
      Bool.false_eq_true, if_false, Stores.replicate, replicated, Stores.markFailed]
    exact ⟨trivial, Outbox.markFailed_split claimedRows others stillOpen _ _, trivial⟩

end Processor

/-! ## Clocks move forward -/

namespace Clock

/-- A reading is never later than the next one. -/
theorem notAfter_read (c : Clock) : c.next.notAfter c.read.2.next = true := c.nondecreasing 0

/-- No reading is inside a leap second. -/
theorem next_nanos (c : Clock) : c.next.nanos < Instant.nanosPerSecond := c.notLeap 0

theorem seconds_le_read (c : Clock) : c.next.seconds ≤ c.read.2.next.seconds := by
  have later := c.notAfter_read
  simp only [Instant.notAfter, Instant.before, Bool.not_eq_true', decide_eq_false_iff_not] at later
  omega

end Clock

@[simp] theorem Stores.replicate_clock (s : Stores) (entityType : String) (op : Operation)
    (payload : Json) : (s.replicate entityType op payload).2.clock = s.clock := by
  unfold Stores.replicate
  split <;> rfl

namespace Processor

theorem processRecord_clock (s : Stores) (r : OutboxRecord) :
    s.clock.next.seconds ≤ (processRecord s r).2.clock.next.seconds := by
  have first := Clock.seconds_le_read s.clock
  have second := Clock.seconds_le_read s.clock.read.2
  -- the claim reads the clock once, the mark once more, and replication leaves it
  generalize processed : processRecord s r = p
  simp only [processRecord, Stores.claim, Stores.now] at processed
  by_cases won : (s.outbox.claim s.clock.read.1 r.id).1 = true
  · simp only [won, Bool.not_true, Bool.false_eq_true, if_false] at processed
    generalize replicated : Stores.replicate _ r.entityType r.operation r.payload = out at processed
    obtain ⟨result, s₂⟩ := out
    have clock₂ := congrArg (·.2.clock) replicated
    simp only [Stores.replicate_clock] at clock₂
    cases result <;>
      simp only [← processed, Stores.markProcessed, Stores.markFailed, Stores.now, ← clock₂] <;>
      omega
  · simp only [won, Bool.not_false, if_true] at processed
    rw [← processed]
    exact first

theorem processAll_clock (s : Stores) (report : CycleReport) (records : List OutboxRecord) :
    s.clock.next.seconds ≤ (processAll s report records).2.clock.next.seconds := by
  induction records generalizing s report with
  | nil => exact Int.le_refl _
  | cons r rest induction =>
    simp only [processAll]
    exact Int.le_trans (processRecord_clock s r) (induction _ _)

end Processor

/-! ## Replicating records in turn -/

/-- Replicate records one after another, stopping at the first failure. -/
def Replica.replicateAll (r : Replica) : List OutboxRecord → Except Failure Replica
  | [] => .ok r
  | x :: rest =>
    match r.replicate x.entityType x.operation x.payload with
    | .ok (_, r') => r'.replicateAll rest
    | .error f => .error f

theorem Replica.replicateAll_append (r : Replica) (xs ys : List OutboxRecord) :
    r.replicateAll (xs ++ ys) = r.replicateAll xs >>= fun r' => r'.replicateAll ys := by
  induction xs generalizing r with
  | nil => rfl
  | cons x rest induction =>
    simp only [List.cons_append, replicateAll]
    split <;> simp [induction, bind, Except.bind]

/-- A run of replications that does not fail is one that does not fail on its first
records, then on the rest from where they left the replica. -/
theorem Replica.replicateAll_append_ok {r r'' : Replica} {xs ys : List OutboxRecord}
    (replicated : r.replicateAll (xs ++ ys) = .ok r'') :
    ∃ r', r.replicateAll xs = .ok r' ∧ r'.replicateAll ys = .ok r'' := by
  rw [replicateAll_append] at replicated
  cases first : r.replicateAll xs with
  | error f => simp [first, bind, Except.bind] at replicated
  | ok r' => exact ⟨r', rfl, by simpa [first, bind, Except.bind] using replicated⟩

/-! ## Reading rows as records -/

namespace Outbox

theorem readAll_of_forall₂ {rows : List OutboxRow} {records : List OutboxRecord}
    (read : List.Forall₂ (fun y x => y.toRecord = .ok x) rows records) :
    readAll rows = .ok records := by
  induction read with
  | nil => rfl
  | cons first _ rest =>
    simp only [readAll, List.mapM_cons] at rest ⊢
    simp [first, rest, bind, Except.bind, pure, Except.pure]

theorem forall₂_of_readAll {rows : List OutboxRow} {records : List OutboxRecord}
    (read : readAll rows = .ok records) :
    List.Forall₂ (fun y x => y.toRecord = .ok x) rows records := by
  induction rows generalizing records with
  | nil =>
    simp only [readAll, List.mapM_nil, pure, Except.pure, Except.ok.injEq] at read
    subst read
    exact .nil
  | cons y rows induction =>
    simp only [readAll, List.mapM_cons] at read
    cases first : y.toRecord with
    | error e => simp [first, bind, Except.bind] at read
    | ok x =>
      cases rest : rows.mapM OutboxRow.toRecord with
      | error e => simp [first, rest, bind, Except.bind] at read
      | ok xs =>
        simp only [first, rest, bind, Except.bind, pure, Except.pure, Except.ok.injEq] at read
        subst read
        exact .cons first (induction rest)

end Outbox

/-! ## Processing a batch -/

namespace OutboxRow

/-- `y'` is `y` completed: the same record, completed, with its completion time and the
retry count it had. -/
def CompletedFrom (y y' : OutboxRow) : Prop :=
  y'.origin = y.origin ∧ y'.status = OutboxStatus.completed.tag ∧ y'.processedAt.isSome ∧
    y'.retryCount = y.retryCount

theorem toRecord_ok {y : OutboxRow} {x : OutboxRecord} (read : y.toRecord = .ok x) :
    x.id = y.id ∧ x.createdAt = y.createdAt := by
  unfold toRecord at read
  split at read
  · cases read
  · split at read
    · cases read
    · cases read
      exact ⟨rfl, rfl⟩

end OutboxRow

/-- With distinct ids, the rows around a row have other ids. -/
theorem others_of_nodup {pre post : List OutboxRow} {x : OutboxRow}
    (distinct : ((pre ++ x :: post).map OutboxRow.id).Nodup) : ∀ y ∈ pre ++ post, y.id ≠ x.id := by
  intro y mem same
  rw [List.map_append, List.map_cons, List.nodup_middle, List.nodup_cons, ← List.map_append]
    at distinct
  exact distinct.1 (List.mem_map.mpr ⟨y, mem, same⟩)

namespace Processor

/-- Processing the records of pending rows, when no replication fails, completes the
rows in turn, counts each as completed and leaves the replica as replicating them one
after another does. -/
theorem processAll_completes {s : Stores} {report : CycleReport} {pre batch rest : List OutboxRow}
    {records : List OutboxRecord} {replica' : Replica}
    (rows : s.outbox.rows = pre ++ batch ++ rest)
    (distinct : (s.outbox.rows.map OutboxRow.id).Nodup)
    (pending : ∀ y ∈ batch, y.status = OutboxStatus.pending.tag)
    (read : List.Forall₂ (fun y x => y.toRecord = .ok x) batch records)
    (replicated : s.replica.replicateAll records = .ok replica') :
    (processAll s report records).1 =
        { report with completed := report.completed + records.length } ∧
      (∃ done, (processAll s report records).2.outbox.rows = pre ++ done ++ rest ∧
        List.Forall₂ OutboxRow.CompletedFrom batch done) ∧
      (processAll s report records).2.replica = replica' := by
  induction read generalizing s report pre with
  | nil =>
    simp only [Replica.replicateAll, Except.ok.injEq] at replicated
    exact ⟨by simp [processAll], ⟨[], by simpa [processAll] using rows, .nil⟩, replicated⟩
  | @cons y x batch records first _ induction =>
    have rowsAround : s.outbox.rows = pre ++ y :: (batch ++ rest) := by simpa using rows
    have processed := processRecord_pending rowsAround (others_of_nodup (rowsAround ▸ distinct))
      (pending y (by simp)) (OutboxRow.toRecord_ok first).1
    simp only [Replica.replicateAll] at replicated
    split at replicated
    next r₁ step =>
      simp only [step] at processed
      obtain ⟨outcome, rows₁, replica₁⟩ := processed
      obtain ⟨y', rows₁, completes⟩ : ∃ y', (processRecord s x).2.outbox.rows =
          pre ++ y' :: (batch ++ rest) ∧ OutboxRow.CompletedFrom y y' :=
        ⟨_, rows₁, rfl, rfl, rfl, rfl⟩
      have sameId : y'.id = y.id := congrArg RowOrigin.id completes.1
      have distinct₁ : ((processRecord s x).2.outbox.rows.map OutboxRow.id).Nodup := by
        rw [rows₁]
        rw [rowsAround] at distinct
        simpa [sameId] using distinct
      obtain ⟨counted, ⟨done, rowsDone, completedDone⟩, replicaDone⟩ :=
        @induction (processRecord s x).2 { report with completed := report.completed + 1 }
          (pre ++ [y']) (by simp [rows₁]) distinct₁ (fun z mem => pending z (by simp [mem]))
          (by rw [replica₁]; exact replicated)
      simp only [processAll, outcome]
      refine ⟨?_, ⟨y' :: done, by simpa using rowsDone, .cons completes completedDone⟩, replicaDone⟩
      rw [counted]
      simp only [List.length_cons, Nat.add_assoc, Nat.add_comm 1]
    next f step => cases replicated

end Processor

/-! ## Backlogs -/

namespace Outbox

/-- Rows that only writers wrote and nothing took yet: fresh, in id order with creation
times that do not go back, each created outside a leap second in a year 0000 to 9999
(`Instant.Plain`), where stored texts compare as times. -/
structure Backlog (rows : List OutboxRow) : Prop where
  fresh : ∀ r ∈ rows, r.Fresh
  ordered : rows.Pairwise fun a b => a.id < b.id ∧ b.createdAt.before a.createdAt = false
  plain : ∀ r ∈ rows, r.createdAt.Plain

variable {rows : List OutboxRow}

theorem Backlog.sublist (backlog : Backlog rows) {rows' : List OutboxRow} (sub : rows'.Sublist rows) :
    Backlog rows' :=
  ⟨fun r mem => backlog.fresh r (sub.subset mem), backlog.ordered.sublist sub,
    fun r mem => backlog.plain r (sub.subset mem)⟩

/-- Rows in id order with creation times that do not go back, each created outside a leap
second in a year 0000 to 9999: what a backlog keeps while it drains, whatever becomes of
its rows. -/
structure InOrder (rows : List OutboxRow) : Prop where
  ordered : rows.Pairwise fun a b => a.id < b.id ∧ b.createdAt.before a.createdAt = false
  plain : ∀ r ∈ rows, r.createdAt.Plain

theorem Backlog.inOrder (backlog : Backlog rows) : InOrder rows :=
  ⟨backlog.ordered, backlog.plain⟩

/-- A committed publish on empty stores leaves a backlog when its rows are in order. -/
theorem Backlog.of_publish {t : Instant} {records : List NewRecord} {batch : Bool}
    (order : InOrder ((Stores.start t).publish records batch true).2.outbox.rows) :
    Backlog ((Stores.start t).publish records batch true).2.outbox.rows := by
  obtain ⟨-, fresh, rows, freshAll⟩ :=
    Stores.publish_outbox (Stores.start t) records batch true Outbox.empty_wellFormed
  refine ⟨fun y mem => freshAll y ?_, order.ordered, order.plain⟩
  rw [rows] at mem
  simpa [Stores.start, Outbox.empty] using mem

end Outbox

theorem Instant.eq_of_not_before {a b : Instant} (ab : a.before b = false)
    (ba : b.before a = false) : a = b := by
  cases a
  cases b
  simp only [Instant.before, decide_eq_false_iff_not, not_or, not_and, Instant.mk.injEq] at ab ba ⊢
  omega

/-- Rows in id order with times that do not go back are in stored creation order. -/
theorem Outbox.createdOrder_of_ordered {a b : OutboxRow} (pa : a.createdAt.Plain)
    (pb : b.createdAt.Plain) (ids : a.id < b.id) (notBack : b.createdAt.before a.createdAt = false) :
    Outbox.createdOrder a b = true := by
  unfold Outbox.createdOrder
  cases forward : a.createdAt.before b.createdAt
  · -- neither is before the other: one time, one text, and the id decides
    rw [Instant.eq_of_not_before forward notBack]
    simp [Int.le_of_lt ids]
  · simp [Instant.storedText_lt pa pb forward]

/-- Rows in order are sorted by stored creation order already. -/
theorem Outbox.InOrder.createdOrder_sorted {rows : List OutboxRow} (order : Outbox.InOrder rows) :
    rows.mergeSort Outbox.createdOrder = rows :=
  List.mergeSort_of_pairwise (order.ordered.imp_of_mem fun amem bmem ⟨ids, notBack⟩ =>
    Outbox.createdOrder_of_ordered (order.plain _ amem) (order.plain _ bmem) ids notBack)

/-- Records of rows in id order with times that do not go back are in processing order. -/
theorem OutboxRecord.fifoBefore_of_ordered {a b : OutboxRecord} (ids : a.id < b.id)
    (notBack : b.createdAt.before a.createdAt = false) : OutboxRecord.fifoBefore a b = true := by
  unfold OutboxRecord.fifoBefore
  cases forward : a.createdAt.before b.createdAt
  · rw [Instant.eq_of_not_before forward notBack]
    simp [Int.le_of_lt ids]
  · rfl

/-- Records in id order with times that do not go back are sorted for processing already. -/
theorem OutboxRecord.fifo_sorted {records : List OutboxRecord}
    (ordered : records.Pairwise fun a b => a.id < b.id ∧ b.createdAt.before a.createdAt = false) :
    records.mergeSort OutboxRecord.fifoBefore = records :=
  List.mergeSort_of_pairwise (ordered.imp fun ⟨ids, notBack⟩ => fifoBefore_of_ordered ids notBack)

namespace Outbox

/-- A pending read of a backlog behind completed rows takes the backlog's first records
in id order. -/
theorem pending_backlog {o : Outbox} {done todo : List OutboxRow} {records : List OutboxRecord}
    {limit : Nat} (rows : o.rows = done ++ todo)
    (finished : ∀ y ∈ done, y.status = OutboxStatus.completed.tag) (backlog : Backlog todo)
    (read : List.Forall₂ (fun y x => y.toRecord = .ok x) todo records) (fits : limit ≤ maxLimit) :
    o.pending limit = .ok (records.take limit) := by
  have filtered : o.rows.filter (·.status == OutboxStatus.pending.tag) = todo := by
    rw [rows, List.filter_append, List.filter_eq_nil_iff.mpr, List.filter_eq_self.mpr]
    · rfl
    · intro y mem
      simp [(backlog.fresh y mem).pending]
    · intro y mem
      simp [finished y mem]
  have sorted : todo.mergeSort createdOrder = todo := backlog.inOrder.createdOrder_sorted
  have readable : (todo.take limit).findSome? unreadable = none := by
    apply List.findSome?_eq_none_iff.mpr
    intro y mem
    simp only [unreadable, (backlog.fresh y (List.mem_of_mem_take mem)).retryCount_zero,
      retryCountRange]
    rw [if_neg (by decide), if_neg (by decide)]
  simp only [pending, limited, Nat.not_lt.mpr fits, if_false, filtered, sorted, readSelected,
    readable, Option.isSome_none, Bool.false_eq_true, if_false,
    readAll_of_forall₂ (List.forall₂_take limit read)]
  rfl

end Outbox

/-! ## Housekeeping with nothing to do -/

/-- The housekeeping steps of a cycle return at time `t`: neither cutoff falls before the
calendar. -/
def OutboxOptions.HousekeepingReturns (opts : OutboxOptions) (t : Instant) : Prop :=
  (∀ m, Outbox.cutoff t opts.claimTimeout ≠ .error (.abort m)) ∧
    ∀ m, Outbox.cutoff t opts.retryDelay ≠ .error (.abort m)

/-- Moving back by a span stays within the calendar when the span back from `now` does. -/
theorem Instant.minus_within {now : Instant} {span : Span}
    (late : (minSeconds + span.secs) * nanosPerSecond + span.nanos ≤ now.seconds * nanosPerSecond) :
    now.minus span ≠ .error .beforeCalendar := by
  unfold minus
  split
  · simp
  · dsimp only
    split
    · next early =>
      simp only [nanosPerSecond] at late early
      omega
    · simp

/-- A cutoff does not abort when the span back from `now` stays within the calendar. -/
theorem Outbox.cutoff_returns {now : Instant} {span : Span}
    (late : (Instant.minSeconds + span.secs) * Instant.nanosPerSecond + span.nanos ≤
      now.seconds * Instant.nanosPerSecond) :
    ∀ m, Outbox.cutoff now span ≠ .error (.abort m) := by
  intro m
  unfold Outbox.cutoff
  cases moved : now.minus span with
  | ok t => simp
  | error e =>
    cases e with
    | spanTooLong => simp
    | beforeCalendar => exact absurd moved (Instant.minus_within late)

/-- From a time since 1970, a cutoff less than about 31,700 years back does not abort: the
calendar reaches over 262,000 years before 1970. -/
theorem Outbox.cutoff_returns_of_recent {now : Instant} {span : Span} (recent : 0 ≤ now.seconds)
    (short : span.secs ≤ 1000000000000 ∧ span.nanos < Instant.nanosPerSecond) :
    ∀ m, Outbox.cutoff now span ≠ .error (.abort m) := by
  have calendar : Instant.minSeconds ≤ -8000000000000 := by decide
  apply Outbox.cutoff_returns
  simp only [Instant.nanosPerSecond] at short ⊢
  omega

namespace Stores

variable {s : Stores} {span : Span}

/-- With no claims, releasing stale claims reads the clock, changes nothing and counts
nothing, when its cutoff does not abort. -/
theorem releaseStale_quiet (noClaims : ∀ y ∈ s.outbox.rows, y.status ≠ OutboxStatus.processing.tag)
    (returns : ∀ m, Outbox.cutoff s.clock.next span ≠ .error (.abort m)) :
    ∃ result, s.releaseStale span = (result, { s with clock := s.clock.read.2 }) ∧
      Processor.housekeepingCount result = .ok 0 := by
  simp only [releaseStale, now, Clock.read]
  split
  next e cut =>
    refine ⟨_, rfl, ?_⟩
    cases e with
    | abort m => exact absurd cut (returns m)
    | _ => rfl
  next c _ =>
    have none : ∀ y ∈ s.outbox.rows, Outbox.staleClaim c y = false := by
      intro y mem
      simp [Outbox.staleClaim, noClaims y mem]
    refine ⟨.ok (s.outbox.release c).1, ?_, ?_⟩
    · simp only [Outbox.release, Prod.mk.injEq, true_and]
      rw [Outbox.map_fixing fun y mem => by simp [none y mem]]
    · simpa [Outbox.release, Processor.housekeepingCount] using none

/-- When the requeue's guard passes over every row at every cutoff, requeueing reads the
clock, changes nothing and counts nothing, when its cutoff does not abort. -/
theorem requeueDue_passes {maxRetry : Int}
    (passes : ∀ c, ∀ y ∈ s.outbox.rows, Outbox.dueForRetry maxRetry c y = false)
    (returns : ∀ m, Outbox.cutoff s.clock.next span ≠ .error (.abort m)) :
    ∃ result, s.requeueDue maxRetry span = (result, { s with clock := s.clock.read.2 }) ∧
      Processor.housekeepingCount result = .ok 0 := by
  simp only [requeueDue, now, Clock.read]
  split
  next e cut =>
    refine ⟨_, rfl, ?_⟩
    cases e with
    | abort m => exact absurd cut (returns m)
    | _ => rfl
  next c _ =>
    refine ⟨.ok (s.outbox.requeue maxRetry c).1, ?_, ?_⟩
    · simp only [Outbox.requeue, Prod.mk.injEq, true_and]
      rw [Outbox.map_fixing fun y mem => by simp [passes c y mem]]
    · simpa [Outbox.requeue, Processor.housekeepingCount] using passes c

/-- With no failed rows, requeueing reads the clock, changes nothing and counts nothing,
when its cutoff does not abort. -/
theorem requeueDue_quiet {maxRetry : Int}
    (noFailed : ∀ y ∈ s.outbox.rows, y.status ≠ OutboxStatus.failed.tag)
    (returns : ∀ m, Outbox.cutoff s.clock.next span ≠ .error (.abort m)) :
    ∃ result, s.requeueDue maxRetry span = (result, { s with clock := s.clock.read.2 }) ∧
      Processor.housekeepingCount result = .ok 0 :=
  requeueDue_passes (fun _ y mem => by simp [Outbox.dueForRetry, noFailed y mem]) returns

end Stores

/-! ## One cycle on a backlog -/

/-- Records read from rows carry the rows' ids and creation times. -/
theorem Outbox.records_keys {rows : List OutboxRow} {records : List OutboxRecord}
    (read : List.Forall₂ (fun y x => y.toRecord = .ok x) rows records) :
    records.map (fun x => (x.id, x.createdAt)) = rows.map (fun y => (y.id, y.createdAt)) := by
  induction read with
  | nil => rfl
  | cons first _ rest =>
    obtain ⟨sameId, sameTime⟩ := OutboxRow.toRecord_ok first
    simp [rest, sameId, sameTime]

/-- Records read from rows in order keep the order. -/
theorem Outbox.records_ordered {rows : List OutboxRow} {records : List OutboxRecord}
    (ordered : rows.Pairwise fun a b => a.id < b.id ∧ b.createdAt.before a.createdAt = false)
    (read : List.Forall₂ (fun y x => y.toRecord = .ok x) rows records) :
    records.Pairwise fun a b => a.id < b.id ∧ b.createdAt.before a.createdAt = false := by
  have keyed : (rows.map fun y => (y.id, y.createdAt)).Pairwise
      fun p q : Int × Instant => p.1 < q.1 ∧ q.2.before p.2 = false :=
    List.pairwise_map.mpr ordered
  rw [← Outbox.records_keys read] at keyed
  exact List.pairwise_map.mp keyed

namespace Processor

/-- A cycle on stores whose outbox is completed rows followed by a backlog, when its
housekeeping returns and replicating the next batch does not fail: it takes the
backlog's first `b` records, completes them in order, counts them as fetched and
completed, and leaves the replica as replicating them in turn does. -/
theorem cycle_drains {opts : OutboxOptions} {s : Stores} {done todo : List OutboxRow}
    {records : List OutboxRecord} {replica' : Replica}
    (rows : s.outbox.rows = done ++ todo) (distinct : (s.outbox.rows.map OutboxRow.id).Nodup)
    (finished : ∀ y ∈ done, y.status = OutboxStatus.completed.tag) (backlog : Outbox.Backlog todo)
    (read : List.Forall₂ (fun y x => y.toRecord = .ok x) todo records)
    (fits : opts.batchSize ≤ Outbox.maxLimit)
    (housekeeping : ∀ t : Instant, s.clock.next.seconds ≤ t.seconds → opts.HousekeepingReturns t)
    (replicated : s.replica.replicateAll (records.take opts.batchSize) = .ok replica') :
    (cycle opts s).1 = .ok { fetched := min opts.batchSize todo.length,
                             completed := min opts.batchSize todo.length } ∧
      (∃ done', (cycle opts s).2.outbox.rows = done ++ done' ++ todo.drop opts.batchSize ∧
        List.Forall₂ OutboxRow.CompletedFrom (todo.take opts.batchSize) done') ∧
      (cycle opts s).2.replica = replica' ∧
      s.clock.next.seconds ≤ (cycle opts s).2.clock.next.seconds := by
  have pendingRows : ∀ y ∈ todo, y.status = OutboxStatus.pending.tag :=
    fun y mem => (backlog.fresh y mem).pending
  have settled : ∀ y ∈ s.outbox.rows, y.status = OutboxStatus.completed.tag ∨
      y.status = OutboxStatus.pending.tag := by
    intro y mem
    rw [rows, List.mem_append] at mem
    exact mem.imp (finished y) (pendingRows y)
  -- housekeeping finds no claims and no failures, and only reads the clock twice
  have noClaims : ∀ y ∈ s.outbox.rows, y.status ≠ OutboxStatus.processing.tag := by
    intro y mem
    rcases settled y mem with status | status <;> simp [status]
  have noFailed : ∀ y ∈ ({ s with clock := s.clock.read.2 } : Stores).outbox.rows,
      y.status ≠ OutboxStatus.failed.tag := by
    intro y mem
    rcases settled y mem with status | status <;> simp [status]
  obtain ⟨released, releasedEq, releasedCount⟩ :=
    Stores.releaseStale_quiet noClaims (housekeeping _ (Int.le_refl _)).1
  obtain ⟨requeued, requeuedEq, requeuedCount⟩ :=
    @Stores.requeueDue_quiet _ _ opts.maxRetryCount noFailed
      (housekeeping _ (Clock.seconds_le_read s.clock)).2
  -- the batch is the backlog's first records, already in processing order
  have batchRead : s.outbox.pending opts.batchSize = .ok (records.take opts.batchSize) :=
    Outbox.pending_backlog rows finished backlog read fits
  have sorted : (records.take opts.batchSize).mergeSort OutboxRecord.fifoBefore =
      records.take opts.batchSize :=
    OutboxRecord.fifo_sorted
      ((Outbox.records_ordered backlog.ordered read).sublist (List.take_sublist _ _))
  obtain ⟨counted, completes, replicaDone⟩ :=
    @processAll_completes { s with clock := s.clock.read.2.read.2 }
      { released := 0, requeued := 0, fetched := (records.take opts.batchSize).length }
      done (todo.take opts.batchSize) (todo.drop opts.batchSize) _ _
      (by rw [rows, List.append_assoc, List.take_append_drop]) distinct
      (fun y mem => pendingRows y (List.mem_of_mem_take mem)) (List.forall₂_take _ read) replicated
  have later : s.clock.next.seconds ≤ s.clock.read.2.read.2.next.seconds :=
    Int.le_trans (Clock.seconds_le_read _) (Clock.seconds_le_read _)
  have fetched : (records.take opts.batchSize).length = min opts.batchSize todo.length := by
    rw [List.length_take, read.length_eq]
  simp only [cycle, releasedEq, releasedCount, requeuedEq, requeuedCount, batchRead, sorted]
  refine ⟨?_, completes, replicaDone, Int.le_trans later (processAll_clock _ _ _)⟩
  rw [counted, fetched, Nat.zero_add]

end Processor

/-! ## Consecutive cycles -/

namespace OutboxRow

variable {batch done : List OutboxRow}

theorem completedFrom_origins (completes : List.Forall₂ CompletedFrom batch done) :
    done.map origin = batch.map origin := by
  induction completes with
  | nil => rfl
  | cons first _ rest => simp [rest, first.1]

theorem completedFrom_ids (completes : List.Forall₂ CompletedFrom batch done) :
    done.map OutboxRow.id = batch.map OutboxRow.id :=
  calc done.map OutboxRow.id = (done.map origin).map RowOrigin.id := by rw [List.map_map]; rfl
    _ = (batch.map origin).map RowOrigin.id := by rw [completedFrom_origins completes]
    _ = batch.map OutboxRow.id := by rw [List.map_map]; rfl

/-- Every row of a completed batch is completed, with its completion time and the retry
count of the row it completes. -/
theorem completedFrom_mem (completes : List.Forall₂ CompletedFrom batch done) :
    ∀ y' ∈ done, ∃ y ∈ batch, y'.status = OutboxStatus.completed.tag ∧ y'.processedAt.isSome ∧
      y'.retryCount = y.retryCount := by
  induction completes with
  | nil => simp
  | @cons y y' _ _ first _ rest =>
    intro z mem
    rcases List.mem_cons.mp mem with here | there
    · exact ⟨y, by simp, here ▸ first.2⟩
    · obtain ⟨x, mem, facts⟩ := rest z there
      exact ⟨x, List.mem_cons_of_mem _ mem, facts⟩

end OutboxRow

namespace Processor

/-- Run `k` cycles one after another: each cycle's result, and the stores after the last. -/
def cycles (opts : OutboxOptions) : Nat → Stores → List (Except Fault CycleReport) × Stores
  | 0, s => ([], s)
  | k + 1, s =>
    let (result, s) := cycle opts s
    let (results, s) := cycles opts k s
    (result :: results, s)

theorem cycles_succ (opts : OutboxOptions) (k : Nat) (s : Stores) :
    cycles opts (k + 1) s = ((cycle opts s).1 :: (cycles opts k (cycle opts s).2).1,
      (cycles opts k (cycle opts s).2).2) := rfl

/-- Cycles on completed rows followed by a backlog of at most `k` batches: cycle `i`
takes and completes the `i`-th batch, and the replica ends as replicating every record
of the backlog in turn leaves it. -/
theorem cycles_drain {opts : OutboxOptions} {k : Nat} {s : Stores} {done todo : List OutboxRow}
    {records : List OutboxRecord} {replica' : Replica}
    (rows : s.outbox.rows = done ++ todo) (distinct : (s.outbox.rows.map OutboxRow.id).Nodup)
    (finished : ∀ y ∈ done, y.status = OutboxStatus.completed.tag) (backlog : Outbox.Backlog todo)
    (read : List.Forall₂ (fun y x => y.toRecord = .ok x) todo records)
    (fits : opts.batchSize ≤ Outbox.maxLimit) (enough : todo.length ≤ k * opts.batchSize)
    (housekeeping : ∀ t : Instant, s.clock.next.seconds ≤ t.seconds → opts.HousekeepingReturns t)
    (replicated : s.replica.replicateAll records = .ok replica') :
    (cycles opts k s).1 = (List.range k).map (fun i =>
        .ok { fetched := min opts.batchSize (todo.length - i * opts.batchSize),
              completed := min opts.batchSize (todo.length - i * opts.batchSize) }) ∧
      (∃ done', (cycles opts k s).2.outbox.rows = done ++ done' ∧
        List.Forall₂ OutboxRow.CompletedFrom todo done') ∧
      (cycles opts k s).2.replica = replica' := by
  induction k generalizing s done todo records with
  | zero =>
    -- no cycle is left, so the backlog was already empty
    have empty : todo = [] := List.eq_nil_of_length_eq_zero (by simpa using enough)
    subst empty
    cases read
    simp only [Replica.replicateAll, Except.ok.injEq] at replicated
    exact ⟨rfl, ⟨[], by simpa [cycles] using rows, .nil⟩, replicated⟩
  | succ k induction =>
    -- the first cycle takes the first batch; the others drain the rest
    rw [← List.take_append_drop opts.batchSize records] at replicated
    obtain ⟨replica₁, firstBatch, rest⟩ := Replica.replicateAll_append_ok replicated
    obtain ⟨reported, ⟨done₁, rows₁, completes⟩, replica₁, later⟩ :=
      cycle_drains rows distinct finished backlog read fits housekeeping firstBatch
    have distinct₁ : ((cycle opts s).2.outbox.rows.map OutboxRow.id).Nodup := by
      rw [rows₁, List.map_append, List.map_append, OutboxRow.completedFrom_ids completes,
        ← List.map_append, ← List.map_append, List.append_assoc, List.take_append_drop, ← rows]
      exact distinct
    have finished₁ : ∀ y ∈ done ++ done₁, y.status = OutboxStatus.completed.tag := by
      intro y mem
      rcases List.mem_append.mp mem with old | new
      · exact finished y old
      · obtain ⟨_, _, completed, _⟩ := OutboxRow.completedFrom_mem completes y new
        exact completed
    have enough₁ : (todo.drop opts.batchSize).length ≤ k * opts.batchSize := by
      rw [List.length_drop]
      rw [Nat.succ_mul] at enough
      omega
    obtain ⟨counts, ⟨done₂, rows₂, completes₂⟩, replica₂⟩ :=
      @induction (cycle opts s).2 (done ++ done₁) (todo.drop opts.batchSize)
        (records.drop opts.batchSize) rows₁ distinct₁ finished₁
        (backlog.sublist (List.drop_sublist _ _)) (List.forall₂_drop _ read) enough₁
        (fun t late => housekeeping t (Int.le_trans later late)) (by rw [replica₁]; exact rest)
    refine ⟨?_, ⟨done₁ ++ done₂, ?_, ?_⟩, replica₂⟩
    · -- cycle i + 1 of the run is cycle i of the rest
      have shifted : ∀ i, (todo.drop opts.batchSize).length - i * opts.batchSize =
          todo.length - (i + 1) * opts.batchSize := by
        intro i
        rw [List.length_drop, Nat.succ_mul, Nat.sub_sub, Nat.add_comm opts.batchSize]
      rw [cycles_succ, reported, counts, List.range_succ_eq_map, List.map_cons, List.map_map]
      simp only [Function.comp_def, Nat.succ_eq_add_one, shifted, Nat.zero_mul, Nat.sub_zero]
    · rw [cycles_succ, rows₂, List.append_assoc]
    · rw [← List.take_append_drop opts.batchSize todo]
      exact List.rel_append completes completes₂

end Processor

/-- A failure-free drain of a backlog is the FIFO fold of replication.  On stores whose
outbox is a backlog of `N` records, with batches of `b` records that a query's limit
holds, housekeeping that returns, and replication of the records in creation order that
never fails: after `⌈N / b⌉` cycles cycle `i` took and completed `min b (N - i·b)`
records, the table holds the same records, each completed with its completion time and
no retry, and the replica is the fold. -/
theorem drain_is_fifo_fold {opts : OutboxOptions} {s : Stores} {records : List OutboxRecord}
    {replica' : Replica} (backlog : Outbox.Backlog s.outbox.rows)
    (batches : 1 ≤ opts.batchSize ∧ opts.batchSize ≤ Outbox.maxLimit)
    (housekeeping : ∀ t : Instant, s.clock.next.seconds ≤ t.seconds → opts.HousekeepingReturns t)
    (read : Outbox.readAll s.outbox.rows = .ok records)
    (noFailure : s.replica.replicateAll (records.mergeSort OutboxRecord.fifoBefore) = .ok replica') :
    let n := s.outbox.rows.length
    let k := (n + opts.batchSize - 1) / opts.batchSize
    (Processor.cycles opts k s).1 = (List.range k).map (fun i =>
        .ok { fetched := min opts.batchSize (n - i * opts.batchSize),
              completed := min opts.batchSize (n - i * opts.batchSize) }) ∧
      (Processor.cycles opts k s).2.outbox.rows.map OutboxRow.origin =
        s.outbox.rows.map OutboxRow.origin ∧
      (∀ y ∈ (Processor.cycles opts k s).2.outbox.rows,
        y.status = OutboxStatus.completed.tag ∧ y.processedAt.isSome ∧ y.retryCount = 0) ∧
      (Processor.cycles opts k s).2.replica = replica' := by
  intro n k
  have read := Outbox.forall₂_of_readAll read
  have sorted : records.mergeSort OutboxRecord.fifoBefore = records :=
    OutboxRecord.fifo_sorted (Outbox.records_ordered backlog.ordered read)
  have distinct : (s.outbox.rows.map OutboxRow.id).Nodup :=
    List.pairwise_map.mpr (backlog.ordered.imp fun ordered => Int.ne_of_lt ordered.1)
  -- ⌈N / b⌉ batches hold the backlog
  have enough : n ≤ k * opts.batchSize := by
    have ceil := @Nat.lt_div_mul_add (n + opts.batchSize - 1) opts.batchSize batches.1
    simp only [n, k] at ceil ⊢
    omega
  rw [sorted] at noFailure
  obtain ⟨results, ⟨done', rows, completes⟩, replica⟩ :=
    @Processor.cycles_drain opts k s [] s.outbox.rows records replica' (List.nil_append _).symm
      distinct (by simp) backlog read batches.2 enough housekeeping noFailure
  rw [List.nil_append] at rows
  refine ⟨results, ?_, ?_, replica⟩
  · rw [rows]
    exact OutboxRow.completedFrom_origins completes
  · intro y mem
    rw [rows] at mem
    obtain ⟨x, fresh, completed, processed, retries⟩ := OutboxRow.completedFrom_mem completes y mem
    exact ⟨completed, processed, retries.trans (backlog.fresh x fresh).retryCount_zero⟩

/-- A screen, a pilot enrolment and a rename of the screen, written one after another at
2024-05-01T10:00:00Z, drain in two cycles of two records: the first completes the screen
and the enrolment, the second the rename, and the replica ends with the screen renamed
and the enrolment in place. -/
theorem drain_of_a_screen_and_its_rename :
    let screen (name : String) : Json :=
      Json.object [("id", Json.int 1), ("code", .string "home"), ("name", .string name),
        ("route", .string "/"), ("status", Json.int 1), ("created_by", .string "admin"),
        ("created_at", .string "2024-05-01T10:00:00Z")]
    let enrolment : Json :=
      .array [.number (.unsigned 1), .number (.unsigned 1),
        .string "550e8400-e29b-41d4-a716-446655440000", .number (.unsigned 1),
        .string "admin", .string "2024-05-01T10:00:00Z"]
    let s := ((Stores.start ⟨1714557600, 0⟩).publish
      [⟨"ScreenDefinition", 1, .insert, screen "Home", none⟩,
       ⟨"ScreenPilot", 1, .insert, enrolment, none⟩,
       ⟨"ScreenDefinition", 1, .update, screen "Start", none⟩] false true).2
    let opts : OutboxOptions := { batchSize := 2 }
    Outbox.Backlog s.outbox.rows ∧
      (Processor.cycles opts 2 s).1 =
        [.ok { fetched := 2, completed := 2 }, .ok { fetched := 1, completed := 1 }] ∧
      (∀ y ∈ (Processor.cycles opts 2 s).2.outbox.rows,
        y.status = OutboxStatus.completed.tag ∧ y.processedAt.isSome ∧ y.retryCount = 0) ∧
      (Processor.cycles opts 2 s).2.replica.definitions.map (·.name) = ["Start"] ∧
      (Processor.cycles opts 2 s).2.replica.pilots.map (·.key) = [1] := by
  intro screen enrolment s opts
  have backlog : Outbox.Backlog s.outbox.rows := by
    apply Outbox.Backlog.of_publish
    constructor
    · decide +kernel
    · unfold Instant.Plain
      decide +kernel
  have housekeeping : ∀ t : Instant, s.clock.next.seconds ≤ t.seconds → opts.HousekeepingReturns t := by
    intro t late
    have recent : 0 ≤ t.seconds := Int.le_trans (by decide) late
    exact ⟨Outbox.cutoff_returns_of_recent recent (by decide),
      Outbox.cutoff_returns_of_recent recent (by decide)⟩
  have read : Outbox.readAll s.outbox.rows =
      .ok ((Outbox.readAll s.outbox.rows).toOption.getD []) := by rfl
  have sorted := OutboxRecord.fifo_sorted
    (Outbox.records_ordered backlog.ordered (Outbox.forall₂_of_readAll read))
  -- the replica has no equality to decide, so the fold's result is checked on its rows
  have folded : (match s.replica.replicateAll ((Outbox.readAll s.outbox.rows).toOption.getD []) with
      | .ok r => r.definitions.map (·.name) == ["Start"] && r.pilots.map (·.key) == [1]
      | .error _ => false) = true := by decide +kernel
  split at folded
  · next replica' replicated =>
    have drained := drain_is_fifo_fold backlog ⟨by decide, by decide⟩ housekeeping read
      (by rw [sorted]; exact replicated)
    -- three records in batches of two take two cycles
    have three : s.outbox.rows.length = 3 := by decide +kernel
    have size : opts.batchSize = 2 := rfl
    simp only [three, size, Nat.reduceAdd, Nat.reduceSub, Nat.reduceDiv] at drained
    obtain ⟨reported, -, completed, replica⟩ := drained
    simp only [Bool.and_eq_true, beq_iff_eq] at folded
    exact ⟨backlog, reported.trans rfl, completed, by rw [replica]; exact folded.1,
      by rw [replica]; exact folded.2⟩
  · cases folded

end OutboxReplicator
