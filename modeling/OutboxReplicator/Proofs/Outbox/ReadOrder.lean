import OutboxReplicator.Proofs.Outbox.Reads
import OutboxReplicator.Proofs.Outbox.Guards
import OutboxReplicator.Http.Router
/-!
# Reads are ordered selections

A read selects rows by status, sorts them by their stored times, compared as text, and
reads the first ones as records.  A record is stored as a row (`OutboxRecord.toRow`),
and a row reads as exactly the record stored as it (`OutboxRow.toRecord_eq_ok_iff`), so
rows that name their operation and status are records stored, field for field.

Reading then commutes with sorting whenever the order of rows agrees with an order of
records on them (`Outbox.readSelected_sorted`).  For times in years of four digits the
text orders are time orders: creation order is `OutboxRecord.fifoBefore`, and failure
order is `OutboxRecord.latestFailureFirst`.  So every read returns the first records of
its selection in time order (`reads_are_ordered_selections`), and the failed listing
over HTTP does so at its clamped limit.

Outside four-digit years the text order is not the time order: a record created in
year 10000 is stored as `+10000-…` and read before one created in 2024
(`far_future_pending_is_read_first`).
-/

namespace OutboxReplicator

theorem Operation.tag_of_ofTag? {s : String} {op : Operation} (read : Operation.ofTag? s = some op) :
    op.tag = s := by
  simpa using List.find?_some read

theorem OutboxStatus.tag_of_ofTag? {s : String} {st : OutboxStatus}
    (read : OutboxStatus.ofTag? s = some st) : st.tag = s := by
  simpa using List.find?_some read

instance Instant.decidableFourDigitYear : DecidablePred Instant.FourDigitYear :=
  fun _ => inferInstanceAs (Decidable (_ ∧ _ ∧ _))

namespace OutboxRow

/-- The order rows are processed in: by creation time, then id. -/
def fifoBefore (a b : OutboxRow) : Bool :=
  a.createdAt.before b.createdAt || (a.createdAt = b.createdAt && a.id ≤ b.id)

theorem fifoBefore_trans {a b c : OutboxRow} (ab : a.fifoBefore b = true) (bc : b.fifoBefore c = true) :
    a.fifoBefore c = true := by
  simp only [fifoBefore, Bool.or_eq_true, Bool.and_eq_true, decide_eq_true_eq] at ab bc ⊢
  rcases ab with earlier | ⟨same, ids⟩ <;> rcases bc with earlier' | ⟨same', ids'⟩
  · exact .inl (Instant.before_trans earlier earlier')
  · exact .inl (same' ▸ earlier)
  · exact .inl (same ▸ earlier')
  · exact .inr ⟨same.trans same', Int.le_trans ids ids'⟩

theorem fifoBefore_total (a b : OutboxRow) : (a.fifoBefore b || b.fifoBefore a) = true := by
  simp only [fifoBefore, Bool.or_eq_true, Bool.and_eq_true, decide_eq_true_eq]
  rcases Instant.before_trichotomy a.createdAt b.createdAt with earlier | same | later
  · exact .inl (.inl earlier)
  · rcases Int.le_total a.id b.id with ids | ids
    · exact .inl (.inr ⟨same, ids⟩)
    · exact .inr (.inr ⟨same.symm, ids⟩)
  · exact .inr (.inl later)

end OutboxRow

/-- For creation times in years of four digits, creation order as stored is creation
time order. -/
theorem Outbox.createdOrder_eq_fifoBefore {a b : OutboxRow} (ha : a.createdAt.FourDigitYear)
    (hb : b.createdAt.FourDigitYear) : Outbox.createdOrder a b = a.fifoBefore b := by
  rw [Outbox.createdOrder, OutboxRow.fifoBefore, Bool.eq_iff_iff]
  simp [Instant.storedText_lt_iff ha hb, Instant.storedText_eq_iff ha hb]

namespace OutboxRecord

/-- The row a record is stored as, its operation and status as their tags. -/
def toRow (x : OutboxRecord) : OutboxRow :=
  { id := x.id, entityType := x.entityType, entityId := x.entityId, operation := x.operation.tag,
    payload := x.payload, status := x.status.tag, retryCount := x.retryCount, error := x.error,
    createdAt := x.createdAt, processedAt := x.processedAt, correlationId := x.correlationId,
    claimedAt := x.claimedAt, failedAt := x.failedAt }

@[simp] theorem toRow_toRecord (x : OutboxRecord) : x.toRow.toRecord = .ok x := by
  simp [toRow, OutboxRow.toRecord]

/-- The order of the failed listing by time: latest failure first, records without one
last, then highest id first. -/
def latestFailureFirst (a b : OutboxRecord) : Bool :=
  match a.failedAt, b.failedAt with
  | some x, some y => y.before x || (x = y && b.id ≤ a.id)
  | some _, none => true
  | none, some _ => false
  | none, none => b.id ≤ a.id

variable {x y : OutboxRecord}

/-- Records are processed in the order of the rows they are stored as. -/
theorem fifoBefore_eq_createdOrder (hx : x.createdAt.FourDigitYear) (hy : y.createdAt.FourDigitYear) :
    x.fifoBefore y = Outbox.createdOrder x.toRow y.toRow :=
  (Outbox.createdOrder_eq_fifoBefore (show x.toRow.createdAt.FourDigitYear from hx)
    (show y.toRow.createdAt.FourDigitYear from hy)).symm

/-- For failure times in years of four digits, failure order as stored is failure time
order. -/
theorem latestFailureFirst_eq_failedOrder (hx : ∀ t, x.failedAt = some t → t.FourDigitYear)
    (hy : ∀ t, y.failedAt = some t → t.FourDigitYear) :
    x.latestFailureFirst y = Outbox.failedOrder x.toRow y.toRow := by
  show x.latestFailureFirst y = match x.failedAt, y.failedAt with
    | some s, some t => t.storedText < s.storedText || (s.storedText == t.storedText && y.id ≤ x.id)
    | some _, none => true
    | none, some _ => false
    | none, none => y.id ≤ x.id
  unfold latestFailureFirst
  cases fx : x.failedAt with
  | none => cases y.failedAt <;> rfl
  | some s =>
    cases fy : y.failedAt with
    | none => rfl
    | some t =>
      have hs := hx s fx
      have ht := hy t fy
      rw [Bool.eq_iff_iff]
      simp [Instant.storedText_lt_iff ht hs, Instant.storedText_eq_iff hs ht]

end OutboxRecord

namespace OutboxRow

/-- A row reads as a record exactly when the record is stored as the row. -/
theorem toRecord_eq_ok_iff {y : OutboxRow} {x : OutboxRecord} : y.toRecord = .ok x ↔ x.toRow = y := by
  constructor
  · intro read
    unfold toRecord at read
    split at read
    · cases read
    · next op knownOp =>
      split at read
      · cases read
      · next st knownSt =>
        cases read
        simp [OutboxRecord.toRow, Operation.tag_of_ofTag? knownOp, OutboxStatus.tag_of_ofTag? knownSt]
  · rintro rfl
    exact x.toRow_toRecord

/-- A row whose tags name an operation and a status is a record stored. -/
theorem stored_of_tags {y : OutboxRow} {op : Operation} {st : OutboxStatus}
    (opTag : y.operation = op.tag) (stTag : y.status = st.tag) : ∃ x : OutboxRecord, x.toRow = y := by
  have reads : ∃ x, y.toRecord = .ok x := by
    unfold toRecord
    simp only [opTag, stTag, Operation.ofTag?_tag, OutboxStatus.ofTag?_tag]
    exact ⟨_, rfl⟩
  obtain ⟨x, read⟩ := reads
  exact ⟨x, toRecord_eq_ok_iff.mp read⟩

/-- A row reads back when its retry count is one the column holds. -/
theorem unreadable_eq_none {y : OutboxRow}
    (count : Outbox.retryCountRange.1 ≤ y.retryCount ∧ y.retryCount ≤ Outbox.retryCountRange.2) :
    Outbox.unreadable y = none := by
  simp only [Outbox.unreadable, if_neg (Int.not_lt.mpr count.2), if_neg (Int.not_lt.mpr count.1)]

end OutboxRow

namespace Outbox

/-- Reading the rows records are stored as gives back the records. -/
theorem readAll_toRow (records : List OutboxRecord) : readAll (records.map OutboxRecord.toRow) = .ok records := by
  induction records with
  | nil => rfl
  | cons x records induction =>
    simp only [readAll, List.map_cons, List.mapM_cons, OutboxRecord.toRow_toRecord] at induction ⊢
    rw [induction]
    rfl

/-- Rows read as records exactly when they are the rows the records are stored as. -/
theorem readAll_eq_ok_iff {rows : List OutboxRow} {records : List OutboxRecord} :
    readAll rows = .ok records ↔ records.map OutboxRecord.toRow = rows := by
  constructor
  · intro read
    induction forall₂_of_readAll read with
    | nil => rfl
    | cons first _ induction =>
      rw [List.map_cons, OutboxRow.toRecord_eq_ok_iff.mp first, induction (readAll_of_forall₂ ‹_›)]
  · rintro rfl
    exact readAll_toRow records

/-- Rows whose tags all name an operation and a status are records stored. -/
theorem exists_stored {rows : List OutboxRow}
    (tags : ∀ y ∈ rows, ∃ (op : Operation) (st : OutboxStatus), y.operation = op.tag ∧ y.status = st.tag) :
    ∃ records : List OutboxRecord, records.map OutboxRecord.toRow = rows := by
  induction rows with
  | nil => exact ⟨[], rfl⟩
  | cons y rows induction =>
    obtain ⟨op, st, opTag, stTag⟩ := tags y List.mem_cons_self
    obtain ⟨x, stored⟩ := OutboxRow.stored_of_tags opTag stTag
    obtain ⟨records, storedAll⟩ := induction fun z mem => tags z (List.mem_cons_of_mem y mem)
    exact ⟨x :: records, by rw [List.map_cons, stored, storedAll]⟩

variable {rows : List OutboxRow}

/-- A read of rows that all read back checks nothing more than their tags. -/
theorem readSelected_readable {context : String}
    (counts : ∀ y ∈ rows, retryCountRange.1 ≤ y.retryCount ∧ y.retryCount ≤ retryCountRange.2) :
    readSelected context rows = readAll rows := by
  have readable : rows.findSome? unreadable = none :=
    List.findSome?_eq_none_iff.mpr fun y mem => OutboxRow.unreadable_eq_none (counts y mem)
  simp only [readSelected, readable, Option.isSome_none, Bool.false_eq_true, if_false]

/-- A read of the first rows of a sorted selection, of rows that name their tags and hold
retry counts the column holds, returns the first of the records stored, sorted by any
order of records that agrees with the order of rows on them. -/
theorem readSelected_sorted (context : String) {le : OutboxRow → OutboxRow → Bool}
    {le' : OutboxRecord → OutboxRecord → Bool}
    (tags : ∀ y ∈ rows, ∃ (op : Operation) (st : OutboxStatus), y.operation = op.tag ∧ y.status = st.tag)
    (counts : ∀ y ∈ rows, retryCountRange.1 ≤ y.retryCount ∧ y.retryCount ≤ retryCountRange.2)
    (agree : ∀ x : OutboxRecord, x.toRow ∈ rows → ∀ x' : OutboxRecord, x'.toRow ∈ rows →
      le' x x' = le x.toRow x'.toRow) :
    ∃ records : List OutboxRecord, records.map OutboxRecord.toRow = rows ∧
      ∀ n, readSelected context ((rows.mergeSort le).take n) = .ok ((records.mergeSort le').take n) := by
  obtain ⟨records, stored⟩ := exists_stored tags
  refine ⟨records, stored, fun n => ?_⟩
  have sorted : (records.mergeSort le').map OutboxRecord.toRow = rows.mergeSort le := by
    rw [← stored]
    exact List.map_mergeSort fun x mem x' mem' =>
      agree x (stored ▸ List.mem_map_of_mem mem) x' (stored ▸ List.mem_map_of_mem mem')
  have taken : ∀ y ∈ (rows.mergeSort le).take n, y ∈ rows :=
    fun y mem => List.mem_mergeSort.mp (List.mem_of_mem_take mem)
  rw [readSelected_readable fun y mem => counts y (taken y mem), ← sorted, ← List.map_take,
    readAll_toRow]

theorem limited_of_le {α : Type} {limit : Nat} (fits : limit ≤ maxLimit) (read : Except Failure α) :
    limited limit read = read.mapError .failure :=
  if_neg (Nat.not_lt.mpr fits)

theorem limited_of_lt {α : Type} {limit : Nat} (beyond : maxLimit < limit) (read : Except Failure α) :
    limited limit read = .error (.abort limitAbort) :=
  if_pos beyond

end Outbox

namespace HttpResponse

/-- A GET of the failed listing whose query reads lists the failed records at the limit
given, or 50, held between 1 and 500. -/
theorem get_failed (opts : OutboxOptions) (o : Outbox) {target : RequestTarget} {limit : Option Nat}
    (path : target.path = "/outbox/failed") (query : Query.limit (target.query.getD "") = .ok limit) :
    get opts o target = match o.failedRecords (min (max (limit.getD 50) 1) 500) with
      | .ok rs => ⟨200, .records rs⟩
      | .error f => ⟨f.httpStatus, .json f.body⟩ := by
  unfold get
  simp only [path, query]
  rw [if_neg (by decide), if_neg (by decide), if_neg (by decide), if_pos (by decide)]
  rfl

end HttpResponse

/-! ## The reads -/

namespace Outbox

variable {o : Outbox}

section

variable (tags : ∀ y ∈ o.rows, ∃ op : Operation, y.operation = op.tag)
  (counts : ∀ y ∈ o.rows, retryCountRange.1 ≤ y.retryCount ∧ y.retryCount ≤ retryCountRange.2)

include tags counts

/-- A selection of rows of one status, of a table whose rows name operations and hold
retry counts the column holds, is records stored; its sorted read returns the first of
them in any order of records that agrees with the order of rows on the table. -/
theorem selection_ordered (context : String) (p : OutboxRow → Bool) (st : OutboxStatus)
    (status : ∀ y, p y = true → y.status = st.tag) {le : OutboxRow → OutboxRow → Bool}
    {le' : OutboxRecord → OutboxRecord → Bool}
    (agree : ∀ x : OutboxRecord, x.toRow ∈ o.rows → ∀ x' : OutboxRecord, x'.toRow ∈ o.rows →
      le' x x' = le x.toRow x'.toRow) :
    ∃ records : List OutboxRecord, records.map OutboxRecord.toRow = o.rows.filter p ∧
      ∀ n, readSelected context (((o.rows.filter p).mergeSort le).take n) =
        .ok ((records.mergeSort le').take n) := by
  have inTable : ∀ y ∈ o.rows.filter p, y ∈ o.rows := fun y mem => (List.mem_filter.mp mem).1
  refine readSelected_sorted context (fun y mem => ?_) (fun y mem => counts y (inTable y mem))
    (fun x mem x' mem' => agree x (inTable _ mem) x' (inTable _ mem'))
  obtain ⟨found, keeps⟩ := List.mem_filter.mp mem
  obtain ⟨op, opTag⟩ := tags y found
  exact ⟨op, st, opTag, status y keeps⟩

/-- The pending read returns the first pending records by creation time, then id. -/
theorem pending_ordered (created : ∀ y ∈ o.rows, y.createdAt.FourDigitYear) :
    ∃ records : List OutboxRecord,
      records.map OutboxRecord.toRow = o.rows.filter (·.status == OutboxStatus.pending.tag) ∧
        ∀ b ≤ maxLimit, o.pending b = .ok ((records.mergeSort OutboxRecord.fifoBefore).take b) := by
  obtain ⟨records, stored, sorted⟩ := selection_ordered tags counts "fetch pending outbox records"
    (·.status == OutboxStatus.pending.tag) .pending (by simp) fun x mem x' mem' =>
      OutboxRecord.fifoBefore_eq_createdOrder (created x.toRow mem) (created x'.toRow mem')
  refine ⟨records, stored, fun b fits => ?_⟩
  rw [pending, limited_of_le fits, sorted]
  rfl

/-- The retryable read returns the first failed records with retries left by creation
time, then id. -/
theorem retryable_ordered (created : ∀ y ∈ o.rows, y.createdAt.FourDigitYear) (maxRetry : Int) :
    ∃ records : List OutboxRecord,
      records.map OutboxRecord.toRow =
          o.rows.filter (fun y => y.status == OutboxStatus.failed.tag && y.retryCount < maxRetry) ∧
        ∀ b ≤ maxLimit, o.retryable maxRetry b = .ok ((records.mergeSort OutboxRecord.fifoBefore).take b) := by
  obtain ⟨records, stored, sorted⟩ := selection_ordered tags counts "fetch retryable outbox records"
    (fun y => y.status == OutboxStatus.failed.tag && y.retryCount < maxRetry) .failed
    (by simp +contextual) fun x mem x' mem' =>
      OutboxRecord.fifoBefore_eq_createdOrder (created x.toRow mem) (created x'.toRow mem')
  refine ⟨records, stored, fun b fits => ?_⟩
  rw [retryable, limited_of_le fits, sorted]
  rfl

/-- The listing of failed records returns the first of them by failure time, latest
first and those without one last, then highest id first, and so does a GET of
`/outbox/failed` at its clamped limit. -/
theorem failedListing_ordered (failed : ∀ y ∈ o.rows, ∀ t, y.failedAt = some t → t.FourDigitYear)
    (opts : OutboxOptions) :
    ∃ records : List OutboxRecord,
      records.map OutboxRecord.toRow = o.rows.filter (·.status == OutboxStatus.failed.tag) ∧
        (∀ l ≤ maxLimit,
          o.failedListing l = .ok ((records.mergeSort OutboxRecord.latestFailureFirst).take l)) ∧
        ∀ (target : RequestTarget) (limit : Option Nat), target.path = "/outbox/failed" →
          Query.limit (target.query.getD "") = .ok limit →
          HttpResponse.get opts o target = ⟨200, .records ((records.mergeSort
            OutboxRecord.latestFailureFirst).take (min (max (limit.getD 50) 1) 500))⟩ := by
  obtain ⟨records, stored, sorted⟩ := selection_ordered tags counts "list failed outbox records"
    (·.status == OutboxStatus.failed.tag) .failed (by simp) fun x mem x' mem' =>
      OutboxRecord.latestFailureFirst_eq_failedOrder (failed x.toRow mem) (failed x'.toRow mem')
  refine ⟨records, stored, fun l fits => ?_, fun target limit path query => ?_⟩
  · rw [failedListing, limited_of_le fits, failedRecords, sorted]
    rfl
  · rw [HttpResponse.get_failed opts o path query, failedRecords, sorted]

end

end Outbox

/-- The reads of a table whose rows name operations, hold retry counts the column holds
and carry creation and failure times in years of four digits.  The rows of each
selection are records stored, and

* the pending read returns the first pending records by creation time, then id, and
  the retryable read the first failed records with retries left in that order;
* the failed listing returns the first failed records, latest failure first, those
  without a failure time last, then highest id first;
* each at a limit up to `maxLimit`, the largest a query parameter holds; a larger limit
  aborts;
* a GET of `/outbox/failed` whose query reads answers 200 with the listing at the limit
  given, or 50, held between 1 and 500. -/
theorem reads_are_ordered_selections (opts : OutboxOptions) (o : Outbox) (maxRetry : Int)
    (tags : ∀ y ∈ o.rows, ∃ op : Operation, y.operation = op.tag)
    (counts : ∀ y ∈ o.rows, Outbox.retryCountRange.1 ≤ y.retryCount ∧ y.retryCount ≤ Outbox.retryCountRange.2)
    (created : ∀ y ∈ o.rows, y.createdAt.FourDigitYear)
    (failed : ∀ y ∈ o.rows, ∀ t, y.failedAt = some t → t.FourDigitYear) :
    (∃ records : List OutboxRecord,
      records.map OutboxRecord.toRow = o.rows.filter (·.status == OutboxStatus.pending.tag) ∧
        ∀ b ≤ Outbox.maxLimit, o.pending b = .ok ((records.mergeSort OutboxRecord.fifoBefore).take b)) ∧
    (∃ records : List OutboxRecord,
      records.map OutboxRecord.toRow =
          o.rows.filter (fun y => y.status == OutboxStatus.failed.tag && y.retryCount < maxRetry) ∧
        ∀ b ≤ Outbox.maxLimit, o.retryable maxRetry b = .ok ((records.mergeSort OutboxRecord.fifoBefore).take b)) ∧
    (∃ records : List OutboxRecord,
      records.map OutboxRecord.toRow = o.rows.filter (·.status == OutboxStatus.failed.tag) ∧
        (∀ l ≤ Outbox.maxLimit,
          o.failedListing l = .ok ((records.mergeSort OutboxRecord.latestFailureFirst).take l)) ∧
        ∀ (target : RequestTarget) (limit : Option Nat), target.path = "/outbox/failed" →
          Query.limit (target.query.getD "") = .ok limit →
          HttpResponse.get opts o target = ⟨200, .records ((records.mergeSort
            OutboxRecord.latestFailureFirst).take (min (max (limit.getD 50) 1) 500))⟩) ∧
    (∀ b, Outbox.maxLimit < b → o.pending b = .error (.abort Outbox.limitAbort) ∧
      o.retryable maxRetry b = .error (.abort Outbox.limitAbort) ∧
      o.failedListing b = .error (.abort Outbox.limitAbort)) :=
  ⟨Outbox.pending_ordered tags counts created, Outbox.retryable_ordered tags counts created maxRetry,
    Outbox.failedListing_ordered tags counts failed opts,
    fun _ beyond => ⟨Outbox.limited_of_lt beyond _, Outbox.limited_of_lt beyond _,
      Outbox.limited_of_lt beyond _⟩⟩

/-- A table whose pending rows are records stored, stand in stored creation order and
hold retry counts the column holds reads its first pending records in table order. -/
theorem Outbox.pending_of_sorted {o : Outbox} {records : List OutboxRecord} {b : Nat}
    (stored : records.map OutboxRecord.toRow = o.rows.filter (·.status == OutboxStatus.pending.tag))
    (sorted : (o.rows.filter (·.status == OutboxStatus.pending.tag)).Pairwise
      fun a a' => Outbox.createdOrder a a' = true)
    (counts : ∀ y ∈ o.rows, Outbox.retryCountRange.1 ≤ y.retryCount ∧ y.retryCount ≤ Outbox.retryCountRange.2)
    (fits : b ≤ Outbox.maxLimit) :
    o.pending b = .ok (records.take b) := by
  have inTable : ∀ y ∈ (records.take b).map OutboxRecord.toRow, y ∈ o.rows := by
    intro y mem
    obtain ⟨x, taken, rfl⟩ := List.mem_map.mp mem
    have storedX : x.toRow ∈ records.map OutboxRecord.toRow :=
      List.mem_map_of_mem (List.mem_of_mem_take taken)
    rw [stored] at storedX
    exact (List.mem_filter.mp storedX).1
  rw [Outbox.pending, Outbox.limited_of_le fits, List.mergeSort_of_pairwise sorted, ← stored,
    ← List.map_take, Outbox.readSelected_readable fun y mem => counts y (inTable y mem),
    Outbox.readAll_toRow]
  rfl

/-- A table of a pending record and a failed one, in 2024, meets the conditions of the
reads, so its pending read is the ordered selection. -/
theorem reads_of_a_pending_and_a_failed_record :
    let waiting : OutboxRow := ⟨1, "ScreenPilot", 1, "Insert", .obj [], "Pending", 0, none,
      ⟨1704067200, 0⟩, none, none, none, none⟩
    let failing : OutboxRow := ⟨2, "ScreenPilot", 2, "Delete", .obj [], "Failed", 1, some "boom",
      ⟨1704067200, 0⟩, none, none, none, some ⟨1704070800, 0⟩⟩
    let o : Outbox := ⟨[waiting, failing], 2⟩
    (∀ y ∈ o.rows, ∃ op : Operation, y.operation = op.tag) ∧
      (∀ y ∈ o.rows, Outbox.retryCountRange.1 ≤ y.retryCount ∧ y.retryCount ≤ Outbox.retryCountRange.2) ∧
      (∀ y ∈ o.rows, y.createdAt.FourDigitYear) ∧
      (∀ y ∈ o.rows, ∀ t, y.failedAt = some t → t.FourDigitYear) ∧
      ∃ records : List OutboxRecord,
        records.map OutboxRecord.toRow = o.rows.filter (·.status == OutboxStatus.pending.tag) ∧
          ∀ b ≤ Outbox.maxLimit, o.pending b = .ok ((records.mergeSort OutboxRecord.fifoBefore).take b) := by
  intro waiting failing o
  have tags : ∀ y ∈ o.rows, ∃ op : Operation, y.operation = op.tag := by
    intro y mem
    rcases List.mem_pair.mp mem with rfl | rfl
    · exact ⟨.insert, rfl⟩
    · exact ⟨.delete, rfl⟩
  have counts : ∀ y ∈ o.rows, Outbox.retryCountRange.1 ≤ y.retryCount ∧
      y.retryCount ≤ Outbox.retryCountRange.2 := by decide
  have created : ∀ y ∈ o.rows, y.createdAt.FourDigitYear := by decide
  have failed : ∀ y ∈ o.rows, ∀ t, y.failedAt = some t → t.FourDigitYear := by
    intro y mem t failedAt
    rcases List.mem_pair.mp mem with rfl | rfl
    · cases failedAt
    · cases failedAt
      decide
  exact ⟨tags, counts, created, failed,
    (reads_are_ordered_selections {} o 5 tags counts created failed).1⟩

/-- A pending pilot record created at 10000-01-01T00:00:00Z and one created at
2024-01-01T00:00:00Z: the second is the earlier, yet a pending read of one record returns
the first, whose stored creation time starts with `+`. -/
theorem far_future_pending_is_read_first :
    let late : OutboxRow := ⟨1, "ScreenPilot", 1, "Insert", .obj [], "Pending", 0, none,
      ⟨253402300800, 0⟩, none, none, none, none⟩
    let early : OutboxRow := ⟨2, "ScreenPilot", 2, "Insert", .obj [], "Pending", 0, none,
      ⟨1704067200, 0⟩, none, none, none, none⟩
    let o : Outbox := ⟨[late, early], 2⟩
    early.createdAt.before late.createdAt = true ∧
      ∃ x : OutboxRecord, o.pending 1 = .ok [x] ∧ x.toRow = late := by
  intro late early o
  have lateYear : 9999 < late.createdAt.date.year := by decide
  have earlyYear : 0 ≤ early.createdAt.date.year ∧ early.createdAt.date.year ≤ 9999 := by decide
  -- the late record's text sorts first, so the pending rows are sorted as they stand
  have textFirst := Instant.storedText_lt_of_year_large lateYear earlyYear
  have sorted : [late, early].Pairwise fun a a' => Outbox.createdOrder a a' = true :=
    List.pairwise_pair.mpr (by simp only [Outbox.createdOrder, decide_eq_true textFirst, Bool.true_or])
  obtain ⟨x, storedLate⟩ := OutboxRow.stored_of_tags (show late.operation = Operation.insert.tag from rfl)
    (show late.status = OutboxStatus.pending.tag from rfl)
  obtain ⟨x', storedEarly⟩ := OutboxRow.stored_of_tags
    (show early.operation = Operation.insert.tag from rfl) (show early.status = OutboxStatus.pending.tag from rfl)
  have stored : [x, x'].map OutboxRecord.toRow = o.rows.filter (·.status == OutboxStatus.pending.tag) := by
    rw [List.map_cons, List.map_cons, List.map_nil, storedLate, storedEarly]
    rfl
  exact ⟨by decide, x, Outbox.pending_of_sorted stored sorted (by decide) (by decide), storedLate⟩

end OutboxReplicator
