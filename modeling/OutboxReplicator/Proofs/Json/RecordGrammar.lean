import OutboxReplicator.Json.Decode
import OutboxReplicator.Text.Integer
import OutboxReplicator.Domain.Status
import Mathlib.Data.List.Nodup
/-!
# The grammar of records

Each field of a record type has a wire type (`FieldType`), and `FieldType.Admits` says
which JSON values a field of that type takes: integers of a range, the status bytes 0
and 1, strings, texts the UUID reader accepts, texts the lenient timestamp reader
accepts, and `null` as well for an optional field.  Each field decoder reads exactly
what its type admits (`Json.Reads`).

A record's JSON forms (`RecordGrammar`) are two.  An object in which every required
field has an entry and every entry under a field's name holds a value that the field
admits; other keys are ignored.  An array that gives the fields' values in declaration
order, with no more items than fields, leaving out only fields that have defaults and
come after all the items.

`Shape.decode` reads exactly this grammar (`Shape.SlotLaws.decode_ok_iff`) when its slots
keep the discipline of `Shape.SlotLaws`: storing a value succeeds exactly when the
field of its key admits it and fills that field's slot alone, nothing is filled at
first, and `finish` succeeds exactly when every required field is filled.
-/

namespace OutboxReplicator

theorem except_bind_eq_ok {ε α β : Type} {x : Except ε α} {f : α → Except ε β} {b : β} :
    (x >>= f) = .ok b ↔ ∃ a, x = .ok a ∧ f a = .ok b := by
  cases x <;> simp [bind, Except.bind]

theorem bind_pure_eq_ok {ε α σ : Type} {x : Except ε α} {g : α → σ} {s : σ}
    (stored : (x >>= fun a => pure (g a)) = .ok s) : ∃ a, x = .ok a ∧ s = g a := by
  obtain ⟨a, read, built⟩ := except_bind_eq_ok.mp stored
  exact ⟨a, read, (Except.ok.inj built).symm⟩

theorem exists_requireField_bind_ok {α β : Type} {name : String} {o : Option α}
    {f : α → Except DecodeError β} :
    (∃ b, (requireField name o >>= f) = .ok b) ↔ ∃ a, o = some a ∧ ∃ b, f a = .ok b := by
  cases o <;> simp [requireField, bind, Except.bind]

namespace Json

/-- The integer a JSON number of integer kind holds. -/
def integer? : Json → Option Int
  | .number (.unsigned n) => some n
  | .number (.signed i) => some i
  | _ => none

end Json

/-- The wire type of a record field. -/
inductive FieldType where
  /-- An integer of a range. -/
  | integer (r : IntegerRange)
  /-- A record status: the byte 0 or 1. -/
  | status
  /-- A string. -/
  | text
  /-- A UUID, as a string the UUID reader accepts. -/
  | uuid
  /-- A timestamp, as a string the lenient timestamp reader accepts. -/
  | instant
  /-- A value of the type, or `null`. -/
  | optional (t : FieldType)

namespace FieldType

/-- The JSON values a field of the type takes. -/
def Admits : FieldType → Json → Prop
  | .integer r, v => ∃ i, v.integer? = some i ∧ r.contains i = true
  | .status, v => v.integer? = some 0 ∨ v.integer? = some 1
  | .text, v => ∃ s, v = .string s
  | .uuid, v => ∃ s, v = .string s ∧ ∃ u, Uuid.parse s = .ok u
  | .instant, v => ∃ s, v = .string s ∧ ∃ t, Instant.parse s = .ok t
  | .optional t, v => v = .null ∨ t.Admits v

end FieldType

/-- A field of a record type: its name, its wire type, and whether it is required (has
no default). -/
structure FieldSpec where
  /-- The key of the field. -/
  name : String
  /-- The wire type of its value. -/
  type : FieldType
  /-- Whether a JSON form must give it. -/
  required : Bool

/-- The JSON forms of a record with these fields. -/
def RecordGrammar (fields : List FieldSpec) : Json → Prop
  | .obj entries =>
    (∀ f ∈ fields, f.required = true → ∃ w, (f.name, w) ∈ entries) ∧
      ∀ e ∈ entries, ∀ f ∈ fields, e.1 = f.name → f.type.Admits e.2
  | .array items =>
    items.length ≤ fields.length ∧ (∀ f ∈ fields.drop items.length, f.required = false) ∧
      ∀ p ∈ fields.zip items, p.1.type.Admits p.2
  | _ => False

/-! ## Field decoders -/

namespace Json

/-- A decoder that succeeds on exactly the values a type admits. -/
def Reads {α : Type} (d : Json → Except DecodeError α) (t : FieldType) : Prop :=
  ∀ v, (∃ a, d v = .ok a) ↔ t.Admits v

variable {α β : Type} {d : Json → Except DecodeError α} {t : FieldType}

theorem Reads.map (reads : Reads d t) (g : α → β) : Reads (fun v => (d v).map g) t := by
  intro v
  rw [← reads v]
  simp only [Except.map]
  cases d v <;> simp

theorem Reads.option (reads : Reads d t) : Reads (decodeOption d) (.optional t) := by
  intro v
  cases v
  case null => simp [decodeOption, FieldType.Admits]
  all_goals
    simp only [decodeOption, FieldType.Admits, reduceCtorEq, false_or]
    exact (reads.map some) _

/-- Storing the value a decoder reads succeeds exactly when the decoder's type admits
the value. -/
theorem Reads.store {σ : Type} (reads : Reads d t) (g : α → σ) (v : Json) :
    (∃ s, (d v >>= fun a => pure (g a)) = .ok s) ↔ t.Admits v := by
  rw [← reads v]
  cases d v <;> simp [bind, Except.bind, pure, Except.pure]

theorem decodeInteger_eq_ok_iff {name : String} {lo hi i : Int} {v : Json} :
    decodeInteger name lo hi v = .ok i ↔ v.integer? = some i ∧ lo ≤ i ∧ i ≤ hi := by
  match v with
  | .number (.unsigned n) =>
    simp only [decodeInteger, integer?, Option.some.injEq]
    split
    · simp only [Except.ok.injEq]
      omega
    · simp only [reduceCtorEq, false_iff]
      omega
  | .number (.signed j) =>
    simp only [decodeInteger, integer?, Option.some.injEq]
    split
    · simp only [Except.ok.injEq]
      omega
    · simp only [reduceCtorEq, false_iff]
      omega
  -- no other value is an integer
  | .null | .bool _ | .number (.float _) | .string _ | .array _ | .obj _ =>
    constructor
    · intro read
      cases read
    · rintro ⟨found, -⟩
      cases found

theorem reads_integer (name : String) (r : IntegerRange) :
    Reads (decodeInteger name r.least r.greatest) (.integer r) := by
  intro v
  simp [decodeInteger_eq_ok_iff, FieldType.Admits, IntegerRange.contains]

theorem reads_i64 : Reads decodeI64 (.integer .i64) := reads_integer "i64" .i64

theorem reads_i32 : Reads decodeI32 (.integer .i32) := reads_integer "i32" .i32

theorem reads_string : Reads decodeString .text := by
  intro v
  cases v <;> simp [decodeString, FieldType.Admits]

theorem reads_uuid : Reads decodeUuid .uuid := by
  intro v
  cases v
  case string s => cases parsed : Uuid.parse s <;> simp [decodeUuid, FieldType.Admits, parsed]
  all_goals simp [decodeUuid, FieldType.Admits]

theorem reads_instant : Reads decodeInstant .instant := by
  intro v
  cases v
  case string s => cases parsed : Instant.parse s <;> simp [decodeInstant, FieldType.Admits, parsed]
  all_goals simp [decodeInstant, FieldType.Admits]

end Json

theorem RecordStatus.reads_decode : Json.Reads RecordStatus.decode .status := by
  intro v
  simp only [RecordStatus.decode, Json.decodeU8, FieldType.Admits]
  cases read : Json.decodeInteger "u8" 0 255 v with
  | error e =>
    simp only [Except.map, bind, Except.bind, reduceCtorEq, exists_false, false_iff]
    rintro (zero | one)
    · cases read.symm.trans (Json.decodeInteger_eq_ok_iff.mpr ⟨zero, by decide, by decide⟩)
    · cases read.symm.trans (Json.decodeInteger_eq_ok_iff.mpr ⟨one, by decide, by decide⟩)
  | ok i =>
    obtain ⟨found, low, high⟩ := Json.decodeInteger_eq_ok_iff.mp read
    simp only [Except.map, bind, Except.bind, found, Option.some.injEq]
    -- a byte names a status exactly when it is 0 or 1
    obtain ⟨b, rfl⟩ := Int.eq_ofNat_of_zero_le low
    simp only [Int.toNat_natCast]
    rcases b with _ | _ | b
    · simp [RecordStatus.ofByte?, pure, Except.pure]
    · simp [RecordStatus.ofByte?, pure, Except.pure]
    · simp [RecordStatus.ofByte?, throw, throwThe, MonadExceptOf.throw]
      omega

/-! ## Records -/

/-- A field of the array's items: `f` is in the first `items.length` fields. -/
theorem exists_mem_zip_of_mem_take {fields : List FieldSpec} {items : List Json} {f : FieldSpec}
    (front : f ∈ fields.take items.length) : ∃ w, (f, w) ∈ fields.zip items := by
  obtain ⟨i, bound, rfl⟩ := List.getElem_of_mem front
  rw [List.length_take] at bound
  have inItems : i < items.length := by omega
  have inZip : i < (fields.zip items).length := by rw [List.length_zip]; omega
  refine ⟨items[i], ?_⟩
  have found := List.getElem_mem inZip
  rw [List.getElem_zip] at found
  rwa [List.getElem_take]

/-- A required field is given by an array whose missing fields all have defaults. -/
theorem exists_item_of_required {fields : List FieldSpec} {items : List Json}
    (defaulted : ∀ f ∈ fields.drop items.length, f.required = false) {f : FieldSpec}
    (member : f ∈ fields) (required : f.required = true) :
    ∃ w, (f.name, w) ∈ (fields.zip items).map (fun p => (p.1.name, p.2)) := by
  rw [← List.take_append_drop items.length fields, List.mem_append] at member
  rcases member with front | back
  · obtain ⟨w, found⟩ := exists_mem_zip_of_mem_take front
    exact ⟨w, List.mem_map.mpr ⟨(f, w), found, rfl⟩⟩
  · cases required.symm.trans (defaulted f back)

namespace Shape

/-- The first required field of a list is absent exactly when no field is required. -/
theorem firstRequired_eq_none_iff {l : List (String × Bool)} {i : Nat} :
    firstRequired l i = none ↔ ∀ p ∈ l, p.2 = false := by
  induction l generalizing i with
  | nil => simp [firstRequired]
  | cons p l induction =>
    obtain ⟨name, required⟩ := p
    cases required <;> simp [firstRequired, induction]

variable {σ α : Type}

/-- The discipline of a record's slots under a list of fields: the shape lists the
fields, whose names differ; storing a value succeeds exactly when the field of its key
admits it, and fills that field's slot alone; nothing is filled at first; and the record
is built exactly when every required field is filled. -/
structure SlotLaws (sh : Shape) (fields : List FieldSpec) (put : σ → String → Json → Except DecodeError σ)
    (empty : σ) (finish : σ → Except DecodeError α) (filled : σ → String → Bool) : Prop where
  shape : sh.fields = fields.map fun f => (f.name, f.required)
  distinct : (fields.map (·.name)).Nodup
  put_ok : ∀ s key v, (∃ s', put s key v = .ok s') ↔ ∀ f ∈ fields, key = f.name → f.type.Admits v
  put_filled : ∀ s key v s', put s key v = .ok s' →
    ∀ f ∈ fields, filled s' f.name = (filled s f.name || key == f.name)
  empty_filled : ∀ f ∈ fields, filled empty f.name = false
  finish_ok : ∀ s, (∃ a, finish s = .ok a) ↔ ∀ f ∈ fields, f.required = true → filled s f.name = true

variable {sh : Shape} {fields : List FieldSpec} {put : σ → String → Json → Except DecodeError σ}
  {empty : σ} {finish : σ → Except DecodeError α} {filled : σ → String → Bool}

namespace SlotLaws

variable (laws : sh.SlotLaws fields put empty finish filled)
include laws

/-- Storing entries succeeds exactly when each field admits the entries under its name. -/
theorem foldlM_ok_iff (entries : List (String × Json)) (s : σ) :
    (∃ s', entries.foldlM (fun s kv => put s kv.1 kv.2) s = .ok s') ↔
      ∀ e ∈ entries, ∀ f ∈ fields, e.1 = f.name → f.type.Admits e.2 := by
  induction entries generalizing s with
  | nil => simp [pure, Except.pure]
  | cons e entries induction =>
    simp only [List.foldlM_cons, except_bind_eq_ok, List.forall_mem_cons]
    constructor
    · rintro ⟨s', s₁, first, rest⟩
      exact ⟨(laws.put_ok s e.1 e.2).mp ⟨s₁, first⟩, (induction s₁).mp ⟨s', rest⟩⟩
    · rintro ⟨first, rest⟩
      obtain ⟨s₁, stored⟩ := (laws.put_ok s e.1 e.2).mpr first
      obtain ⟨s', restStored⟩ := (induction s₁).mpr rest
      exact ⟨s', s₁, stored, restStored⟩

/-- After storing entries, a field is filled when it was before or some entry has its
name. -/
theorem foldlM_filled {entries : List (String × Json)} {s s' : σ}
    (stored : entries.foldlM (fun s kv => put s kv.1 kv.2) s = .ok s') :
    ∀ f ∈ fields, filled s' f.name = (filled s f.name || entries.any (·.1 == f.name)) := by
  induction entries generalizing s with
  | nil =>
    cases stored
    simp
  | cons e entries induction =>
    intro f member
    simp only [List.foldlM_cons, except_bind_eq_ok] at stored
    obtain ⟨s₁, first, rest⟩ := stored
    rw [induction rest f member, laws.put_filled s e.1 e.2 s₁ first f member]
    simp only [List.any_cons, Bool.or_assoc]

/-- After storing entries from empty slots, a field is filled exactly when some entry
has its name. -/
theorem foldlM_filled_iff {entries : List (String × Json)} {s' : σ}
    (stored : entries.foldlM (fun s kv => put s kv.1 kv.2) empty = .ok s') {f : FieldSpec}
    (member : f ∈ fields) : filled s' f.name = true ↔ ∃ w, (f.name, w) ∈ entries := by
  rw [laws.foldlM_filled stored f member, laws.empty_filled f member]
  simp only [Bool.false_or, List.any_eq_true, beq_iff_eq, Prod.exists]
  constructor
  · rintro ⟨key, w, found, rfl⟩
    exact ⟨w, found⟩
  · rintro ⟨w, found⟩
    exact ⟨f.name, w, found, rfl⟩

theorem decode_obj_ok_iff (entries : List (String × Json)) :
    (∃ a, sh.decode put empty finish (.obj entries) = .ok a) ↔ RecordGrammar fields (.obj entries) := by
  simp only [decode, except_bind_eq_ok, RecordGrammar]
  constructor
  · rintro ⟨a, s, stored, finished⟩
    refine ⟨fun f member required => ?_, (laws.foldlM_ok_iff entries empty).mp ⟨s, stored⟩⟩
    exact (laws.foldlM_filled_iff stored member).mp ((laws.finish_ok s).mp ⟨a, finished⟩ f member required)
  · rintro ⟨present, admitted⟩
    obtain ⟨s, stored⟩ := (laws.foldlM_ok_iff entries empty).mpr admitted
    obtain ⟨a, finished⟩ := (laws.finish_ok s).mpr fun f member required =>
      (laws.foldlM_filled_iff stored member).mpr (present f member required)
    exact ⟨a, s, stored, finished⟩

/-- The entries of an array's items, each under the name of the field at its position,
are admitted exactly when each item is admitted by its field: no other field has the
name. -/
theorem zip_admitted_iff (items : List Json) :
    (∀ e ∈ (fields.zip items).map (fun p => (p.1.name, p.2)), ∀ f ∈ fields, e.1 = f.name → f.type.Admits e.2) ↔
      ∀ p ∈ fields.zip items, p.1.type.Admits p.2 := by
  simp only [List.mem_map, forall_exists_index, and_imp]
  constructor
  · intro admitted p member
    exact admitted _ p member rfl p.1 (List.of_mem_zip member).1 rfl
  · rintro admitted _ p member rfl f field named
    rw [List.inj_on_of_nodup_map laws.distinct field (List.of_mem_zip member).1 named.symm]
    exact admitted p member

theorem decode_array_ok_iff (items : List Json) :
    (∃ a, sh.decode put empty finish (.array items) = .ok a) ↔ RecordGrammar fields (.array items) := by
  -- the array gives each of the first fields the item at its position
  have stored : (sh.fields.zip items).foldlM (fun s fv => put s fv.1.1 fv.2) empty =
      ((fields.zip items).map fun p => (p.1.name, p.2)).foldlM (fun s kv => put s kv.1 kv.2) empty := by
    rw [laws.shape, List.zip_map_left, List.foldlM_map, List.foldlM_map]
    rfl
  have trailing : sh.fields.drop items.length =
      (fields.drop items.length).map fun f => (f.name, f.required) := by
    rw [laws.shape, List.map_drop]
  have length : sh.fields.length = fields.length := by rw [laws.shape, List.length_map]
  simp only [decode, except_bind_eq_ok, stored, trailing, length, RecordGrammar]
  have noneIff : firstRequired ((fields.drop items.length).map fun f => (f.name, f.required))
      items.length = none ↔ ∀ f ∈ fields.drop items.length, f.required = false := by
    rw [firstRequired_eq_none_iff, List.forall_mem_map]
  -- after the items are stored: no required field is missing, no item is left over
  cases first : firstRequired ((fields.drop items.length).map fun f => (f.name, f.required))
      items.length with
  | some i =>
    simp only [throw, throwThe, MonadExceptOf.throw, reduceCtorEq, and_false, exists_false,
      false_iff]
    exact fun grammar => absurd (noneIff.mpr grammar.2.1) (by rw [first]; exact Option.some_ne_none i)
  | none =>
    have defaulted := noneIff.mp first
    by_cases long : fields.length < items.length
    · simp only [if_pos long, throw, throwThe, MonadExceptOf.throw, bind, Except.bind, reduceCtorEq,
        and_false, exists_false, false_iff]
      exact fun grammar => absurd grammar.1 (by omega)
    · simp only [if_neg long]
      constructor
      · rintro ⟨a, s, stored, -⟩
        exact ⟨by omega, defaulted,
          (laws.zip_admitted_iff items).mp ((laws.foldlM_ok_iff _ empty).mp ⟨s, stored⟩)⟩
      · rintro ⟨-, -, admitted⟩
        obtain ⟨s, stored⟩ := (laws.foldlM_ok_iff _ empty).mpr ((laws.zip_admitted_iff items).mpr admitted)
        obtain ⟨a, finished⟩ := (laws.finish_ok s).mpr fun f member required =>
          (laws.foldlM_filled_iff stored member).mpr (exists_item_of_required defaulted member required)
        exact ⟨a, s, stored, finished⟩

/-- A record decoder whose slots keep the discipline reads exactly the record grammar:
the objects and arrays of the grammar, and no other JSON value. -/
theorem decode_ok_iff (v : Json) :
    (∃ a, sh.decode put empty finish v = .ok a) ↔ RecordGrammar fields v := by
  cases v
  case obj entries => exact laws.decode_obj_ok_iff entries
  case array items => exact laws.decode_array_ok_iff items
  -- a scalar is no record
  all_goals
    constructor
    · rintro ⟨a, read⟩
      cases read
    · intro grammar
      cases grammar

end SlotLaws

end Shape

end OutboxReplicator
