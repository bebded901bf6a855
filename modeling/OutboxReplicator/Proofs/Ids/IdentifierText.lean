import OutboxReplicator.Proofs.Ids.UuidForms
import OutboxReplicator.Proofs.Json.IntegerRoundTrip
import OutboxReplicator.Proofs.Replica.PayloadRoundTrip
/-!
# Identifier texts

A screen definition or a screen pilot is identified by a 64-bit signed integer, a user by
a UUID, and each identifier has a text and a JSON form.

* An integer identifier prints as the canonical decimal of its number: a minus sign for a
  negative one, then the digits of its magnitude with no zero in front.  Its reader takes
  exactly the texts that spell a number in range with an optional sign and any zeros in
  front (`IntegerRange.Spells`), so what it accepts prints back in canonical form.  The
  JSON form is the bare number, whose text is the identifier's text and reads back
  through the JSON reader and the decoder as the identifier.
* A user identifier prints as the hyphenated layout of the 32 hexadecimal digits of its
  bits, in lower case.  Its reader takes exactly the four forms of `Uuid.Form` around 32
  hexadecimal digits in either case, and what it accepts prints as the lower case of the
  same digits.

Both identifier kinds read their own text back (`identifier_texts_round_trip`).
-/

namespace OutboxReplicator

theorem except_map_eq_ok_iff {ε α β : Type} {e : Except ε α} {f : α → β}
    (injective : ∀ a b, f a = f b → a = b) {a : α} : e.map f = .ok (f a) ↔ e = .ok a := by
  cases e with
  | error e => simp [Except.map]
  | ok b =>
    simp only [Except.map, Except.ok.injEq]
    exact ⟨injective b a, fun same => same ▸ rfl⟩

namespace IntegerRange

theorem contains_iff_within {r : IntegerRange} {n : Int} : r.contains n = true ↔ r.Within n := by
  simp [contains, Within]

/-- An identifier that wraps a 64-bit integer, by any constructor, reads back from its
decimal text and from its JSON number, whose text is the same. -/
theorem i64_round_trips {α : Type} (mk : Int → α) {n : Int} (within : i64.Within n) :
    (i64.read (toString n)).map mk = .ok (mk n) ∧ Json.render (Json.int n) = toString n ∧
      Json.read (toString n) = .ok (Json.int n) ∧
      (Json.decodeI64 (Json.int n)).map mk = .ok (mk n) := by
  have low : -Int.pow 2 63 ≤ n := within.1
  have high : n ≤ WordDecimal.maxSignificand := by
    have greatest : n ≤ Int.pow 2 63 - 1 := within.2
    have word : Int.pow 2 63 - 1 ≤ (WordDecimal.maxSignificand : Int) := by decide
    omega
  refine ⟨?_, Json.render_int n, ?_, ?_⟩
  · rw [read_toString (by decide) within (fun _ => rfl)]
    rfl
  · rw [← Json.render_int]
    exact Json.read_render_int low high
  · rw [Json.decodeI64_int (contains_iff_within.mpr within)]
    rfl

/-- A text reads as an identifier that wraps a 64-bit integer exactly when it spells the
integer, in range. -/
theorem i64_read_map_iff {α : Type} {mk : Int → α} (injective : ∀ a b, mk a = mk b → a = b)
    (s : String) (n : Int) :
    (i64.read s).map mk = .ok (mk n) ↔ i64.Within n ∧ i64.Spells s.toList n := by
  rw [except_map_eq_ok_iff injective, read_eq_ok_iff_spells (by decide)]

end IntegerRange

/-- Identifier texts and JSON forms read back.  An integer identifier in the 64-bit range
reads its decimal text back, its JSON form is the bare number with the same text, and that
text reads back through JSON; its reader accepts exactly the texts that spell a number
in range, and it prints as the canonical decimal.  A user identifier reads its text back,
which is the lower-case hyphenated layout of the digits of its bits; its reader accepts
exactly the four forms around 32 hexadecimal digits in either case, and what it accepts
prints as the lower-case layout of the same digits. -/
theorem identifier_texts_round_trip :
    (∀ i : ScreenDefinitionId, IntegerRange.i64.Within i.val →
      ScreenDefinitionId.ofText i.toText = .ok i ∧ Json.render i.toJson = i.toText ∧
        Json.read i.toText = .ok i.toJson ∧ ScreenDefinitionId.decode i.toJson = .ok i) ∧
    (∀ i : ScreenPilotId, IntegerRange.i64.Within i.val →
      ScreenPilotId.ofText i.toText = .ok i ∧ Json.render i.toJson = i.toText ∧
        Json.read i.toText = .ok i.toJson ∧ ScreenPilotId.decode i.toJson = .ok i) ∧
    (∀ s (i : ScreenDefinitionId), ScreenDefinitionId.ofText s = .ok i ↔
      IntegerRange.i64.Within i.val ∧ IntegerRange.i64.Spells s.toList i.val) ∧
    (∀ s (i : ScreenPilotId), ScreenPilotId.ofText s = .ok i ↔
      IntegerRange.i64.Within i.val ∧ IntegerRange.i64.Spells s.toList i.val) ∧
    (∀ i : ScreenDefinitionId,
      i.toText.toList = (if i.val < 0 then ['-'] else []) ++ Nat.toDigits 10 i.val.natAbs) ∧
    (∀ i : ScreenPilotId,
      i.toText.toList = (if i.val < 0 then ['-'] else []) ++ Nat.toDigits 10 i.val.natAbs) ∧
    (∀ u : UserId, UserId.ofText u.toText = .ok u ∧
      ∃ ds, u.toText.toList = Uuid.hyphenate ds ∧ ds.length = 32 ∧
        (∀ c ∈ ds, c ∈ "0123456789abcdef".toList) ∧ Uuid.hexDigits ds = some u.uuid.bits.toNat) ∧
    (∀ s (u : UserId), UserId.ofText s = .ok u ↔
      ∃ ds, Uuid.Form s.toList ds ∧ ds.length = 32 ∧
        (∀ c ∈ ds, c ∈ "0123456789abcdefABCDEF".toList) ∧
        Uuid.hexDigits ds = some u.uuid.bits.toNat) ∧
    (∀ (u : UserId) (ds : List Char), ds.length = 32 → Uuid.hexDigits ds = some u.uuid.bits.toNat →
      u.toText.toList = Uuid.hyphenate (ds.map Char.toLower)) := by
  have definitionInjective : ∀ a b, ScreenDefinitionId.mk a = .mk b → a = b :=
    fun _ _ same => ScreenDefinitionId.mk.inj same
  have pilotInjective : ∀ a b, ScreenPilotId.mk a = .mk b → a = b :=
    fun _ _ same => ScreenPilotId.mk.inj same
  have userInjective : ∀ a b, UserId.mk a = .mk b → a = b := fun _ _ same => UserId.mk.inj same
  refine ⟨?definitions, ?pilots, ?definitionTexts, ?pilotTexts, fun i => ?definitionPrinted,
    fun i => ?pilotPrinted, ?users, ?userTexts, ?userPrinted⟩
  -- both integer identifiers wrap the number, so the integer's laws carry over
  case definitions =>
    exact fun i within => IntegerRange.i64_round_trips ScreenDefinitionId.mk within
  case pilots => exact fun i within => IntegerRange.i64_round_trips ScreenPilotId.mk within
  case definitionTexts =>
    exact fun s i => IntegerRange.i64_read_map_iff definitionInjective s i.val
  case pilotTexts => exact fun s i => IntegerRange.i64_read_map_iff pilotInjective s i.val
  case definitionPrinted => exact IntegerRange.toString_toList i.val
  case pilotPrinted => exact IntegerRange.toString_toList i.val
  case users =>
    intro u
    have small : u.uuid.bits.toNat < Nat.pow 16 32 := u.uuid.bits.isLt
    refine ⟨?_, Uuid.hexText 32 u.uuid.bits.toNat, Uuid.toText_toList u.uuid,
      Uuid.length_hexText 32 _, fun c mem => ?_, ?_⟩
    · rw [UserId.ofText, UserId.toText, Uuid.parse_toText]
      rfl
    · obtain ⟨d, digit, rfl⟩ := Uuid.mem_hexText mem
      have lower : ∀ d, d < 16 → Nat.digitChar d ∈ "0123456789abcdef".toList := by decide
      exact lower d digit
    · rw [Uuid.hexDigits_hexText, Nat.mod_eq_of_lt small]
  case userTexts =>
    intro s u
    rw [UserId.ofText, show u = UserId.mk u.uuid from rfl, except_map_eq_ok_iff userInjective,
      Uuid.parse_eq_ok_iff]
    constructor
    · rintro ⟨ds, form, length, value⟩
      refine ⟨ds, form, length, fun c mem => ?_, value⟩
      obtain ⟨d, digit⟩ := (Uuid.hexDigits_eq_some value).1 c mem
      exact (Uuid.hexValue_eq_some digit).2.2
    · rintro ⟨ds, form, length, -, value⟩
      exact ⟨ds, form, length, value⟩
  case userPrinted => exact fun u ds length value => Uuid.toText_of_digits length value

theorem least_identifiers_round_trip :
    IntegerRange.i64.Within (-9223372036854775808) ∧
      ScreenDefinitionId.ofText (ScreenDefinitionId.toText ⟨-9223372036854775808⟩) =
        .ok ⟨-9223372036854775808⟩ ∧
      Json.read (ScreenPilotId.toText ⟨-9223372036854775808⟩) =
        .ok (ScreenPilotId.toJson ⟨-9223372036854775808⟩) :=
  ⟨by decide, (identifier_texts_round_trip.1 ⟨-9223372036854775808⟩ (by decide)).1,
    (identifier_texts_round_trip.2.1 ⟨-9223372036854775808⟩ (by decide)).2.2.1⟩

/-- A URN in upper case reads, and prints in lower case without its prefix. -/
example : (UserId.ofText "URN:UUID:67E55044-10B1-426F-9247-BB680E5FE0C8").map UserId.toText =
    .ok "67e55044-10b1-426f-9247-bb680e5fe0c8" := by
  decide +kernel

end OutboxReplicator
