import OutboxReplicator.Uuid
/-!
# UUID text read back

The reader reads the text the printer writes for every UUID back as the UUID
(`Uuid.parse_toText`): the 32 digits of the 128 bits, lower case, in groups of 8, 4, 4,
4 and 12 joined by hyphens.  All its characters are ASCII, so the text has 36 bytes and
is taken for the hyphenated form; the hyphens stand where that form wants them, and the
digits between them, joined again, are the printed digits, which read back as the bits.
-/

namespace OutboxReplicator

namespace Uuid

theorem hexValue_digitChar : ∀ d, d < 16 → hexValue (Nat.digitChar d) = some d := by
  decide

theorem length_hexText (n v : Nat) : (hexText n v).length = n := by
  induction n generalizing v with
  | zero => rfl
  | succ n induction => simp [hexText, induction]

theorem mem_hexText {n v : Nat} {c : Char} (mem : c ∈ hexText n v) :
    ∃ d, d < 16 ∧ c = Nat.digitChar d := by
  induction n generalizing v with
  | zero => simp [hexText] at mem
  | succ n induction =>
    simp only [hexText, List.mem_append, List.mem_singleton] at mem
    rcases mem with front | last
    · exact induction front
    · exact ⟨_, Nat.mod_lt _ (by decide), last⟩

theorem hexDigits_append (cs : List Char) (c : Char) :
    hexDigits (cs ++ [c]) =
      (hexDigits cs).bind fun n => (hexValue c).map fun d => n * 16 + d := by
  simp only [hexDigits, List.foldl_append, List.foldl_cons, List.foldl_nil]
  generalize List.foldl _ (some 0) cs = acc
  cases acc <;> cases hexValue c <;> rfl

/-- Printed hexadecimal digits read back as the number, less what does not fit. -/
theorem hexDigits_hexText (n v : Nat) : hexDigits (hexText n v) = some (v % Nat.pow 16 n) := by
  induction n generalizing v with
  | zero => simp [hexText, hexDigits, Nat.mod_one]
  | succ n induction =>
    rw [hexText, hexDigits_append, induction, hexValue_digitChar _ (Nat.mod_lt _ (by decide))]
    simp only [Option.bind_some, Option.map_some, Option.some.injEq]
    rw [show Nat.pow 16 (n + 1) = 16 * Nat.pow 16 n from Nat.pow_succ'.trans rfl, Nat.mod_mul]
    omega

/-- Digits laid out as the hyphenated form: groups of 8, 4, 4 and 4 digits, each closed
by a hyphen, then the rest. -/
def hyphenate (ds : List Char) : List Char :=
  ds.take 8 ++ '-' :: ((ds.drop 8).take 4 ++ '-' :: ((ds.drop 12).take 4 ++ '-' ::
    ((ds.drop 16).take 4 ++ '-' :: ds.drop 20)))

theorem toText_toList (u : Uuid) : u.toText.toList = hyphenate (hexText 32 u.bits.toNat) := by
  simp [toText, hyphenate]

theorem mem_hyphenate {ds : List Char} {c : Char} (mem : c ∈ hyphenate ds) :
    c = '-' ∨ c ∈ ds := by
  simp only [hyphenate, List.mem_append, List.mem_cons] at mem
  grind [List.mem_of_mem_take, List.mem_of_mem_drop]

theorem length_hyphenate {ds : List Char} (length : ds.length = 32) :
    (hyphenate ds).length = 36 := by
  simp [hyphenate, length]

/-- The groups cut out of the hyphenated layout, joined again, are the digits. -/
theorem hyphenatedDigits_hyphenate {ds : List Char} (length : ds.length = 32) :
    hyphenatedDigits (hyphenate ds) = some ds := by
  have groups : ds.take 8 ++ ((ds.drop 8).take 4 ++ ((ds.drop 12).take 4 ++
      ((ds.drop 16).take 4 ++ ds.drop 20))) = ds := by
    rw [show ds.drop 20 = (ds.drop 16).drop 4 by simp [List.drop_drop], List.take_append_drop,
      show ds.drop 16 = (ds.drop 12).drop 4 by simp [List.drop_drop], List.take_append_drop,
      show ds.drop 12 = (ds.drop 8).drop 4 by simp [List.drop_drop], List.take_append_drop,
      List.take_append_drop]
  unfold hyphenatedDigits hyphenate
  simp [List.drop_append, List.drop_eq_nil_of_le, length, groups]

theorem utf8ByteSize_ofList_ascii {l : List Char} (ascii : ∀ c ∈ l, c.utf8Size = 1) :
    (String.ofList l).utf8ByteSize = l.length := by
  induction l with
  | nil => rfl
  | cons c l induction =>
    rw [String.ofList_cons, String.utf8ByteSize_append, String.utf8ByteSize_singleton,
      ascii c List.mem_cons_self, induction fun c' mem => ascii c' (List.mem_cons_of_mem c mem)]
    simp only [List.length_cons]
    omega

theorem digitChar_ascii : ∀ d, d < 16 → (Nat.digitChar d).utf8Size = 1 := by
  decide

/-- The reader reads the printed text of every UUID back as the UUID. -/
theorem parse_toText (u : Uuid) : parse u.toText = .ok u := by
  have length : (hexText 32 u.bits.toNat).length = 32 := length_hexText 32 _
  -- the text is ASCII, so its 36 characters are 36 bytes: the hyphenated form
  have ascii : ∀ c ∈ u.toText.toList, c.utf8Size = 1 := by
    intro c mem
    rw [toText_toList] at mem
    rcases mem_hyphenate mem with rfl | digit
    · rfl
    · obtain ⟨d, lt, rfl⟩ := mem_hexText digit
      exact digitChar_ascii d lt
  have size : u.toText.utf8ByteSize = 36 := by
    rw [← String.ofList_toList (s := u.toText), utf8ByteSize_ofList_ascii ascii, toText_toList,
      length_hyphenate length]
  have digits : (hyphenatedDigits u.toText.toList).bind ofDigits = some u := by
    rw [toText_toList, hyphenatedDigits_hyphenate length, Option.bind_some]
    unfold ofDigits
    rw [if_pos length, hexDigits_hexText]
    have small : u.bits.toNat < Nat.pow 16 32 := u.bits.isLt
    simp [Nat.mod_eq_of_lt small]
  unfold parse hyphenatedPart
  simp [size, digits]

end Uuid

end OutboxReplicator
