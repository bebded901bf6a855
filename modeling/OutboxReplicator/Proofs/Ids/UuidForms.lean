import OutboxReplicator.Proofs.Ids.UuidText
import Mathlib.Data.List.Induction
/-!
# The four forms of UUID text

The reader accepts exactly the texts of four forms around 32 hexadecimal digits in
either case (`Uuid.parse_eq_ok_iff`): the digits alone, their hyphenated layout, that
layout in braces, and that layout after `urn:uuid:` in any case (`Uuid.Form`).  The UUID
it reads is the value of the digits, and it prints as their hyphenated layout in lower
case (`Uuid.toText_of_digits`).

Two facts about digits carry the proofs.  A hexadecimal digit is an ASCII character
whose lower case is the printer's digit of its value (`Uuid.hexValue_eq_some`), so a
text of the four forms has as many bytes as characters, and the printer writes back the
lower case of every digit it reads (`Uuid.hexDigits_eq_some`).  The hyphenated part
that the reader cuts into groups is the layout of the groups joined
(`Uuid.hyphenatedDigits_eq_some`), so the texts it accepts are the layouts and nothing
else.
-/

namespace OutboxReplicator

namespace Uuid

/-! ## Hexadecimal digits -/

/-- The ASCII characters that are hexadecimal digits: each is one of the 22 digits in
either case, worth less than 16, and the printer writes its value as its lower case. -/
theorem hexValue_ascii : ∀ n : Fin 128, ∀ d ∈ hexValue (Char.ofNat n),
    d < 16 ∧ Nat.digitChar d = (Char.ofNat n).toLower ∧
      Char.ofNat n ∈ "0123456789abcdefABCDEF".toList := by
  decide

theorem toNat_lt_of_hexValue {c : Char} {d : Nat} (h : hexValue c = some d) : c.toNat < 128 := by
  unfold hexValue at h
  split at h
  next digit => exact Nat.lt_of_le_of_lt (Char.le_def.mp digit.2) (by decide)
  next =>
    split at h
    next lower => exact Nat.lt_of_le_of_lt (Char.le_def.mp lower.2) (by decide)
    next =>
      split at h
      next upper => exact Nat.lt_of_le_of_lt (Char.le_def.mp upper.2) (by decide)
      next => cases h

theorem hexValue_eq_some {c : Char} {d : Nat} (h : hexValue c = some d) :
    d < 16 ∧ Nat.digitChar d = c.toLower ∧ c ∈ "0123456789abcdefABCDEF".toList := by
  have same : Char.ofNat c.toNat = c := Char.ofNat_toNat c
  have table := hexValue_ascii ⟨c.toNat, toNat_lt_of_hexValue h⟩ d (by simp [same, h])
  simpa only [same] using table

theorem utf8Size_of_hexValue {c : Char} {d : Nat} (h : hexValue c = some d) : c.utf8Size = 1 := by
  have ascii : ∀ c ∈ "0123456789abcdefABCDEF".toList, c.utf8Size = 1 := by
    simp [Char.utf8Size]
  exact ascii c (hexValue_eq_some h).2.2

theorem hexDigits_append_eq_some {cs : List Char} {c : Char} {v : Nat}
    (h : hexDigits (cs ++ [c]) = some v) :
    ∃ w d, hexDigits cs = some w ∧ hexValue c = some d ∧ v = w * 16 + d := by
  rw [hexDigits_append] at h
  obtain ⟨w, front, last⟩ := Option.bind_eq_some_iff.mp h
  obtain ⟨d, digit, rfl⟩ := Option.map_eq_some_iff.mp last
  exact ⟨w, d, front, digit, rfl⟩

/-- Digits that read are hexadecimal digits, their value has no more digits than they
do, and the printer writes it back as their lower case. -/
theorem hexDigits_eq_some {cs : List Char} {v : Nat} (h : hexDigits cs = some v) :
    (∀ c ∈ cs, ∃ d, hexValue c = some d) ∧ v < Nat.pow 16 cs.length ∧
      hexText cs.length v = cs.map Char.toLower := by
  induction cs using List.reverseRecOn generalizing v with
  | nil =>
    have zero : v = 0 := by simpa [hexDigits] using h.symm
    simp [zero, hexText]
  | append_singleton cs c induction =>
    obtain ⟨w, d, front, digit, rfl⟩ := hexDigits_append_eq_some h
    obtain ⟨hex, bound, printed⟩ := induction front
    obtain ⟨small, lower, -⟩ := hexValue_eq_some digit
    refine ⟨?_, ?_, ?_⟩
    · intro c' mem
      rcases List.mem_append.mp mem with earlier | last
      · exact hex c' earlier
      · rw [List.mem_singleton.mp last]
        exact ⟨d, digit⟩
    · rw [List.length_append, List.length_singleton]
      show w * 16 + d < Nat.pow 16 cs.length * 16
      omega
    · have high : (w * 16 + d) / 16 = w := by omega
      have low : (w * 16 + d) % 16 = d := by omega
      rw [List.length_append, List.length_singleton, hexText, high, low, printed, lower,
        List.map_append, List.map_singleton]

theorem ofDigits_eq_some {cs : List Char} {u : Uuid} :
    ofDigits cs = some u ↔ cs.length = 32 ∧ hexDigits cs = some u.bits.toNat := by
  unfold ofDigits
  constructor
  · intro h
    split at h
    next length =>
      obtain ⟨v, value, rfl⟩ := Option.map_eq_some_iff.mp h
      have bound : v < Nat.pow 2 128 := by
        have := (hexDigits_eq_some value).2.1
        rwa [length] at this
      refine ⟨length, ?_⟩
      rw [BitVec.toNat_ofNat, Nat.mod_eq_of_lt bound]
      exact value
    next => cases h
  · rintro ⟨length, value⟩
    rw [if_pos length, value]
    simp

/-! ## The hyphenated layout -/

theorem hyphenate_groups {g₀ g₁ g₂ g₃ g₄ : List Char} (l₀ : g₀.length = 8) (l₁ : g₁.length = 4)
    (l₂ : g₂.length = 4) (l₃ : g₃.length = 4) :
    hyphenate (g₀ ++ g₁ ++ g₂ ++ g₃ ++ g₄) =
      g₀ ++ '-' :: (g₁ ++ '-' :: (g₂ ++ '-' :: (g₃ ++ '-' :: g₄))) := by
  simp [hyphenate, List.drop_append, List.drop_eq_nil_of_le, l₀, l₁, l₂, l₃]

theorem eq_take_append_cons {l : List Char} {i : Nat} {c : Char} (h : l[i]? = some c) :
    l = l.take i ++ c :: l.drop (i + 1) := by
  obtain ⟨lt, get⟩ := List.getElem?_eq_some_iff.mp h
  calc l = l.take i ++ l.drop i := (List.take_append_drop i l).symm
    _ = l.take i ++ c :: l.drop (i + 1) := by rw [List.drop_eq_getElem_cons lt, get]

/-- A text cut at a hyphen four characters on. -/
theorem drop_cut {cs : List Char} {i : Nat} (h : cs[i + 4]? = some '-') :
    cs.drop i = (cs.drop i).take 4 ++ '-' :: cs.drop (i + 5) := by
  have cut := eq_take_append_cons (show (cs.drop i)[4]? = some '-' by rw [List.getElem?_drop]; exact h)
  rwa [List.drop_drop] at cut

/-- The hyphenated part the reader cuts into groups is the layout of the groups joined. -/
theorem hyphenatedDigits_eq_some {cs ds : List Char} (h : hyphenatedDigits cs = some ds) :
    ds.length = 32 ∧ cs = hyphenate ds := by
  unfold hyphenatedDigits at h
  split at h
  next shape =>
    obtain ⟨length, h₈, h₁₃, h₁₈, h₂₃⟩ := shape
    cases h
    constructor
    · simp [length]
    · rw [hyphenate_groups (by simp [length]) (by simp [length]) (by simp [length])
        (by simp [length]), ← drop_cut h₂₃, ← drop_cut h₁₈, ← drop_cut h₁₃]
      exact eq_take_append_cons h₈
  next => cases h

/-! ## The forms -/

theorem utf8Size_toLower (c : Char) : c.toLower.utf8Size = c.utf8Size := by
  unfold Char.toLower
  split
  next upper =>
    have bound : c.val.toNat ≤ 90 := UInt32.le_iff_toNat_le.mp upper.2
    have gap : ('a'.val - 'A'.val).toNat = 32 := by decide
    have lowered : c.val + ('a'.val - 'A'.val) ≤ 127 := by
      rw [UInt32.le_iff_toNat_le, UInt32.toNat_add, gap]
      simp only [UInt32.reduceToNat]
      omega
    have ascii : c.val ≤ 127 := UInt32.le_iff_toNat_le.mpr (by simp only [UInt32.reduceToNat]; omega)
    exact (Char.utf8Size_eq_one_iff.mpr lowered).trans (Char.utf8Size_eq_one_iff.mpr ascii).symm
  next => rfl

/-- The four forms of UUID text around its digits `ds`: the digits alone, the hyphenated
layout, that layout in braces, and that layout after `urn:uuid:` in any case. -/
inductive Form : List Char → List Char → Prop
  | simple (ds : List Char) : Form ds ds
  | hyphenated (ds : List Char) : Form (hyphenate ds) ds
  | braced (ds : List Char) : Form ('\x7b' :: (hyphenate ds ++ ['\x7d'])) ds
  | urn {urn : List Char} (ds : List Char) (caseless : urn.map Char.toLower = "urn:uuid:".toList) :
    Form (urn ++ hyphenate ds) ds

/-- Around hexadecimal digits, every form is ASCII. -/
theorem Form.ascii {cs ds : List Char} (form : Form cs ds)
    (hex : ∀ c ∈ ds, ∃ d, hexValue c = some d) : ∀ c ∈ cs, c.utf8Size = 1 := by
  have digit : ∀ c ∈ ds, c.utf8Size = 1 := by
    intro c mem
    obtain ⟨d, value⟩ := hex c mem
    exact utf8Size_of_hexValue value
  have layout : ∀ c ∈ hyphenate ds, c.utf8Size = 1 := by
    intro c mem
    rcases mem_hyphenate mem with rfl | mem
    · rfl
    · exact digit c mem
  cases form with
  | simple => exact digit
  | hyphenated => exact layout
  | braced =>
    intro c mem
    simp only [List.mem_cons, List.mem_append, List.not_mem_nil, or_false] at mem
    rcases mem with rfl | mem | rfl
    · rfl
    · exact layout c mem
    · rfl
  | urn ds caseless =>
    intro c mem
    rcases List.mem_append.mp mem with front | mem
    · have lowered : c.toLower ∈ "urn:uuid:".toList := caseless ▸ List.mem_map_of_mem front
      have prefixAscii : ∀ l ∈ "urn:uuid:".toList, l.utf8Size = 1 := by
        simp [Char.utf8Size]
      rw [← utf8Size_toLower]
      exact prefixAscii _ lowered
    · exact layout c mem

/-- A text whose hyphenated part is the layout of 32 digits reads as their UUID. -/
theorem parse_of_part {s : String} {ds : List Char} {u : Uuid} (size : s.utf8ByteSize ≠ 32)
    (part : hyphenatedPart s = some (hyphenate ds)) (length : ds.length = 32)
    (digits : ofDigits ds = some u) : parse s = .ok u := by
  unfold parse
  rw [if_neg size, part]
  simp only [hyphenatedDigits_hyphenate length, Option.bind_some, digits]

/-- Every text of the four forms around 32 hexadecimal digits reads as their value. -/
theorem parse_of_form {s : String} {ds : List Char} {u : Uuid} (form : Form s.toList ds)
    (length : ds.length = 32) (value : hexDigits ds = some u.bits.toNat) : parse s = .ok u := by
  have digits : ofDigits ds = some u := ofDigits_eq_some.mpr ⟨length, value⟩
  have size : s.utf8ByteSize = s.toList.length := by
    have bytes := utf8ByteSize_ofList_ascii (form.ascii (hexDigits_eq_some value).1)
    rwa [String.ofList_toList] at bytes
  generalize text : s.toList = cs at form size
  cases form with
  | simple =>
    unfold parse
    rw [if_pos (size.trans length), text, digits]
  | hyphenated =>
    have layout : (hyphenate ds).length = 36 := length_hyphenate length
    refine parse_of_part (by omega) ?_ length digits
    unfold hyphenatedPart
    rw [if_pos (size.trans layout), text]
  | braced =>
    have layout : (hyphenate ds).length = 36 := length_hyphenate length
    refine parse_of_part (by simp [size, layout]) ?_ length digits
    unfold hyphenatedPart
    rw [if_neg (by simp [size, layout]), if_pos ⟨by simp [size, layout], by simp [text],
      by rw [text, ← List.cons_append, List.getLast?_concat]⟩]
    simp [text]
  | @urn urn ds caseless =>
    have nine : urn.length = 9 := by simpa using congrArg List.length caseless
    have layout : (hyphenate ds).length = 36 := length_hyphenate length
    have total : s.utf8ByteSize = 45 := by simp [size, layout, nine]
    have starts : startsWithUrn (urn ++ hyphenate ds) = true := by
      simp [startsWithUrn, List.take_left' nine, caseless]
    refine parse_of_part (by omega) ?_ length digits
    unfold hyphenatedPart
    rw [if_neg (by omega), if_neg (fun braced => by omega), if_pos ⟨total, text ▸ starts⟩]
    simp [text, List.drop_left' nine]

/-- The text around a hyphenated part that is the layout of `ds` is a form of `ds`. -/
theorem form_of_part {s : String} {ds : List Char} (part : hyphenatedPart s = some (hyphenate ds)) :
    Form s.toList ds := by
  unfold hyphenatedPart at part
  dsimp only at part
  split at part
  next =>
    rw [Option.some.inj part]
    exact .hyphenated ds
  next =>
    split at part
    next braced =>
      obtain ⟨-, head, last⟩ := braced
      obtain ⟨t, text⟩ := List.head?_eq_some_iff.mp head
      obtain ⟨ys, closed⟩ := List.getLast?_eq_some_iff.mp last
      rw [text] at part closed
      -- the text is an opening brace, then `t`, which ends with the closing brace
      cases ys with
      | nil => simp at closed
      | cons y ys =>
        have ends : t = ys ++ ['\x7d'] := (List.cons.inj closed).2
        subst ends
        simp only [List.drop_succ_cons, List.drop_zero, List.dropLast_concat, Option.some.injEq]
          at part
        rw [text, part]
        exact .braced ds
    next =>
      split at part
      next urn =>
        have caseless : (s.toList.take 9).map Char.toLower = "urn:uuid:".toList := by
          simpa [startsWithUrn] using urn.2
        have whole := List.take_append_drop 9 s.toList
        rw [Option.some.inj part] at whole
        rw [← whole]
        exact .urn ds caseless
      next => cases part

theorem form_of_parse {s : String} {u : Uuid} (h : parse s = .ok u) :
    ∃ ds, Form s.toList ds ∧ ds.length = 32 ∧ hexDigits ds = some u.bits.toNat := by
  unfold parse at h
  split at h
  next =>
    split at h
    next digits =>
      cases h
      exact ⟨s.toList, .simple _, ofDigits_eq_some.mp digits⟩
    next => cases h
  next =>
    split at h
    next found =>
      split at h
      next read =>
        cases h
        obtain ⟨ds, cut, digits⟩ := Option.bind_eq_some_iff.mp read
        rw [(hyphenatedDigits_eq_some cut).2] at found
        exact ⟨ds, form_of_part found, ofDigits_eq_some.mp digits⟩
      next => cases h
    next => cases h

/-- The reader accepts exactly the texts of the four forms around 32 hexadecimal digits,
and reads the value of the digits. -/
theorem parse_eq_ok_iff {s : String} {u : Uuid} :
    parse s = .ok u ↔ ∃ ds, Form s.toList ds ∧ ds.length = 32 ∧ hexDigits ds = some u.bits.toNat :=
  ⟨form_of_parse, fun ⟨_, form, length, value⟩ => parse_of_form form length value⟩

/-- The UUID of 32 digits prints as their hyphenated layout in lower case. -/
theorem toText_of_digits {ds : List Char} {u : Uuid} (length : ds.length = 32)
    (value : hexDigits ds = some u.bits.toNat) :
    u.toText.toList = hyphenate (ds.map Char.toLower) := by
  have printed := (hexDigits_eq_some value).2.2
  rw [length] at printed
  rw [toText_toList, printed]

end Uuid

end OutboxReplicator