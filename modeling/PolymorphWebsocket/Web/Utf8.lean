import Mathlib.Data.UInt
import Mathlib.Tactic.ByContra
import Mathlib.Tactic.TypeStar

/-!
# Text and its bytes

A text is decoded from exactly the bytes it encodes to, and a leading byte-order mark is a character
like any other for the validity of what follows it.
-/

namespace Web

/-- What holds of the characters of a text is decided along the text, not over all characters. -/
instance decidableForallChars (p : Char → Prop) [DecidablePred p] (text : List Char) :
    Decidable (∀ c ∈ text, p c) :=
  List.decidableBAll p text

/-- The bytes of the encoding of U+FEFF. -/
def byteOrderMark : List UInt8 := [0xEF, 0xBB, 0xBF]

theorem toList_loop (bytes : ByteArray) (i : Nat) (acc : List UInt8) :
    ByteArray.toList.loop bytes i acc = acc.reverse ++ bytes.data.toList.drop i := by
  fun_induction ByteArray.toList.loop bytes i acc with
  | case1 i acc h ih =>
    have hlt : i < bytes.data.toList.length := by simpa using h
    have hget : bytes.get! i = bytes.data.toList[i] := by
      show bytes.data[i]! = _
      rw [getElem!_pos bytes.data i (by simpa using h)]
      rfl
    rw [ih, List.drop_eq_getElem_cons hlt, List.reverse_cons, List.append_assoc, hget]
    rfl
  | case2 i acc h =>
    rw [List.drop_eq_nil_of_le (by simpa using h), List.append_nil]

/-- The bytes of an array as a list. -/
theorem toList_eq (bytes : ByteArray) : bytes.toList = bytes.data.toList := by
  rw [ByteArray.toList, toList_loop]
  rfl

/-- The bytes are the encoding of some text. -/
def IsText (bytes : List UInt8) : Prop := ByteArray.IsValidUTF8 ⟨bytes.toArray⟩

instance (bytes : List UInt8) : Decidable (IsText bytes) :=
  inferInstanceAs (Decidable (ByteArray.IsValidUTF8 _))

theorem isText_encode (text : String) : IsText text.toUTF8.toList := by
  unfold IsText
  rw [toList_eq, Array.toArray_toList]
  exact text.isValidUTF8

/-- A text is decoded from its own encoding only. -/
theorem fromUTF8_eq_some_iff {bytes : List UInt8} {text : String} :
    String.fromUTF8? ⟨bytes.toArray⟩ = some text ↔ text.toUTF8.toList = bytes := by
  rw [toList_eq]
  unfold String.fromUTF8?
  constructor
  · intro h
    split at h
    · obtain rfl := Option.some.inj h
      rfl
    · cases h
  · rintro rfl
    have hvalid : ByteArray.IsValidUTF8 ⟨text.toUTF8.data.toList.toArray⟩ := by
      rw [Array.toArray_toList]
      exact text.isValidUTF8
    rw [dif_pos hvalid]
    apply congrArg some
    apply String.toByteArray_inj.mp
    show (⟨text.toUTF8.data.toList.toArray⟩ : ByteArray) = text.toByteArray
    rw [Array.toArray_toList]
    rfl

/-- What is no text is not decoded. -/
theorem fromUTF8_eq_none_iff {bytes : List UInt8} :
    String.fromUTF8? ⟨bytes.toArray⟩ = none ↔ ¬ IsText bytes := by
  unfold String.fromUTF8? IsText
  split
  · next h => exact ⟨nofun, fun hno => absurd h hno⟩
  · next h => exact ⟨fun _ => h, fun _ => rfl⟩

/-- A byte-order mark in front changes nothing about the validity of the rest. -/
theorem isText_mark_append (bytes : List UInt8) : IsText (byteOrderMark ++ bytes) ↔ IsText bytes := by
  have hmark : ['\uFEFF'].utf8Encode = ⟨byteOrderMark.toArray⟩ := by decide
  have happend : (⟨(byteOrderMark ++ bytes).toArray⟩ : ByteArray) =
      ['\uFEFF'].utf8Encode ++ ⟨bytes.toArray⟩ := by
    rw [hmark]
    apply ByteArray.ext
    rw [ByteArray.data_append, List.append_toArray]
  unfold IsText
  rw [happend]
  exact ByteArray.isValidUTF8_utf8Encode_singleton_append_iff

/-! ### The bytes of the characters -/

/-- The bytes of a text are those of its characters in turn. -/
theorem toUTF8_toList (text : String) :
    text.toUTF8.toList = text.toList.flatMap String.utf8EncodeChar := by
  have hbytes : text.toUTF8 = text.toList.utf8Encode := String.utf8Encode_toList.symm
  rw [hbytes, toList_eq, List.utf8Encode, List.data_toByteArray]

/-- An ASCII character is one byte. -/
theorem utf8EncodeChar_of_lt {c : Char} (h : c.toNat < 128) :
    String.utf8EncodeChar c = [UInt8.ofNat c.toNat] := by
  have hle : c.val.toNat ≤ 0x7f := Nat.le_of_lt_succ h
  unfold String.utf8EncodeChar
  rw [if_pos hle]
  rfl

/-- The bytes of every other character are none of ASCII. -/
theorem le_of_mem_utf8EncodeChar {c : Char} (h : 128 ≤ c.toNat) {b : UInt8}
    (hb : b ∈ String.utf8EncodeChar c) : 128 ≤ b.toNat := by
  have hlt : c.val.toNat < 0x110000 := by
    rcases c.valid with hlt | ⟨-, hlt⟩
    · exact Nat.lt_trans hlt (by decide)
    · exact hlt
  have hge : ¬ c.val.toNat ≤ 0x7f := fun hle => absurd (Nat.lt_succ_of_le hle) (Nat.not_lt.mpr h)
  unfold String.utf8EncodeChar at hb
  rw [if_neg hge] at hb
  split at hb
  · simp only [List.mem_cons, List.not_mem_nil, or_false] at hb
    rcases hb with rfl | rfl <;> simp only [UInt8.toNat_ofNat'] <;> omega
  · split at hb
    · simp only [List.mem_cons, List.not_mem_nil, or_false] at hb
      rcases hb with rfl | rfl | rfl <;> simp only [UInt8.toNat_ofNat'] <;> omega
    · simp only [List.mem_cons, List.not_mem_nil, or_false] at hb
      rcases hb with rfl | rfl | rfl | rfl <;> simp only [UInt8.toNat_ofNat'] <;> omega

/-- A property that an encoding gives away at every character outside of ASCII is one of the
characters. -/
theorem forall_encoded_iff {α : Type*} {encode : Char → List α} {ascii : Nat → α} {P : α → Prop}
    (hascii : ∀ c : Char, c.toNat < 128 → encode c = [ascii c.toNat])
    (hother : ∀ c : Char, 128 ≤ c.toNat → ∃ a ∈ encode c, ¬ P a) (text : List Char) :
    (∀ a ∈ text.flatMap encode, P a) ↔ ∀ c ∈ text, c.toNat < 128 ∧ P (ascii c.toNat) := by
  simp only [List.mem_flatMap]
  constructor
  · intro hall c hc
    have hlt : c.toNat < 128 := by
      by_contra hge
      obtain ⟨a, ha, hno⟩ := hother c (Nat.not_lt.mp hge)
      exact hno (hall a ⟨c, hc, ha⟩)
    refine ⟨hlt, hall _ ⟨c, hc, ?_⟩⟩
    rw [hascii c hlt]
    exact List.mem_singleton_self _
  · rintro hall a ⟨c, hc, ha⟩
    obtain ⟨hlt, hP⟩ := hall c hc
    rw [hascii c hlt, List.mem_singleton] at ha
    rw [ha]
    exact hP

/-- Bytes that are all of ASCII are the codes of characters that are. -/
theorem forall_bytes_iff {P : UInt8 → Prop} (hascii : ∀ b, P b → b.toNat < 128) (text : String) :
    (∀ b ∈ text.toUTF8.toList, P b) ↔
      ∀ c ∈ text.toList, c.toNat < 128 ∧ P (UInt8.ofNat c.toNat) := by
  rw [toUTF8_toList]
  refine forall_encoded_iff (fun c hlt => utf8EncodeChar_of_lt hlt) (fun c hge => ?_) text.toList
  obtain ⟨b, hb⟩ := List.exists_mem_of_ne_nil _ (String.utf8EncodeChar_ne_nil (c := c))
  refine ⟨b, hb, fun hP => ?_⟩
  have hle := le_of_mem_utf8EncodeChar hge hb
  have hlt := hascii b hP
  omega

end Web
