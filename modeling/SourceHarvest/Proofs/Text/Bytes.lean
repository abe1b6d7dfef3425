import SourceHarvest.Chunk.Identity
import Std.Data.String.ToNat

/-!
# Bytes of texts

The bytes of a text are those of its characters in order, and tell the text.  Decimal digits
are one byte each.
-/

namespace SourceHarvest

theorem toList_byteArray (bytes : ByteArray) : bytes.toList = bytes.data.toList := by
  have general (index : Nat) (sofar : List UInt8) :
      ByteArray.toList.loop bytes index sofar = sofar.reverse ++ bytes.data.toList.drop index := by
    induction remaining : bytes.size - index generalizing index sofar with
    | zero =>
        have outside : ¬ index < bytes.size := by omega
        rw [ByteArray.toList.loop, if_neg outside, List.drop_of_length_le, List.append_nil]
        exact Nat.not_lt.mp outside
    | succ remaining inductionHypothesis =>
        have inside : index < bytes.size := by omega
        rw [ByteArray.toList.loop, if_pos inside, inductionHypothesis _ _ (by omega),
          List.drop_eq_getElem_cons inside, List.reverse_cons, List.append_assoc]
        have here : bytes.get! index = bytes.data.toList[index] :=
          getElem!_pos bytes.data index inside
        rw [here]
        rfl
  exact general 0 []

theorem toList_append (first second : ByteArray) :
    (first ++ second).toList = first.toList ++ second.toList := by
  simp only [toList_byteArray, ByteArray.data_append, Array.toList_append]

theorem utf8Bytes_eq (text : String) :
    utf8Bytes text = text.toList.flatMap String.utf8EncodeChar := by
  rw [utf8Bytes, toList_byteArray, String.toUTF8_eq_toByteArray, ← String.utf8Encode_toList,
    List.utf8Encode, List.toList_data_toByteArray]

theorem utf8Bytes_injective {first second : String} (same : utf8Bytes first = utf8Bytes second) :
    first = second := by
  simp only [utf8Bytes, toList_byteArray, String.toUTF8_eq_toByteArray] at same
  exact String.toByteArray_inj.mp (ByteArray.ext (Array.toList_inj.mp same))

theorem length_utf8Bytes (text : String) : (utf8Bytes text).length = text.utf8ByteSize := by
  rw [utf8Bytes, toList_byteArray, String.toUTF8_eq_toByteArray]
  rfl

/-- A text has one to four bytes for each of its characters. -/
theorem utf8ByteSize_bounds (text : String) :
    text.toList.length ≤ text.utf8ByteSize ∧ text.utf8ByteSize ≤ 4 * text.toList.length := by
  rw [← length_utf8Bytes, utf8Bytes_eq]
  induction text.toList with
  | nil => exact ⟨Nat.le_refl 0, Nat.le_refl 0⟩
  | cons c rest inductionHypothesis =>
      have positive := c.utf8Size_pos
      have width := c.utf8Size_le_four
      rw [List.flatMap_cons, List.length_append, List.length_cons, String.length_utf8EncodeChar]
      omega

theorem fromUTF8?_toUTF8 (text : String) : String.fromUTF8? text.toUTF8 = some text := by
  have valid : text.toUTF8.IsValidUTF8 := text.isValidUTF8
  rw [String.fromUTF8?, dif_pos valid]
  rfl

/-- Bytes are read as a text exactly if they are the bytes of that text. -/
theorem fromUTF8?_eq_some_iff {bytes : ByteArray} {text : String} :
    String.fromUTF8? bytes = some text ↔ bytes = text.toUTF8 := by
  constructor
  · intro read
    rw [String.fromUTF8?] at read
    split at read
    · cases read
      rfl
    · cases read
  · rintro rfl
    exact fromUTF8?_toUTF8 text

/-- A byte of ASCII is the only byte of its character. -/
theorem toNat_eq_of_mem_utf8EncodeChar {c : Char} {byte : UInt8}
    (member : byte ∈ String.utf8EncodeChar c) (ascii : byte.toNat < 0x80) :
    c.toNat = byte.toNat := by
  change c.val.toNat = _
  simp only [String.utf8EncodeChar] at member
  split at member
  · obtain rfl := List.mem_singleton.mp member
    rw [UInt8.toNat_ofNat']
    omega
  split at member
  · simp only [List.mem_cons, List.not_mem_nil, or_false] at member
    rcases member with rfl | rfl <;> rw [UInt8.toNat_ofNat'] at ascii <;> omega
  split at member
  · simp only [List.mem_cons, List.not_mem_nil, or_false] at member
    rcases member with rfl | rfl | rfl <;> rw [UInt8.toNat_ofNat'] at ascii <;> omega
  · simp only [List.mem_cons, List.not_mem_nil, or_false] at member
    rcases member with rfl | rfl | rfl | rfl <;> rw [UInt8.toNat_ofNat'] at ascii <;> omega

/-- The bytes of a text have a character of ASCII in them only if the text has. -/
theorem exists_char_of_mem_utf8Bytes {text : String} {byte : UInt8} (member : byte ∈ utf8Bytes text)
    (ascii : byte.toNat < 0x80) : ∃ c ∈ text.toList, c.toNat = byte.toNat := by
  rw [utf8Bytes_eq, List.mem_flatMap] at member
  obtain ⟨c, inside, encoded⟩ := member
  exact ⟨c, inside, toNat_eq_of_mem_utf8EncodeChar encoded ascii⟩

/-- No decimal digit is a colon. -/
theorem colon_not_mem_digits (number : Nat) : (58 : UInt8) ∉ utf8Bytes (toString number) := by
  intro member
  obtain ⟨digit, inside, value⟩ := exists_char_of_mem_utf8Bytes member (by decide)
  rw [Nat.toString_eq_repr, Nat.toList_repr] at inside
  have isDigit := Nat.isDigit_of_mem_toDigits (by decide) (by decide) inside
  have below := (Char.isDigit_iff_toNat.mp isDigit).2
  change digit.toNat ≤ 57 at below
  change digit.toNat = 58 at value
  omega

end SourceHarvest
