import Mathlib

/-!
# Text: UTF-8

A text is its characters' bytes, one behind the other. What reads bytes as a text gives the only
text with these bytes, and a character's bytes are found at the end of a text only where the text
ends in that character.
-/

namespace TrafficMap.Text

/-! ## Lists of bytes -/

theorem toList_loop_eq (bytes : ByteArray) (i : Nat) (read : List UInt8) :
    ByteArray.toList.loop bytes i read = read.reverse ++ bytes.data.toList.drop i := by
  fun_induction ByteArray.toList.loop bytes i read with
  | case1 i read hlt ih =>
    have hi : i < bytes.data.toList.length := by simpa using hlt
    rw [ih, List.drop_eq_getElem_cons hi]
    simp [ByteArray.get!, hlt]
  | case2 i read hge =>
    rw [List.drop_eq_nil_of_le (by simpa using Nat.le_of_not_lt hge), List.append_nil]

theorem toList_eq_toList_data (bytes : ByteArray) : bytes.toList = bytes.data.toList := by
  rw [ByteArray.toList, toList_loop_eq]
  rfl

/-! ## Characters -/

theorem toList_toUTF8_singleton (c : Char) :
    (String.singleton c).toUTF8.toList = String.utf8EncodeChar c := by
  rw [toList_eq_toList_data, String.toUTF8, String.toByteArray_singleton, List.utf8Encode_singleton,
    List.toList_data_toByteArray]

theorem utf8EncodeChar_injective : Function.Injective String.utf8EncodeChar := by
  intro c d h
  have hc := @ByteArray.utf8DecodeChar?_utf8EncodeChar_append .empty c
  rw [h, ByteArray.utf8DecodeChar?_utf8EncodeChar_append] at hc
  exact (Option.some.inj hc).symm

/-- A byte of a character is the character itself, or none of ASCII. -/
theorem toNat_of_mem_utf8EncodeChar (c : Char) :
    ∀ b ∈ String.utf8EncodeChar c, b.toNat = c.toNat ∨ 0x80 ≤ b.toNat := by
  have hval : c.val.toNat = c.toNat := rfl
  rw [String.utf8EncodeChar, hval]
  split_ifs <;> simp <;> omega

/-- The bytes of a character end in those of another one only if the two are the same: behind the
first byte of a character there is no other one that could be first. -/
theorem eq_of_utf8EncodeChar_suffix {c d : Char}
    (h : String.utf8EncodeChar c <:+ String.utf8EncodeChar d) : c = d := by
  obtain ⟨front, hfront⟩ := h
  have hpos : 0 < (String.utf8EncodeChar c).length := by
    rw [String.length_utf8EncodeChar]
    exact c.utf8Size_pos
  have hindex : front.length < (String.utf8EncodeChar d).length := by
    rw [← hfront, List.length_append]
    omega
  have hbyte : (String.utf8EncodeChar d)[front.length] = (String.utf8EncodeChar c)[0] := by
    simp [← hfront]
  -- Where the suffix begins there is a first byte, so it begins at the first place.
  have hfirst : (String.utf8EncodeChar d)[front.length].IsUTF8FirstByte := by
    rw [hbyte, UInt8.isUTF8FirstByte_getElem_utf8EncodeChar]
  rw [UInt8.isUTF8FirstByte_getElem_utf8EncodeChar] at hfirst
  rw [List.eq_nil_of_length_eq_zero hfirst, List.nil_append] at hfront
  exact utf8EncodeChar_injective hfront

/-! ## Texts -/

/-- The bytes of characters in UTF-8. -/
def utf8Bytes (cs : List Char) : List UInt8 := cs.flatMap String.utf8EncodeChar

@[simp]
theorem utf8Bytes_nil : utf8Bytes [] = [] := rfl

@[simp]
theorem utf8Bytes_cons (c : Char) (cs : List Char) :
    utf8Bytes (c :: cs) = String.utf8EncodeChar c ++ utf8Bytes cs := rfl

theorem utf8Bytes_append (cs ds : List Char) :
    utf8Bytes (cs ++ ds) = utf8Bytes cs ++ utf8Bytes ds := List.flatMap_append

/-- Bytes are read as the text that has them, if there is one. -/
theorem fromUTF8?_eq_some_iff (bytes : List UInt8) (s : String) :
    String.fromUTF8? (ByteArray.mk bytes.toArray) = some s ↔ utf8Bytes s.toList = bytes := by
  -- Arrays of bytes and lists of bytes are made the same kind of thing first.
  have hbytes : utf8Bytes s.toList = bytes ↔ s.toByteArray = ByteArray.mk bytes.toArray := by
    have hs : s.toByteArray = (utf8Bytes s.toList).toByteArray := by
      rw [← String.ofList_toList (s := s), String.toByteArray_ofList, String.toList_ofList]
      rfl
    have hdata : ByteArray.mk bytes.toArray = bytes.toByteArray := by
      apply ByteArray.ext
      rw [List.data_toByteArray]
    rw [hs, hdata, List.toByteArray_inj]
  rw [hbytes, String.fromUTF8?]
  constructor
  · intro h
    split at h
    · rw [← Option.some.inj h]
      rfl
    · cases h
  · intro h
    rw [← h, dif_pos s.isValidUTF8]
    rfl

/-- Where the bytes of a text end in those of a character, the text ends in the character. -/
theorem mem_of_utf8Bytes_eq_append {cs : List Char} {front : List UInt8} {c : Char}
    (h : utf8Bytes cs = front ++ String.utf8EncodeChar c) : c ∈ cs := by
  obtain rfl | ⟨before, d, rfl⟩ := cs.eq_nil_or_concat'
  · have hnil := List.append_eq_nil_iff.mp h.symm
    exact absurd hnil.2 String.utf8EncodeChar_ne_nil
  · rw [utf8Bytes_append, utf8Bytes_cons, utf8Bytes_nil, List.append_nil,
      List.append_eq_append_iff] at h
    have hcd : c = d := by
      obtain ⟨middle, -, hd⟩ | ⟨middle, -, hc⟩ := h
      · exact eq_of_utf8EncodeChar_suffix ⟨middle, hd.symm⟩
      · exact (eq_of_utf8EncodeChar_suffix ⟨middle, hc.symm⟩).symm
    rw [hcd]
    exact List.mem_append_right before List.mem_cons_self

end TrafficMap.Text
