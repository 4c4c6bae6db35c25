import Mathlib
import TrafficMap.Proofs.Json.Outcome
import TrafficMap.Proofs.Text.Utf8

/-!
# JSON: Strings

Strings as the grammar writes them: they are read as the text that they mean, or not at all if half
of a surrogate pair stands alone, and they are passed over in either case.
-/

namespace TrafficMap.Json

open Text (utf8Bytes)

/-! ## Characters -/

/-- A byte that stands for itself in a string. -/
def IsPlainByte (b : UInt8) : Prop := b ≠ byte '"' ∧ b ≠ byte '\\' ∧ ¬ b < 0x20

/-- A character that may stand in a string as it is consists of bytes that may. -/
theorem isPlainByte_of_mem {c : Char} (h : IsPlain c) {b : UInt8}
    (hb : b ∈ String.utf8EncodeChar c) : IsPlainByte b := by
  obtain ⟨hcontrol, hquote, hbackslash⟩ := h
  have hquote : c.toNat ≠ 0x22 := fun hc => hquote (Char.toNat_inj.mp hc)
  have hbackslash : c.toNat ≠ 0x5C := fun hc => hbackslash (Char.toNat_inj.mp hc)
  have hnat := Text.toNat_of_mem_utf8EncodeChar c b hb
  simp only [IsPlainByte, ne_eq, ← UInt8.toNat_inj, UInt8.lt_iff_toNat_lt]
  change ¬ b.toNat = 0x22 ∧ ¬ b.toNat = 0x5C ∧ ¬ b.toNat < 0x20
  omega

theorem hexValue?_byte (d : HexDigit) : hexValue? d.byte = some d.value.val := by
  obtain ⟨value, capital⟩ := d
  decide +revert

theorem fourHex?_bytes (u : CodeUnit) :
    fourHex? u.first.byte u.second.byte u.third.byte u.fourth.byte = some u.value := by
  simp [fourHex?, hexValue?_byte, CodeUnit.value]

theorem letterEscape?_byte (l : Letter) : letterEscape? l.byte = some (byte l.char) := by
  cases l <;> decide

theorem letter_byte_ne_u (l : Letter) : l.byte ≠ byte 'u' := by cases l <;> decide

theorem utf8EncodeChar_char (l : Letter) : String.utf8EncodeChar l.char = [byte l.char] := by
  cases l <;> decide

theorem utf8_eq (n : Nat) : utf8 n = String.utf8EncodeChar (Char.ofNat n) :=
  Text.toList_toUTF8_singleton _

@[simp]
theorem stringBody_nil : stringBody [] = [byte '"'] := rfl

@[simp]
theorem stringBody_cons (p : Piece) (ps : List Piece) :
    stringBody (p :: ps) = p.bytes ++ stringBody ps := by
  simp [stringBody]

/-! ## Reading escapes -/

theorem taken_hexEscape (u : CodeUnit) (r : List UInt8) :
    taken (hexEscape (u.bytes ++ r)) = some (u.value, r) := by
  simp only [CodeUnit.bytes, List.cons_append, List.nil_append, hexEscape]
  rw [fourHex?_bytes]
  rfl

theorem taken_trailingEscape_u (r : List UInt8) :
    taken (trailingEscape (byte '\\' :: byte 'u' :: r)) =
      (taken (hexEscape r)).bind fun (n, r') => if isTrailing n then some (n, r') else none := by
  simp only [trailingEscape, bne_self_eq_false, Bool.false_eq_true, if_false]
  cases hexEscape r with
  | error f => rfl
  | ok q =>
    simp only [taken_ok, Option.bind_some]
    split_ifs <;> rfl

/-- Nothing but another numbered escape is the second half of a pair. -/
theorem taken_trailingEscape_eq_none {ps : List Piece}
    (h : ∀ v ps', ps ≠ .numbered v :: ps') (r : List UInt8) :
    taken (trailingEscape (stringBody ps ++ r)) = none := by
  cases ps with
  -- The closing quote is no backslash, and neither does any other piece begin with `\u`.
  | nil => rfl
  | cons p ps =>
    cases p with
    | numbered v => exact absurd rfl (h v ps)
    | letter l =>
      rw [stringBody_cons, Piece.bytes, List.append_assoc]
      simp [trailingEscape, letter_byte_ne_u]
    | plain c hc =>
      obtain ⟨b, bs, hbytes⟩ := List.exists_cons_of_ne_nil (String.utf8EncodeChar_ne_nil (c := c))
      have hplain : IsPlainByte b := isPlainByte_of_mem hc (by simp [hbytes])
      rw [stringBody_cons, Piece.bytes, hbytes, List.append_assoc]
      simp [trailingEscape, hplain.2.1]

theorem taken_numberedEscape (s : List UInt8) :
    taken (numberedEscape s) =
      (taken (hexEscape s)).bind fun (n, r) =>
        if isTrailing n then none
        else if isLeading n then (taken (trailingEscape r)).map (Prod.map (pairValue n) id)
        else some (n, r) := by
  rw [numberedEscape]
  cases hexEscape s with
  | error f => rfl
  | ok q =>
    simp only [taken_ok, Option.bind_some]
    split_ifs
    · rfl
    · cases trailingEscape q.2.1 <;> rfl
    · rfl

theorem taken_escape_letter (l : Letter) (r : List UInt8) :
    taken (escape (l.byte :: r)) = some ([byte l.char], r) := by
  simp only [escape, beq_iff_eq, letter_byte_ne_u, if_false]
  rw [letterEscape?_byte]
  rfl

theorem taken_escape_u (r : List UInt8) :
    taken (escape (byte 'u' :: r)) = (taken (numberedEscape r)).map (Prod.map utf8 id) := by
  simp only [escape, beq_self_eq_true, if_true]
  cases numberedEscape r <;> rfl

/-! ## Reading strings -/

theorem outcome_stringBytes_quote (r : List UInt8) :
    outcome (stringBytes (byte '"' :: r)) = some ([], r) := by
  rw [stringBytes]
  rfl

theorem outcome_stringBytes_plain {bs : List UInt8} (h : ∀ b ∈ bs, IsPlainByte b)
    (r : List UInt8) :
    outcome (stringBytes (bs ++ r)) = (outcome (stringBytes r)).map (Prod.map (bs ++ ·) id) := by
  induction bs with
  | nil => exact (congrFun Option.map_id _).symm
  | cons b bs ih =>
    obtain ⟨⟨hquote, hbackslash, hcontrol⟩, h⟩ := List.forall_mem_cons.mp h
    have hrest : outcome (stringBytes (b :: (bs ++ r))) =
        (outcome (stringBytes (bs ++ r))).map (Prod.map (b :: ·) id) := by
      rw [stringBytes]
      simp only [beq_iff_eq, hquote, hbackslash, hcontrol, if_false]
      cases stringBytes (bs ++ r) <;> rfl
    rw [List.cons_append, hrest, ih h, Option.map_map]
    rfl

theorem outcome_stringBytes_escape (r : List UInt8) :
    outcome (stringBytes (byte '\\' :: r)) =
      (taken (escape r)).bind fun (bytes, r') =>
        (outcome (stringBytes r')).map (Prod.map (bytes ++ ·) id) := by
  rw [stringBytes]
  simp only [beq_self_eq_true, if_true, show (byte '\\' == byte '"') = false from rfl]
  cases escape r with
  | error f => rfl
  | ok q =>
    simp only [taken_ok, Option.bind_some]
    cases stringBytes q.2.1 <;> rfl

theorem outcome_stringBytes_numbered (u : CodeUnit) (r : List UInt8) :
    outcome (stringBytes ((Piece.numbered u).bytes ++ r)) =
      (if isTrailing u.value then none
        else if isLeading u.value then
          (taken (trailingEscape r)).map (Prod.map (pairValue u.value) id)
        else some (u.value, r)).bind fun (n, r') =>
          (outcome (stringBytes r')).map
            (Prod.map (String.utf8EncodeChar (Char.ofNat n) ++ ·) id) := by
  simp only [Piece.bytes, List.cons_append]
  rw [outcome_stringBytes_escape, taken_escape_u, taken_numberedEscape, taken_hexEscape]
  simp [Option.bind_map, utf8_eq]

/-- The bytes of a string are those of its characters. -/
theorem outcome_stringBytes (ps : List Piece) (r : List UInt8) :
    outcome (stringBytes (stringBody ps ++ r)) = (chars? ps).map fun cs => (utf8Bytes cs, r) := by
  -- One case for every way a piece means a character, and three in which a half stands alone.
  fun_induction chars? ps with
  | case1 => exact outcome_stringBytes_quote r
  | case2 c hc ps ih =>
    rw [stringBody_cons, Piece.bytes, List.append_assoc,
      outcome_stringBytes_plain fun b => isPlainByte_of_mem hc, ih]
    simp [Function.comp_def]
  | case3 l ps ih =>
    rw [stringBody_cons, Piece.bytes, List.append_assoc]
    simp only [List.cons_append, List.nil_append]
    rw [outcome_stringBytes_escape, taken_escape_letter]
    simp [ih, Function.comp_def, utf8EncodeChar_char]
  | case4 u ps htrailing =>
    rw [stringBody_cons, List.append_assoc, outcome_stringBytes_numbered, if_pos htrailing]
    rfl
  | case5 u htrailing hleading v ps hpair ih =>
    rw [stringBody_cons, List.append_assoc, outcome_stringBytes_numbered, if_neg htrailing,
      if_pos hleading, stringBody_cons, Piece.bytes, List.append_assoc]
    simp only [List.cons_append]
    rw [taken_trailingEscape_u, taken_hexEscape]
    simp [hpair, ih, Function.comp_def]
  | case6 u htrailing hleading v ps hpair =>
    rw [stringBody_cons, List.append_assoc, outcome_stringBytes_numbered, if_neg htrailing,
      if_pos hleading, stringBody_cons, Piece.bytes, List.append_assoc]
    simp only [List.cons_append]
    rw [taken_trailingEscape_u, taken_hexEscape]
    simp [hpair]
  | case7 u ps htrailing hleading hother =>
    rw [stringBody_cons, List.append_assoc, outcome_stringBytes_numbered, if_neg htrailing,
      if_pos hleading, taken_trailingEscape_eq_none hother]
    rfl
  | case8 u ps htrailing hleading ih =>
    rw [stringBody_cons, List.append_assoc, outcome_stringBytes_numbered, if_neg htrailing,
      if_neg hleading]
    simp [ih, Function.comp_def]

/-- A string is read as the text that it means. -/
theorem outcome_stringTail (ps : List Piece) (r : List UInt8) :
    outcome (stringTail (stringBody ps ++ r)) = (text? ps).map fun text => (text, r) := by
  have h := outcome_stringBytes ps r
  rw [stringTail, text?]
  cases hbytes : stringBytes (stringBody ps ++ r) with
  | error f =>
    rw [hbytes, outcome_error, eq_comm, Option.map_eq_none_iff] at h
    simp [h]
  | ok p =>
    rw [hbytes, outcome_ok, eq_comm, Option.map_eq_some_iff] at h
    obtain ⟨cs, hcs, hp⟩ := h
    -- What has been gathered are the bytes of `cs`, and no other text has them.
    obtain ⟨hvalue, hrest⟩ := Prod.mk.inj hp
    have htext : String.fromUTF8? (ByteArray.mk p.value.toArray) = some (String.ofList cs) := by
      rw [Text.fromUTF8?_eq_some_iff, String.toList_ofList]
      exact hvalue
    simpa [hcs, htext] using hrest.symm

/-! ## Passing over strings -/

theorem remainder_skipString_plain {bs : List UInt8} (h : ∀ b ∈ bs, IsPlainByte b)
    (r : List UInt8) : remainder (skipString (bs ++ r)) = remainder (skipString r) := by
  induction bs with
  | nil => rfl
  | cons b bs ih =>
    obtain ⟨⟨hquote, hbackslash, hcontrol⟩, h⟩ := List.forall_mem_cons.mp h
    rw [List.cons_append, skipString.eq_def, ← ih h]
    simp only [beq_iff_eq, hquote, hbackslash, hcontrol, if_false]
    cases skipString (bs ++ r) <;> rfl

theorem remainder_skipString_letter (l : Letter) (r : List UInt8) :
    remainder (skipString ((Piece.letter l).bytes ++ r)) = remainder (skipString r) := by
  simp only [Piece.bytes, List.cons_append, List.nil_append]
  rw [skipString.eq_def]
  simp only [beq_iff_eq, letter_byte_ne_u, letterEscape?_byte]
  cases skipString r <;> rfl

theorem remainder_skipString_u (s : List UInt8) :
    remainder (skipString (byte '\\' :: byte 'u' :: s)) =
      (taken (hexEscape s)).bind fun q => remainder (skipString q.2) := by
  rw [skipString.eq_def]
  simp only [beq_self_eq_true, if_true, show (byte '\\' == byte '"') = false from rfl]
  cases hexEscape s with
  | error f => rfl
  | ok q =>
    simp only [taken_ok, Option.bind_some]
    cases skipString q.2.1 <;> rfl

/-- A string is passed over whatever it means. -/
theorem remainder_skipString (ps : List Piece) (r : List UInt8) :
    remainder (skipString (stringBody ps ++ r)) = some r := by
  induction ps with
  | nil =>
    rw [stringBody_nil, List.singleton_append, skipString.eq_def]
    rfl
  | cons p ps ih =>
    rw [stringBody_cons, List.append_assoc, ← ih]
    cases p with
    | plain c hc => exact remainder_skipString_plain (fun b => isPlainByte_of_mem hc) _
    | letter l => exact remainder_skipString_letter l _
    -- Also half a pair is passed over, although it has no meaning.
    | numbered u =>
      simp only [Piece.bytes, List.cons_append]
      rw [remainder_skipString_u, taken_hexEscape]
      rfl

end TrafficMap.Json
