import Mathlib
import TrafficMap.Proofs.Json.Typed
import TrafficMap.Proofs.Report.Leniency

/-!
# Reports: Documents

Which JSON texts are read as reports. Reading the bytes of an object comes to the same as reading
the parsed document, as long as everything that has to be parsed means something. What stands behind
a key that means no field never has to.
-/

namespace TrafficMap.Report

open Json (Blank Value Fault Reader Tree Items Members Piece EndsNumber outcome skipBlanks text?
  gatherMembers documentBytes blanks)

variable {s r : List UInt8} {d : Draft} {key : String}

/-! ## Members -/

/-- Takes a member whose value has still to be made out. -/
def takeMember (key : String) (t : Tree) (d : Draft) : Option Draft :=
  match Field.ofKey? key with
  | none => some d
  | some _ => (t.value? fieldDepth).bind fun v => (addMember d key v).toOption

theorem find?_recordType (key : String) :
    recordType.fields.find? (·.keys.contains key) =
      (Field.ofKey? key).map fun f => recordField f f.keys := by
  -- Both tables have the same keys, so looking up the one is looking up the other.
  have hcontains (f : Field) : (f.keys.contains key) = decide (Field.ofKey? key = some f) := by
    rw [List.contains_eq_mem, decide_eq_decide, ofKey?_eq_some_iff]
  have hfields : recordType.fields =
      [Field.services, .links, .timestamp, .source].map fun f => recordField f f.keys := rfl
  rw [hfields, List.find?_map]
  change Option.map _ (List.find? (fun f : Field => f.keys.contains key) _) = _
  simp only [hcontains]
  cases hkey : Field.ofKey? key with
  | none => rfl
  | some f => cases f <;> rfl

theorem outcome_fieldReader (t : Tree) {f : Field} (hkey : Field.ofKey? key = some f)
    (hhas : d.has f = false) (h : skipBlanks s = t.bytes ++ r) (hr : EndsNumber r) :
    outcome (fieldReader f d s) = (takeMember key t d).map fun d => (d, r) := by
  rw [takeMember, hkey]
  -- The links alone are read as a list, whose brackets are one level of the nesting allowed.
  by_cases hlinks : f = .links
  · subst hlinks
    have hadd (v : Value) : (addMember d key v).toOption = (Json.itemsOf? v).map d.putLinks := by
      cases v <;> simp [addMember, hkey, hhas, Json.itemsOf?] <;> rfl
    have hlist : outcome (Json.listReader (Json.value (fieldDepth - 1)) s) =
        ((t.value? fieldDepth).bind Json.itemsOf?).map fun items => (items, r) :=
      Json.outcome_listReader t 125 h
    rw [fieldReader, Reader.map, Json.outcome_map, hlist]
    simp only [hadd]
    cases t.value? fieldDepth with
    | none => rfl
    | some v => cases hitems : Json.itemsOf? v <;> simp [hitems]
  · have hadd (v : Value) : (addMember d key v).toOption = some (d.put f v) := by
      rw [addMember_of_put hkey hhas hlinks]
      rfl
    have hreader : fieldReader f d = (Json.value fieldDepth).map (d.put f) := by
      cases f with
      | links => exact absurd rfl hlinks
      | _ => rfl
    rw [hreader, Reader.map, Json.outcome_map, Json.outcome_value t h hr]
    simp only [hadd]
    cases t.value? fieldDepth <;> rfl

/-- A member is read as the draft that its value makes of the one before it. -/
theorem outcome_memberReader (t : Tree) (key : String) (d : Draft)
    (h : skipBlanks s = t.bytes ++ r) (hr : EndsNumber r) :
    ((recordType.memberReader key d).toOption.bind fun f => outcome (f s)) =
      (takeMember key t d).map fun d => (d, r) := by
  rw [Json.RecordType.memberReader, find?_recordType]
  cases hkey : Field.ofKey? key with
  | none =>
    -- An unknown member is passed over, whatever its value means.
    have hskip : outcome (Json.skipValue.map (fun _ => d) s) = some (d, r) := by
      rw [Reader.map, Json.outcome_map, Json.outcome_skipValue t h hr]
      rfl
    rw [takeMember, hkey]
    exact hskip
  | some f =>
    cases hhas : d.has f with
    | true =>
      simp [hhas, recordField, Except.toOption, takeMember, hkey, addMember]
    | false =>
      rw [← outcome_fieldReader t hkey hhas h hr]
      simp [hhas, recordField, Except.toOption]

/-! ## Documents -/

/-- The member that a parsed document has in the place of a written one. What stands behind a key
that means no field is not made out. -/
def memberOf? (m : List Piece × Tree) : Option (String × Value) :=
  (text? m.1).bind fun key =>
    if (Field.ofKey? key).isSome then (m.2.value? fieldDepth).map fun v => (key, v)
    else some (key, .null)

/-- Members are taken as the parsed members are. -/
theorem gatherMembers_takeMember (ms : List (List Piece × Tree)) :
    gatherMembers takeMember d ms =
      (ms.mapM memberOf?).bind fun members => (addMembers d members).toOption := by
  -- Both sides take the first member on their own, and fail if it or any later one fails; which of
  -- two faults comes first makes no difference here.
  induction ms generalizing d with
  | nil => rfl
  | cons m ms ih =>
    have hfirst : gatherMembers takeMember d (m :: ms) = (memberOf? m).bind fun kv =>
        (addMember d kv.1 kv.2).toOption.bind fun d => gatherMembers takeMember d ms := by
      rw [gatherMembers, List.foldlM_cons, memberOf?]
      cases text? m.1 with
      | none => rfl
      | some key =>
        rw [Option.bind_some, Option.bind_some, takeMember]
        cases hkey : Field.ofKey? key with
        | none =>
          simp [addMember, hkey, Except.toOption, gatherMembers]
        | some f =>
          cases m.2.value? fieldDepth <;> rfl
    have hall : (((m :: ms).mapM memberOf?).bind fun members => (addMembers d members).toOption) =
        (memberOf? m).bind fun kv => (addMember d kv.1 kv.2).toOption.bind fun d =>
          (ms.mapM memberOf?).bind fun members => (addMembers d members).toOption := by
      rw [List.mapM_cons]
      cases memberOf? m with
      | none => rfl
      | some kv =>
        cases hadd : addMember d kv.1 kv.2 with
        | error f =>
          cases ms.mapM memberOf? <;> simp [addMembers, hadd, Except.toOption]
        | ok d' =>
          cases ms.mapM memberOf? <;> simp [addMembers, hadd, Except.toOption]
    rw [hfirst, hall]
    simp only [ih]

/-- The bytes of an object are read as the parsed document is. So what holds of parsed documents
holds of their bytes, except that numbers and strings have to mean something. -/
theorem toOption_ofBytes (before after : List Blank) (members : Members) :
    (ofBytes (documentBytes before (.object members) after)).toOption =
      (members.list.mapM memberOf?).bind fun ms => (ofValue (.object ms)).toOption := by
  have hblanks : skipBlanks (documentBytes before (.object members) after) =
      (Tree.object members).bytes ++ blanks after := Tree.skipBlanks_blanks ..
  have hreader := recordType.outcome_reader Draft.empty Draft.finish members
    (fun m _ key d s r => outcome_memberReader m.2 key d) hblanks
  rw [ofBytes, Json.toOption_document hreader, gatherMembers_takeMember]
  -- A member without a meaning spoils the document; otherwise the draft decides.
  cases members.list.mapM memberOf? with
  | none => rfl
  | some ms =>
    rw [Option.bind_some, Option.bind_some, ofValue]
    cases addMembers Draft.empty ms <;> rfl

/-! ## Which documents are reports -/

variable {ms : List (List Piece × Tree)}

/-- The keys of the members, as far as they mean a text. -/
def namesOf (ms : List (List Piece × Tree)) : List String := ms.filterMap fun m => text? m.1

/-- No key that means a field occurs twice, however it is written. -/
def NamesOnce (ms : List (List Piece × Tree)) : Prop :=
  ∀ key ∈ knownKeys, (namesOf ms).count key ≤ 1

instance (ms : List (List Piece × Tree)) : Decidable (NamesOnce ms) :=
  inferInstanceAs (Decidable (∀ key ∈ knownKeys, (namesOf ms).count key ≤ 1))

/-- A list stands under one of the two keys of the links, and the other key is missing. -/
def IsLinkItems (ms : List (List Piece × Tree)) (items : Items) : Prop :=
  (∃ ps, text? ps = some "links" ∧ (ps, .array items) ∈ ms) ∧ "edges" ∉ namesOf ms ∨
    (∃ ps, text? ps = some "edges" ∧ (ps, .array items) ∈ ms) ∧ "links" ∉ namesOf ms

/-- The key means a text, and if the text is that of a field, everything in the value behind it
means something and is not too deep down. Behind an unknown key anything may stand that is written
correctly. -/
def IsReadable (m : List Piece × Tree) : Prop :=
  ∃ key, text? m.1 = some key ∧
    (key ∈ knownKeys → m.2.IsSound ∧ m.2.depth < fieldDepth)

theorem isSome_memberOf?_iff (m : List Piece × Tree) : (memberOf? m).isSome ↔ IsReadable m := by
  rw [memberOf?, IsReadable]
  cases text? m.1 with
  | none => simp
  | some key =>
    cases hkey : Field.ofKey? key with
    | none => simp [hkey, ofKey?_eq_none_iff.mp hkey]
    | some f =>
      have hknown : key ∈ knownKeys := by
        by_contra hnot
        simp [ofKey?_eq_none_iff.mpr hnot] at hkey
      simp [hkey, hknown, Tree.value?_isSome_iff (show 0 < fieldDepth by decide)]

theorem isSome_mapM_iff {α β : Type} {f : α → Option β} {l : List α} :
    (l.mapM f).isSome ↔ ∀ a ∈ l, (f a).isSome := by
  induction l with
  | nil => simp
  | cons a l ih =>
    rw [List.mapM_cons, List.forall_mem_cons, ← ih]
    cases f a <;> cases l.mapM f <;> simp

theorem map_eq_of_mapM_eq_some {α β : Type} {f : α → Option β} {l : List α} :
    ∀ {l' : List β}, l.mapM f = some l' → l.map f = l'.map some := by
  induction l with
  | nil => simp
  | cons a l ih =>
    intro l' h
    rw [List.mapM_cons] at h
    cases ha : f a with
    | none => simp [ha] at h
    | some b =>
      cases hl : l.mapM f with
      | none => simp [hl] at h
      | some bs =>
        obtain rfl : b :: bs = l' := by simpa [ha, hl] using h
        rw [List.map_cons, List.map_cons, ha, ih hl]

section Meaning

variable {vs : List (String × Value)}

theorem text?_of_memberOf? {m : List Piece × Tree} {kv : String × Value}
    (h : memberOf? m = some kv) : text? m.1 = some kv.1 := by
  obtain ⟨key, hkey, hkv⟩ := Option.bind_eq_some_iff.mp h
  rw [hkey]
  split at hkv
  · obtain ⟨v, -, rfl⟩ := Option.map_eq_some_iff.mp hkv
    rfl
  · cases hkv
    rfl

/-- A written list in the place of a field is a list in the parsed document. -/
theorem exists_array_of_memberOf? {ps : List Piece} {items : Items} {kv : String × Value}
    (h : memberOf? (ps, .array items) = some kv) (hps : text? ps = some key)
    (hkey : key ∈ knownKeys) : ∃ values, kv = (key, .array values) := by
  have hknown : (Field.ofKey? key).isSome := by
    by_contra hnone
    exact ofKey?_eq_none_iff.mp (Option.not_isSome_iff_eq_none.mp hnone) hkey
  rw [memberOf?, hps, Option.bind_some, if_pos hknown] at h
  obtain ⟨v, hv, rfl⟩ := Option.map_eq_some_iff.mp h
  obtain ⟨values, -, rfl⟩ := Option.map_eq_some_iff.mp hv
  exact ⟨values, rfl⟩

theorem keys_eq_namesOf (h : ms.map memberOf? = vs.map some) : Json.keys vs = namesOf ms := by
  induction ms generalizing vs with
  | nil =>
    obtain rfl := List.map_eq_nil_iff.mp h.symm
    rfl
  | cons m ms ih =>
    obtain ⟨kv, vs, rfl, hm, hms⟩ := List.map_eq_cons_iff.mp h.symm
    rw [namesOf, List.filterMap_cons, text?_of_memberOf? hm.symm, Json.keys, List.map_cons]
    exact congrArg (kv.1 :: ·) (ih hms.symm)

theorem isLinkList_of_isLinkItems (h : ms.map memberOf? = vs.map some) {items : Items}
    (hitems : IsLinkItems ms items) : ∃ values, IsLinkList vs values := by
  -- Members as written and members as meant stand side by side, so a list on one side is one on the
  -- other.
  have hlist {key : String} {ps : List Piece} (hps : text? ps = some key)
      (hkey : key ∈ knownKeys) (hmem : (ps, Tree.array items) ∈ ms) :
      ∃ values, (key, Value.array values) ∈ vs := by
    have hmeans : memberOf? (ps, .array items) ∈ vs.map some := h ▸ List.mem_map_of_mem hmem
    obtain ⟨kv, hkv, hmember⟩ := List.mem_map.mp hmeans
    obtain ⟨values, rfl⟩ := exists_array_of_memberOf? hmember.symm hps hkey
    exact ⟨values, hkv⟩
  rw [IsLinkItems, ← keys_eq_namesOf h] at hitems
  obtain ⟨⟨ps, hps, hmem⟩, habsent⟩ | ⟨⟨ps, hps, hmem⟩, habsent⟩ := hitems
  · obtain ⟨values, hvalues⟩ := hlist hps (by decide) hmem
    exact ⟨values, .inl ⟨hvalues, habsent⟩⟩
  · obtain ⟨values, hvalues⟩ := hlist hps (by decide) hmem
    exact ⟨values, .inr ⟨hvalues, habsent⟩⟩

end Meaning

theorem exists_eq_ok_iff_isSome {α : Type} {e : Except Fault α} :
    (∃ v, e = .ok v) ↔ e.toOption.isSome := by
  cases e <;> simp [Except.toOption]

/-- A document whose links are there as a list, and in which no field comes twice, is read exactly
when every key in it and every value of a field means something.

A value behind the key of a field is made out as a whole before its entries are read one by one; so
a number that no float holds spoils the document even in the field of an entry that nobody looks at.
Behind other keys a value is only passed over. -/
theorem exists_ofBytes_eq_ok_iff (before after : List Blank) {members : Members}
    (honce : NamesOnce members.list) (hlinks : ∃ items, IsLinkItems members.list items) :
    (∃ r, ofBytes (documentBytes before (.object members) after) = .ok r) ↔
      ∀ m ∈ members.list, IsReadable m := by
  -- The members mean something one and all, or there is no parsed document to read.
  simp only [exists_eq_ok_iff_isSome, toOption_ofBytes, ← isSome_memberOf?_iff, ← isSome_mapM_iff]
  cases hmembers : members.list.mapM memberOf? with
  | none => simp
  | some vs =>
    have hmeans := map_eq_of_mapM_eq_some hmembers
    obtain ⟨items, hitems⟩ := hlinks
    have hknown : KnownOnce vs := by
      rw [KnownOnce, keys_eq_namesOf hmeans]
      exact honce
    have hread := (exists_ofValue_eq_ok_iff hknown).mpr (isLinkList_of_isLinkItems hmeans hitems)
    simpa using exists_eq_ok_iff_isSome.mp hread

/-! ## Numbers that no float holds -/

/-- A member without blanks and escapes. -/
def plainMember (key : List Char) (h : key.all (fun c => decide (Json.IsPlain c)) = true) (t : Tree)
    (others : Members) : Members :=
  .member [] (Json.plainPieces key h) [] [] t [] others

theorem digit_one_ne_zero : Json.digit 1 ≠ 0 := by decide

/-- The number `1e999`. -/
def largeNumeral : Json.Numeral :=
  ⟨false, .positive ⟨Json.digit 1, []⟩ digit_one_ne_zero, none,
    some ⟨false, .absent, ⟨Json.digit 9, [Json.digit 9, Json.digit 9]⟩⟩⟩

/-- A large number behind a key that means no field. Of the links, one is no entry at all, and the
other has a text for its value. -/
def largeElsewhere : Members :=
  plainMember ['m', 'o', 'r', 'e'] rfl (.number largeNumeral) <|
    plainMember ['l', 'i', 'n', 'k', 's'] rfl
      (.array <| .item [] (.boolean true) [] <| .item [] (.object <|
        plainMember ['v', 'a', 'l', 'u', 'e'] rfl
          (.string (Json.plainPieces ['h', 'i', 'g', 'h'] rfl)) (.close [])) [] <| .close [])
      (.close [])

/-- Neither matters where nothing else has to be made out. -/
theorem exists_ofBytes_eq_ok_of_large_elsewhere :
    NamesOnce largeElsewhere.list ∧ (∃ items, IsLinkItems largeElsewhere.list items) ∧
      ∃ r, ofBytes (documentBytes [] (.object largeElsewhere) []) = .ok r := by
  have honce : NamesOnce largeElsewhere.list := by decide
  have hlinks : ∃ items, IsLinkItems largeElsewhere.list items :=
    ⟨_, .inl ⟨⟨_, rfl, .tail _ (.head _)⟩, by decide⟩⟩
  refine ⟨honce, hlinks, (exists_ofBytes_eq_ok_iff [] [] honce hlinks).mpr ?_⟩
  intro m hm
  obtain rfl | rfl : m = _ ∨ m = _ := by simpa [largeElsewhere, plainMember, Members.list] using hm
  · exact ⟨"more", rfl, fun hknown => absurd hknown (by decide)⟩
  · -- Wrong kinds of values are no obstacle, as long as the strings in them are paired.
    exact ⟨"links", rfl, fun _ => ⟨⟨trivial, ⟨rfl, rfl, trivial⟩, trivial⟩, by decide⟩⟩

/-- A large number as the value of a link. -/
def largeVolume : Members :=
  plainMember ['l', 'i', 'n', 'k', 's'] rfl
    (.array (.item [] (.object <|
      plainMember ['s', 'o', 'u', 'r', 'c', 'e'] rfl (.string (Json.plainPieces ['a'] rfl)) <|
        plainMember ['t', 'a', 'r', 'g', 'e', 't'] rfl (.string (Json.plainPieces ['b'] rfl)) <|
          plainMember ['v', 'a', 'l', 'u', 'e'] rfl (.number largeNumeral) (.close []))
      [] (.close [])))
    (.close [])

/-- A single link whose value is beyond all floats has the whole document refused. -/
theorem ofBytes_eq_error_of_large_volume :
    documentBytes [] (.object largeVolume) [] =
        ("\x7b\"links\":[\x7b\"source\":\"a\",\"target\":\"b\"," ++
          "\"value\":1e999\x7d]\x7d").toUTF8.toList ∧
      NamesOnce largeVolume.list ∧ (∃ items, IsLinkItems largeVolume.list items) ∧
      ofBytes (documentBytes [] (.object largeVolume) []) = .error .numberOutOfRange :=
  ⟨by decide +kernel, by decide, ⟨_, .inl ⟨⟨_, rfl, .head _⟩, by decide⟩⟩, by decide +kernel⟩

end TrafficMap.Report
