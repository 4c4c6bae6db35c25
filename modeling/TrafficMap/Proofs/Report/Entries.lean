import TrafficMap.Proofs.Json.Members
import TrafficMap.Report.Entry

/-!
# Reports: What an Entry Says

The entries of a report as a reader of the format would describe them. An entry is an object with
known keys, or the list of their values in a fixed order and not longer than that. What stands in
an entry for a key is told by `Holds`, and what is made of it by `ReadsAsMoment`, `ReadsAsLink` and
`ReadsAsService`; the readers of entries give exactly that. Two objects that differ in unknown keys
or in the order of their members are the same entry.
-/

namespace TrafficMap

open Json (Value)

/-! ## Points in time -/

/-- The point in time that a value stands for. -/
inductive ReadsAsMoment : Value → Moment → Prop
  | natural {n : UInt64} {ms : Int64} (h : ms.toInt = n.toNat) :
      ReadsAsMoment (.number (.natural n)) (.millis ms)
  /-- A whole number beyond the signed words. -/
  | large {n : UInt64} (h : ∀ ms : Int64, ms.toInt ≠ n.toNat) :
      ReadsAsMoment (.number (.natural n)) (.fractional n.toFloat)
  | negative (n : Int64) : ReadsAsMoment (.number (.negative n)) (.millis n)
  | float (x : Float) : ReadsAsMoment (.number (.float x)) (.fractional x)
  | text (s : String) : ReadsAsMoment (.string s) (.text s)

theorem readsAsMoment_of_moment? {v : Value} {t : Moment} (h : v.moment? = some t) :
    ReadsAsMoment v t := by
  unfold Value.moment? at h
  split at h
  · split at h
    · next hword =>
      cases h
      exact .natural (signedWord?_eq_some_iff.mp hword)
    · next hword =>
      cases h
      -- A natural number that is no signed word is read as a float.
      refine .large fun ms hms => ?_
      rw [signedWord?_eq_some_iff.mpr hms] at hword
      cases hword
  · cases h
    exact .negative _
  · cases h
    exact .float _
  · cases h
    exact .text _
  · cases h

theorem moment?_eq_some_iff {v : Value} {t : Moment} :
    v.moment? = some t ↔ ReadsAsMoment v t := by
  refine ⟨readsAsMoment_of_moment?, fun h => ?_⟩
  cases h with
  | natural h => simp only [Value.moment?, signedWord?_eq_some_iff.mpr h]
  | @large n h =>
    have hword : signedWord? n.toNat = none :=
      Option.eq_none_iff_forall_ne_some.mpr fun ms hms => h ms (signedWord?_eq_some_iff.mp hms)
    simp only [Value.moment?, hword]
  | negative n => rfl
  | float x => rfl
  | text s => rfl

/-! ## Fields of an entry -/

/-- What an entry with the given keys holds for one of them. An entry may be an object or a list of
its fields in order; in an object the last member with the key counts. -/
inductive Holds (keys : List String) : Value → String → Value → Prop
  | member {members : List (String × Value)} {key : String} {v : Value}
      (hlast : Json.IsLastMember members key v) : Holds keys (.object members) key v
  | item {items : List Value} {place : Nat} {key : String} {v : Value}
      (hlength : items.length ≤ keys.length) (hkey : keys[place]? = some key)
      (hitem : items[place]? = some v) : Holds keys (.array items) key v

/-- The fields of an entry that has at most `limit` of them. -/
def entryFields (limit : Nat) : Value → FieldValues
  | .object members => objectFields members
  | .array items => if items.length ≤ limit then listFields items else fun _ _ => none
  | _ => fun _ _ => none

theorem entryFields_eq_some_iff {keys : List String} (hnodup : keys.Nodup) {place : Nat}
    {key : String} (hkey : keys[place]? = some key) (entry v : Value) :
    entryFields keys.length entry key place = some v ↔ Holds keys entry key v := by
  cases entry with
  | object members =>
    rw [entryFields, objectFields, Json.member?_eq_some_iff]
    exact ⟨.member, fun h => by cases h; assumption⟩
  | array items =>
    rw [entryFields]
    constructor
    · intro h
      split at h
      · next hlength => exact .item hlength hkey h
      · cases h
    · rintro (_ | @⟨_, place', _, _, hlength, hkey', hitem⟩)
      -- Keys are distinct, so a key has one place in the list.
      have hplace : place' = place := by
        obtain ⟨hlt, -⟩ := List.getElem?_eq_some_iff.mp hkey'
        exact (List.getElem?_inj hlt hnodup).mp (hkey'.trans hkey.symm)
      rw [if_pos hlength, listFields, ← hplace, hitem]
  | _ => exact iff_of_false (by rintro ⟨⟩) (by rintro ⟨⟩)

theorem text?_eq_some_iff {v : Value} {s : String} : v.text? = some s ↔ v = .string s := by
  cases v <;> simp [Value.text?]

theorem coordinate?_eq_some_iff {v : Value} {x : Float32} :
    v.coordinate? = some x ↔ ∃ n, v = .number n ∧ n.toFloat32 = x := by
  cases v <;> simp [Value.coordinate?]

theorem volume?_eq_some_iff {v : Value} {x : Float} :
    v.volume? = some x ↔ ∃ n, v = .number n ∧ n.toFloat = x := by
  cases v <;> simp [Value.volume?]

variable {found : Option Value}

theorem bind_text?_eq_some_iff {s : String} :
    found.bind (·.text?) = some s ↔ found = some (.string s) := by
  simp [Option.bind_eq_some_iff, text?_eq_some_iff]

theorem bind_coordinate?_eq_some_iff {x : Float32} :
    found.bind (·.coordinate?) = some x ↔ ∃ n, found = some (.number n) ∧ n.toFloat32 = x := by
  simp only [Option.bind_eq_some_iff, coordinate?_eq_some_iff]
  grind

theorem bind_volume?_eq_some_iff {x : Float} :
    found.bind (·.volume?) = some x ↔ ∃ n, found = some (.number n) ∧ n.toFloat = x := by
  simp only [Option.bind_eq_some_iff, volume?_eq_some_iff]
  grind

/-! ## Links -/

def linkKeys : List String := ["source", "target", "value", "type"]

/-- The link that an entry stands for. A field is there exactly when the entry holds a value of the
right kind for it, whatever it holds for the others. -/
structure ReadsAsLink (entry : Value) (e : ReportedLink Float) : Prop where
  source : ∀ s, e.source = some s ↔ Holds linkKeys entry "source" (.string s)
  target : ∀ s, e.target = some s ↔ Holds linkKeys entry "target" (.string s)
  value : ∀ x, e.value = some x ↔ ∃ n, Holds linkKeys entry "value" (.number n) ∧ n.toFloat = x
  kind : ∀ s, e.kind = some s ↔ Holds linkKeys entry "type" (.string s)

theorem ReportedLink.ofValue_eq (entry : Value) : ofValue entry = ofFields (entryFields 4 entry) := by
  cases entry with
  | array items =>
    rw [ofValue, entryFields]
    split <;> rfl
  | _ => rfl

theorem ReportedLink.field_eq_some_iff {place : Nat} {key : String} (hkey : linkKeys[place]? = some key)
    {entry v : Value} : entryFields 4 entry key place = some v ↔ Holds linkKeys entry key v :=
  entryFields_eq_some_iff (by decide : linkKeys.Nodup) hkey entry v

theorem ReportedLink.readsAsLink_ofValue (entry : Value) : ReadsAsLink entry (ofValue entry) := by
  rw [ofValue_eq]
  exact {
    source := fun s => bind_text?_eq_some_iff.trans (field_eq_some_iff rfl)
    target := fun s => bind_text?_eq_some_iff.trans (field_eq_some_iff rfl)
    value := fun x => bind_volume?_eq_some_iff.trans
      (exists_congr fun n => and_congr_left' (field_eq_some_iff rfl))
    kind := fun s => bind_text?_eq_some_iff.trans (field_eq_some_iff rfl) }

/-! ## Services -/

/-- The keys of metadata. -/
def serviceKeys : List String := ["id", "name", "status", "x", "y", "layer"]

/-- The metadata that an entry stands for. The id has to be there; of the other fields each is there
exactly when the entry holds a value of the right kind for it. -/
structure ReadsAsService (entry : Value) (r : ReportedService Float32) : Prop where
  id : Holds serviceKeys entry "id" (.string r.id)
  name : ∀ s, r.name = some s ↔ Holds serviceKeys entry "name" (.string s)
  status : ∀ s, r.status = some s ↔ Holds serviceKeys entry "status" (.string s)
  x : ∀ x, r.x = some x ↔ ∃ n, Holds serviceKeys entry "x" (.number n) ∧ n.toFloat32 = x
  y : ∀ y, r.y = some y ↔ ∃ n, Holds serviceKeys entry "y" (.number n) ∧ n.toFloat32 = y
  layer : ∀ s, r.layer = some s ↔ Holds serviceKeys entry "layer" (.string s)

/-- Only an entry with an id stands for metadata. -/
def HasId (entry : Value) : Prop :=
  ∃ id, Holds serviceKeys entry "id" (.string id)

namespace ReportedService

theorem ofValue?_eq (entry : Value) : ofValue? entry = ofFields? (entryFields 6 entry) := by
  cases entry with
  | array items =>
    rw [ofValue?, entryFields]
    split <;> rfl
  | _ => rfl

theorem field_eq_some_iff {place : Nat} {key : String} (hkey : serviceKeys[place]? = some key)
    {entry v : Value} :
    entryFields 6 entry key place = some v ↔ Holds serviceKeys entry key v :=
  entryFields_eq_some_iff (by decide : serviceKeys.Nodup) hkey entry v

theorem readsAsService_of_ofValue? {entry : Value} {r : ReportedService Float32}
    (h : ofValue? entry = some r) : ReadsAsService entry r := by
  rw [ofValue?_eq] at h
  obtain ⟨id, hid, hr⟩ := Option.bind_eq_some_iff.mp h
  cases hr
  exact {
    id := (field_eq_some_iff rfl).mp (bind_text?_eq_some_iff.mp hid)
    name := fun s => bind_text?_eq_some_iff.trans (field_eq_some_iff rfl)
    status := fun s => bind_text?_eq_some_iff.trans (field_eq_some_iff rfl)
    x := fun x => bind_coordinate?_eq_some_iff.trans
      (exists_congr fun n => and_congr_left' (field_eq_some_iff rfl))
    y := fun y => bind_coordinate?_eq_some_iff.trans
      (exists_congr fun n => and_congr_left' (field_eq_some_iff rfl))
    layer := fun s => bind_text?_eq_some_iff.trans (field_eq_some_iff rfl) }

theorem isSome_ofValue?_iff {entry : Value} : (ofValue? entry).isSome ↔ HasId entry := by
  rw [ofValue?_eq]
  constructor
  · intro h
    obtain ⟨r, hr⟩ := Option.isSome_iff_exists.mp h
    obtain ⟨id, hid, -⟩ := Option.bind_eq_some_iff.mp hr
    exact ⟨id, (field_eq_some_iff rfl).mp (bind_text?_eq_some_iff.mp hid)⟩
  · rintro ⟨id, hid⟩
    have htext : (entryFields 6 entry "id" 0).bind (·.text?) = some id :=
      bind_text?_eq_some_iff.mpr ((field_eq_some_iff rfl).mpr hid)
    simp [ofFields?, htext]

end ReportedService

instance : DecidablePred HasId := fun entry =>
  decidable_of_iff ((ReportedService.ofValue? entry).isSome) ReportedService.isSome_ofValue?_iff

/-- The metadata in a list of entries are those of the entries with an id, one by one. -/
theorem forall₂_filterMap_ofValue? (entries : List Value) :
    List.Forall₂ ReadsAsService (entries.filter HasId)
      (entries.filterMap ReportedService.ofValue?) := by
  induction entries with
  | nil => exact .nil
  | cons entry entries ih =>
    -- Only an entry without an id is dropped.
    cases hentry : ReportedService.ofValue? entry with
    | none =>
      have hid : ¬ HasId entry := by
        rw [← ReportedService.isSome_ofValue?_iff, hentry]
        simp
      rw [List.filter_cons_of_neg (by simpa using hid), List.filterMap_cons_none hentry]
      exact ih
    | some r =>
      have hid : HasId entry := by
        rw [← ReportedService.isSome_ofValue?_iff, hentry]
        rfl
      rw [List.filter_cons_of_pos (by simpa using hid), List.filterMap_cons_some hentry]
      exact .cons (ReportedService.readsAsService_of_ofValue? hentry) ih

/-! ## The same entry -/

/-- Two objects that are the same entry: the order of members counts only where a key occurs twice,
and keys other than the given ones never count. -/
inductive SameEntry (keys : List String) : Value → Value → Prop
  | reordered {members members' : List (String × Value)} (hnodup : (Json.keys members).Nodup)
      (hperm : members.Perm members') : SameEntry keys (.object members) (.object members')
  | extended {before after : List (String × Value)} {key : String} {v : Value}
      (hunknown : key ∉ keys) :
      SameEntry keys (.object (before ++ after)) (.object (before ++ (key, v) :: after))

theorem SameEntry.field_eq {keys : List String} {entry entry' : Value}
    (h : SameEntry keys entry entry') (limit : Nat) {key : String} (hkey : key ∈ keys)
    (place : Nat) : entryFields limit entry key place = entryFields limit entry' key place := by
  cases h with
  | reordered hnodup hperm => exact Json.member?_perm hnodup hperm key
  | extended hunknown =>
    exact (Json.member?_insert (ne_of_mem_of_not_mem hkey hunknown).symm _ _ _).symm

theorem SameEntry.ofValue {entry entry' : Value} (h : SameEntry linkKeys entry entry') :
    ReportedLink.ofValue entry = ReportedLink.ofValue entry' := by
  have hfield (place : Nat) : ∀ key ∈ linkKeys, entryFields 4 entry key place =
      entryFields 4 entry' key place := fun key hkey => h.field_eq 4 hkey place
  simp only [linkKeys, List.forall_mem_cons] at hfield
  simp only [ReportedLink.ofValue_eq, ReportedLink.ofFields, hfield]

theorem SameEntry.ofValue? {entry entry' : Value} (h : SameEntry serviceKeys entry entry') :
    ReportedService.ofValue? entry = ReportedService.ofValue? entry' := by
  have hfield (place : Nat) : ∀ key ∈ serviceKeys, entryFields 6 entry key place =
      entryFields 6 entry' key place := fun key hkey => h.field_eq 6 hkey place
  simp only [serviceKeys, List.forall_mem_cons] at hfield
  simp only [ReportedService.ofValue?_eq, ReportedService.ofFields?, hfield]

end TrafficMap
