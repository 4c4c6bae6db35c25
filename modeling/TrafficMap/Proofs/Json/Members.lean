import Mathlib.Data.List.Induction
import Mathlib.Data.List.Nodup
import TrafficMap.Json.Basic

/-!
# JSON: Members of Objects

What `member?` finds. An object is a list of members, and the last member with a key counts; so the
order of the members does not matter where no key occurs twice, and a member never matters to other
keys than its own.
-/

namespace TrafficMap.Json

variable {members : List (String × Value)} {key : String} {v : Value}

/-- The keys of an object, in order. -/
abbrev keys (members : List (String × Value)) : List String := members.map Prod.fst

/-- The value stands behind the key, and the key does not come again. Where a key comes more than
once, later values replace earlier ones. -/
def IsLastMember (members : List (String × Value)) (key : String) (v : Value) : Prop :=
  ∃ before after, members = before ++ (key, v) :: after ∧ key ∉ keys after

/-! ## Looking up -/

theorem member?_cons (m : String × Value) (members : List (String × Value)) (key : String) :
    member? (m :: members) key = (member? members key).or (if m.1 = key then some m.2 else none) := by
  -- The search goes from the left, so the last member is the one to take off.
  induction members using List.reverseRecOn with
  | nil => simp [member?]
  | append_singleton members last ih =>
    simp only [member?, List.foldl_append, List.foldl_cons, List.foldl_nil] at ih ⊢
    rw [ih]
    split <;> simp

theorem member?_eq_none_iff : member? members key = none ↔ key ∉ keys members := by
  induction members with
  | nil => simp [member?]
  | cons m members ih =>
    rw [member?_cons, Option.or_eq_none_iff, ih]
    simp [eq_comm, and_comm]

theorem member?_append (before after : List (String × Value)) (key : String) :
    member? (before ++ after) key = (member? after key).or (member? before key) := by
  induction before with
  | nil => simp [member?]
  | cons m before ih => rw [List.cons_append, member?_cons, ih, member?_cons, Option.or_assoc]

theorem member?_eq_some_iff : member? members key = some v ↔ IsLastMember members key v := by
  constructor
  · intro h
    induction members with
    | nil => cases h
    | cons m members ih =>
      rw [member?_cons, Option.or_eq_some_iff] at h
      -- Found among the later members, or there is none with the key and it is this one.
      obtain hlater | ⟨hnone, hhere⟩ := h
      · obtain ⟨before, after, rfl, habsent⟩ := ih hlater
        exact ⟨m :: before, after, rfl, habsent⟩
      · obtain ⟨rfl, rfl⟩ : m.1 = key ∧ m.2 = v := by simpa using hhere
        exact ⟨[], members, rfl, member?_eq_none_iff.mp hnone⟩
  · rintro ⟨before, after, rfl, habsent⟩
    rw [member?_append, member?_cons, member?_eq_none_iff.mpr habsent]
    simp

/-! ## What does not matter -/

/-- A member matters to its own key only. -/
theorem member?_insert {other : String} (h : other ≠ key) (before after : List (String × Value))
    (v : Value) : member? (before ++ (other, v) :: after) key = member? (before ++ after) key := by
  rw [member?_append, member?_cons, if_neg h, Option.or_none, ← member?_append]

/-- Where no key occurs twice, every member is the last one with its key. -/
theorem member?_eq_some_iff_mem (h : (keys members).Nodup) :
    member? members key = some v ↔ (key, v) ∈ members := by
  rw [member?_eq_some_iff]
  constructor
  · rintro ⟨before, after, rfl, -⟩
    simp
  · intro hmem
    obtain ⟨before, after, rfl⟩ := List.append_of_mem hmem
    refine ⟨before, after, rfl, ?_⟩
    rw [keys, List.map_append, List.map_cons] at h
    exact (List.nodup_cons.mp (List.nodup_append.mp h).2.1).1

/-- Where no key occurs twice, the order of the members does not matter. -/
theorem member?_perm {members' : List (String × Value)} (hnodup : (keys members).Nodup)
    (hperm : members.Perm members') (key : String) :
    member? members key = member? members' key := by
  have hnodup' : (keys members').Nodup := (hperm.map Prod.fst).nodup_iff.mp hnodup
  refine Option.ext fun v => ?_
  rw [member?_eq_some_iff_mem hnodup, member?_eq_some_iff_mem hnodup', hperm.mem_iff]

/-! ## Objects of present fields -/

/-- The members of an object that is built of fields. -/
def presentFields (fields : List (String × Option Value)) : List (String × Value) :=
  fields.filterMap fun (key, v) => v.map (key, ·)

theorem mem_presentFields_iff {fields : List (String × Option Value)} :
    (key, v) ∈ presentFields fields ↔ (key, some v) ∈ fields := by
  simp [presentFields]

theorem keys_presentFields_sublist (fields : List (String × Option Value)) :
    (keys (presentFields fields)).Sublist (fields.map Prod.fst) := by
  induction fields with
  | nil => exact .slnil
  | cons field fields ih =>
    obtain ⟨key, v⟩ := field
    cases v with
    | none => exact ih.cons key
    | some v => exact ih.cons_cons key

/-- What is found for a field is what the object was built of. -/
theorem member?_presentFields (fields : List (String × Option Value))
    (hnodup : (fields.map Prod.fst).Nodup) :
    ∀ field ∈ fields, member? (presentFields fields) field.1 = field.2 := by
  intro field hmem
  refine Option.ext fun v => ?_
  rw [member?_eq_some_iff_mem ((keys_presentFields_sublist fields).nodup hnodup),
    mem_presentFields_iff]
  constructor
  · intro hv
    exact congrArg Prod.snd (List.inj_on_of_nodup_map hnodup hmem hv rfl)
  · intro hv
    rwa [← hv]

end TrafficMap.Json
