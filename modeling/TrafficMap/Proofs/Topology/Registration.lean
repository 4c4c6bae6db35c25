import Mathlib
import TrafficMap.Settings.Basic

/-!
# Topology: What a Configuration Registers

A registry is filled with one placement after another, and each of them takes the place of an
earlier one for the same id. Here the outcome is told without that process: which placement an id
has, how many ids have one, and which changes to the order of a configuration make no difference.

A registry keeps its entries in a list, but the place of an entry in it means nothing. Two
registries are the same when their entries are, in whatever order, and that is so when every look-up
in one of them gives what it gives in the other.
-/

namespace TrafficMap

/-! ## Which placement counts

What a registry gives for an id, said about the list that it was filled from: the last placement for
the id, and where there is none what the registry had before.
-/

namespace Registry

variable {κ : Type}

/-! ### One placement -/

theorem lookup_without_of_ne {id other : String} (h : id ≠ other)
    (entries : List (String × Placement κ)) :
    (without entries other).lookup id = entries.lookup id := by
  induction entries with
  | nil => rfl
  | cons entry rest ih =>
    obtain ⟨key, placement⟩ := entry
    rw [without] at ih ⊢
    by_cases hkey : key = other
    · have hid : (id == key) = false := beq_false_of_ne (hkey ▸ h)
      rw [List.filter_cons_of_neg (by simp [hkey]), ih, List.lookup_cons, hid]
    · rw [List.filter_cons_of_pos (by simpa using hkey), List.lookup_cons, List.lookup_cons, ih]

theorem get?_insert (r : Registry κ) (id other : String) (p : Placement κ) :
    (r.insert other p).get? id = if other = id then some p else r.get? id := by
  rw [get?, insert, List.lookup_cons]
  split
  case h_1 heq => rw [if_pos (beq_iff_eq.mp heq).symm]
  case h_2 hne =>
    have hid : id ≠ other := by simpa using hne
    rw [if_neg (Ne.symm hid), lookup_without_of_ne hid, get?]

/-! ### Placements in order -/

/-- The last placement of a list for an id. -/
def last? (services : List (ServicePlacement κ)) (id : String) : Option (ServicePlacement κ) :=
  services.reverse.find? (·.id == id)

theorem get?_insertAll (r : Registry κ) (services : List (ServicePlacement κ)) (id : String) :
    (r.insertAll services).get? id = ((last? services id).map (·.placement)).or (r.get? id) := by
  -- From the end of the list: the placement that is added last is the one that counts first.
  induction services using List.reverseRecOn with
  | nil => rfl
  | append_singleton services s ih =>
    rw [insertAll] at ih ⊢
    rw [List.foldl_append, List.foldl_cons, List.foldl_nil, get?_insert, last?,
      List.reverse_append, List.reverse_singleton, List.singleton_append, List.find?_cons]
    by_cases h : s.id = id
    · simp [h]
    · rw [if_neg h, ih, beq_false_of_ne h, last?]

theorem get?_ofServices [Scalar κ] (services : List (ServicePlacement κ)) (replaceDefaults : Bool)
    (id : String) :
    (ofServices services replaceDefaults).get? id =
      ((last? services id).map (·.placement)).or
        (if replaceDefaults then none else (last? builtinServices id).map (·.placement)) := by
  have hempty : (empty : Registry κ).get? id = none := rfl
  rw [ofServices, get?_insertAll]
  split
  · rw [hempty]
  · rw [builtin, get?_insertAll, hempty, Option.or_none]

theorem mem_of_last?_eq_some {services : List (ServicePlacement κ)} {id : String}
    {s : ServicePlacement κ} (h : last? services id = some s) : s ∈ services :=
  List.mem_reverse.mp (List.mem_of_find?_eq_some h)

end Registry

variable {κ : Type}

/-! ## Configurations -/

/-- The placement is the last one that the configuration has for the id. A configuration may name an
id several times, and the last time counts. -/
def IsLastFor (services : List (ServicePlacement κ)) (id : String) (s : ServicePlacement κ) :
    Prop :=
  ∃ before after, services = before ++ s :: after ∧ s.id = id ∧ ∀ t ∈ after, t.id ≠ id

/-- The second configuration has for every id the placements of the first one, in their order. All
reorderings of a configuration are like that if they exchange no two placements for one id. -/
def KeepsOrder (services reordered : List (ServicePlacement κ)) : Prop :=
  ∀ id, reordered.filter (·.id == id) = services.filter (·.id == id)

/-- The ids that a configuration has placements for. -/
def idsOf (services : List (ServicePlacement κ)) : Finset String :=
  (services.map (·.id)).toFinset

theorem mem_idsOf_iff {services : List (ServicePlacement κ)} {id : String} :
    id ∈ idsOf services ↔ ∃ s ∈ services, s.id = id := by
  simp [idsOf]

namespace Registry

/-! ## The last placement for an id -/

theorem last?_eq_some_iff {services : List (ServicePlacement κ)} {id : String}
    {s : ServicePlacement κ} : last? services id = some s ↔ IsLastFor services id s := by
  rw [last?, List.find?_eq_some_iff_append, IsLastFor]
  constructor
  · rintro ⟨hid, after, before, hreverse, hother⟩
    -- What `find?` passes over at the front of the reversed list stands behind the last placement.
    refine ⟨before.reverse, after.reverse, ?_, by simpa using hid, ?_⟩
    · rw [← List.reverse_reverse services, hreverse]
      simp
    · intro t ht
      simpa using hother t (List.mem_reverse.mp ht)
  · rintro ⟨before, after, rfl, hid, hother⟩
    refine ⟨by simpa using hid, after.reverse, before.reverse, by simp, ?_⟩
    intro t ht
    simpa using hother t (List.mem_reverse.mp ht)

theorem last?_eq_none_iff {services : List (ServicePlacement κ)} {id : String} :
    last? services id = none ↔ ∀ s ∈ services, s.id ≠ id := by
  simp [last?]

/-- Only the placements for the id count, and of them only their order. -/
theorem last?_eq_getLast? (services : List (ServicePlacement κ)) (id : String) :
    last? services id = (services.filter (·.id == id)).getLast? := by
  rw [last?, ← List.head?_filter, List.filter_reverse, List.head?_reverse]

theorem last?_isSome_iff {services : List (ServicePlacement κ)} {id : String} :
    (last? services id).isSome = true ↔ id ∈ idsOf services := by
  rw [Option.isSome_iff_ne_none, ne_eq, last?_eq_none_iff, mem_idsOf_iff]
  simp

/-- No id has two built-in placements. -/
theorem nodup_ids_builtinServices [Scalar κ] :
    ((builtinServices : List (ServicePlacement κ)).map (·.id)).Nodup := by
  simp only [builtinServices, List.map_cons, List.map_nil]
  decide

/-- Where no id repeats, the placement for an id is the last one for it. -/
theorem last?_eq_some_iff_mem {services : List (ServicePlacement κ)}
    (hnodup : (services.map (·.id)).Nodup) {id : String} {s : ServicePlacement κ} :
    last? services id = some s ↔ s ∈ services ∧ s.id = id := by
  constructor
  · intro h
    exact ⟨mem_of_last?_eq_some h, by simpa using List.find?_some h⟩
  · rintro ⟨hs, rfl⟩
    obtain ⟨before, after, rfl⟩ := List.append_of_mem hs
    apply last?_eq_some_iff.mpr
    refine ⟨before, after, rfl, rfl, ?_⟩
    -- A later placement for the same id would repeat the id.
    intro t ht heq
    rw [List.map_append, List.map_cons] at hnodup
    have hfirst := (List.nodup_cons.mp (List.nodup_append.mp hnodup).2.1).1
    exact hfirst (heq ▸ List.mem_map_of_mem ht)

/-! ## Entries and look-ups -/

/-- What is looked up is an entry, and every entry is found. -/
theorem mem_entries_iff (r : Registry κ) {id : String} {p : Placement κ} :
    (id, p) ∈ r.entries ↔ r.get? id = some p := by
  rw [get?, List.lookup_eq_some_iff]
  constructor
  · intro h
    obtain ⟨before, after, hentries⟩ := List.append_of_mem h
    refine ⟨before, after, hentries, ?_⟩
    -- An earlier entry for the same id would repeat the id.
    intro entry hentry
    have hnodup := r.nodup
    rw [hentries, List.map_append, List.map_cons, List.nodup_append] at hnodup
    have hne := hnodup.2.2 entry.1 (List.mem_map_of_mem hentry) id List.mem_cons_self
    simpa using Ne.symm hne
  · rintro ⟨before, after, hentries, -⟩
    rw [hentries]
    exact List.mem_append_right before List.mem_cons_self

/-- Registries with the same look-ups have the same entries. -/
theorem entries_perm {r r' : Registry κ} (h : ∀ id, r.get? id = r'.get? id) :
    r.entries.Perm r'.entries := by
  rw [List.perm_ext_iff_of_nodup (.of_map _ r.nodup) (.of_map _ r'.nodup)]
  rintro ⟨id, p⟩
  rw [mem_entries_iff, mem_entries_iff, h id]

/-- As many ids have a placement as can be looked up. -/
theorem size_eq_card {r : Registry κ} {ids : Finset String}
    (h : ∀ id, (r.get? id).isSome = true ↔ id ∈ ids) : r.size = ids.card := by
  have hids : (r.entries.map (·.1)).toFinset = ids := by
    ext id
    rw [← h id, List.mem_toFinset, List.mem_map, Option.isSome_iff_exists]
    constructor
    · rintro ⟨entry, hentry, rfl⟩
      exact ⟨entry.2, r.mem_entries_iff.mp hentry⟩
    · rintro ⟨p, hp⟩
      exact ⟨(id, p), r.mem_entries_iff.mpr hp, rfl⟩
  rw [size, ← hids, List.toFinset_card_of_nodup r.nodup, List.length_map]

/-! ## Configured registries -/

variable [Scalar κ]

theorem get?_ofServices_eq_some_iff (services : List (ServicePlacement κ)) (replaceDefaults : Bool)
    (id : String) (p : Placement κ) :
    (ofServices services replaceDefaults).get? id = some p ↔
      (∃ s, IsLastFor services id s ∧ s.placement = p) ∨
        (∀ s ∈ services, s.id ≠ id) ∧ replaceDefaults = false ∧
          ∃ s ∈ builtinServices, s.id = id ∧ s.placement = p := by
  rw [get?_ofServices, Option.or_eq_some_iff, Option.map_eq_some_iff, Option.map_eq_none_iff,
    last?_eq_none_iff]
  simp only [last?_eq_some_iff]
  -- The first alternatives agree, and the second ones differ in how they tell of the built-in ones.
  refine or_congr_right (and_congr_right fun _ => ?_)
  cases replaceDefaults with
  | true => simp
  | false =>
    simp only [Bool.false_eq_true, if_false, true_and, Option.map_eq_some_iff,
      last?_eq_some_iff_mem nodup_ids_builtinServices, and_assoc]

theorem isSome_get?_ofServices_iff (services : List (ServicePlacement κ)) (replaceDefaults : Bool)
    (id : String) :
    ((ofServices services replaceDefaults).get? id).isSome = true ↔
      id ∈ idsOf services ∪
        if replaceDefaults then ∅ else idsOf (builtinServices : List (ServicePlacement κ)) := by
  rw [get?_ofServices, Option.isSome_or, Bool.or_eq_true, Option.isSome_map, last?_isSome_iff,
    Finset.mem_union]
  apply or_congr_right
  cases replaceDefaults with
  | true => simp
  | false => simp [last?_isSome_iff]

/-- For every id the same placement comes last. -/
theorem get?_ofServices_of_keepsOrder {services reordered : List (ServicePlacement κ)}
    (h : KeepsOrder services reordered) (replaceDefaults : Bool) (id : String) :
    (ofServices reordered replaceDefaults).get? id =
      (ofServices services replaceDefaults).get? id := by
  rw [get?_ofServices, get?_ofServices, last?_eq_getLast? reordered, h id,
    ← last?_eq_getLast? services]

/-- **What a configuration registers.** An id has the last placement that the configuration gives
it. An id without any has its built-in placement, unless the configuration replaces those, and
otherwise none. There are as many entries as there are different ids in the configuration and,
unless they are replaced, among the built-in ones. In which order the configuration names different
ids makes no difference.

Registering goes through the list and replaces, so what counts for an id is the last entry with it.
Two registries with equal look-ups have the same entries, since none has an id twice. -/
theorem placements_of_configuration (services : List (ServicePlacement κ))
    (replaceDefaults : Bool) :
    (∀ id p, (ofServices services replaceDefaults).get? id = some p ↔
        (∃ s, IsLastFor services id s ∧ s.placement = p) ∨
          (∀ s ∈ services, s.id ≠ id) ∧ replaceDefaults = false ∧
            ∃ s ∈ builtinServices, s.id = id ∧ s.placement = p) ∧
      (ofServices services replaceDefaults).size =
        (idsOf services ∪
          if replaceDefaults then ∅
          else idsOf (builtinServices : List (ServicePlacement κ))).card ∧
      ∀ reordered, KeepsOrder services reordered →
        (ofServices reordered replaceDefaults).entries.Perm
            (ofServices services replaceDefaults).entries ∧
          ∀ id, (ofServices reordered replaceDefaults).get? id =
            (ofServices services replaceDefaults).get? id := by
  refine ⟨?_, ?_, ?_⟩
  · exact get?_ofServices_eq_some_iff services replaceDefaults
  · apply size_eq_card
    exact isSome_get?_ofServices_iff services replaceDefaults
  · intro reordered hkeeps
    -- Lookups agree, and a registry has one entry for each id, so the entries do too.
    have hsame := get?_ofServices_of_keepsOrder hkeeps replaceDefaults
    exact ⟨entries_perm hsame, hsame⟩

end Registry

end TrafficMap
