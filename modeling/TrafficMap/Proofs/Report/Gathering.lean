import Mathlib.Tactic.MkIffOfInductiveProp
import TrafficMap.Report.Reader

/-!
# Reports: Gathering the Fields

A document is gathered member by member in a draft. What comes of a field depends on the values of
the members that mean it, and on nothing else: `Collects` tells the report that way, field by field,
with the draft and the order of the members out of sight.
-/

namespace TrafficMap.Report

open Json (Value)
open Draft (servicesOf)

variable {members : List (String × Value)}

/-! ## The values of a field -/

/-- The values of the members that mean a field. -/
def valuesOf (f : Field) (members : List (String × Value)) : List Value :=
  members.filterMap fun m => if Field.ofKey? m.1 = some f then some m.2 else none

section Cons

variable {key : String} {f : Field}

theorem valuesOf_cons_of_unknown (h : Field.ofKey? key = none) (v : Value) (g : Field)
    (members : List (String × Value)) : valuesOf g ((key, v) :: members) = valuesOf g members := by
  simp [valuesOf, h]

theorem valuesOf_cons_of_known (h : Field.ofKey? key = some f) (v : Value) (g : Field)
    (members : List (String × Value)) :
    valuesOf g ((key, v) :: members) =
      if f = g then v :: valuesOf g members else valuesOf g members := by
  by_cases hfg : f = g <;> simp [valuesOf, h, hfg]

end Cons

theorem valuesOf_append (f : Field) (before after : List (String × Value)) :
    valuesOf f (before ++ after) = valuesOf f before ++ valuesOf f after :=
  List.filterMap_append ..

theorem mem_valuesOf_iff {f : Field} {v : Value} :
    v ∈ valuesOf f members ↔ ∃ key, Field.ofKey? key = some f ∧ (key, v) ∈ members := by
  simp only [valuesOf, List.mem_filterMap, Option.ite_none_right_eq_some, Option.some.injEq]
  constructor
  · rintro ⟨⟨key, w⟩, hmem, hkey, rfl⟩
    exact ⟨key, hkey, hmem⟩
  · rintro ⟨key, hkey, hmem⟩
    exact ⟨(key, v), hmem, hkey, rfl⟩

/-! ## Gathering -/

/-- What the value of the links is read as; it has to be a list. -/
def linksOf? : Value → Option (List (ReportedLink Float))
  | .array items => some (items.map ReportedLink.ofValue)
  | _ => none

theorem linksOf?_eq_some_iff {v : Value} {links : List (ReportedLink Float)} :
    linksOf? v = some links ↔
      ∃ items, v = .array items ∧ items.map ReportedLink.ofValue = links := by
  cases v <;> simp [linksOf?]

/-- What becomes of a field of a draft when the given values come for it: one value may come if
there has been none before. -/
inductive Settles {α : Type} (read : Value → Option α) : Option α → List Value → Option α → Prop
  | kept (before : Option α) : Settles read before [] before
  | found {v : Value} {a : α} (h : read v = some a) : Settles read none [v] (some a)

theorem settles_cons_iff {α : Type} {read : Value → Option α} {before result : Option α}
    {v : Value} {values : List Value} :
    Settles read before (v :: values) result ↔
      before = none ∧ ∃ a, read v = some a ∧ Settles read (some a) values result := by
  constructor
  · rintro (_ | hread)
    exact ⟨rfl, _, hread, .kept _⟩
  · rintro ⟨rfl, a, hread, hrest⟩
    cases hrest
    exact .found hread

/-- Every field of the draft is settled by its own values. The order of members of different fields
is forgotten here. -/
@[mk_iff]
structure Gathers (d : Draft) (members : List (String × Value)) (d' : Draft) : Prop where
  services :
    Settles (fun v => some (servicesOf v)) d.services (valuesOf .services members) d'.services
  links : Settles linksOf? d.links (valuesOf .links members) d'.links
  timestamp :
    Settles (fun v => some v.moment?) d.timestamp (valuesOf .timestamp members) d'.timestamp
  source : Settles (fun v => some v.text?) d.source (valuesOf .source members) d'.source

theorem gathers_nil_iff {d d' : Draft} : Gathers d [] d' ↔ d = d' := by
  constructor
  · rintro ⟨hservices, hlinks, htimestamp, hsource⟩
    cases d
    cases d'
    cases hservices
    cases hlinks
    cases htimestamp
    cases hsource
    rfl
  · rintro rfl
    exact ⟨.kept _, .kept _, .kept _, .kept _⟩

section Cons

variable {d d' : Draft} {key : String} {v : Value} {f : Field}

theorem gathers_cons_of_unknown (hkey : Field.ofKey? key = none) :
    Gathers d ((key, v) :: members) d' ↔ Gathers d members d' := by
  simp only [gathers_iff, valuesOf_cons_of_unknown hkey]

/-- A field does not come twice. -/
theorem not_gathers_cons_of_has (hkey : Field.ofKey? key = some f) (hhas : d.has f = true) :
    ¬ Gathers d ((key, v) :: members) d' := by
  rw [gathers_iff]
  simp only [valuesOf_cons_of_known hkey]
  rintro ⟨hservices, hlinks, htimestamp, hsource⟩
  cases f with
  | services => simp [Draft.has, (settles_cons_iff.mp hservices).1] at hhas
  | links => simp [Draft.has, (settles_cons_iff.mp hlinks).1] at hhas
  | timestamp => simp [Draft.has, (settles_cons_iff.mp htimestamp).1] at hhas
  | source => simp [Draft.has, (settles_cons_iff.mp hsource).1] at hhas

/-- Any value will do for a field that may be missing. -/
theorem gathers_cons_of_put (hkey : Field.ofKey? key = some f) (hhas : d.has f = false)
    (hlinks : f ≠ .links) :
    Gathers d ((key, v) :: members) d' ↔ Gathers (d.put f v) members d' := by
  -- One more value for `f`, and none for the others; since `f` was not there, it is the first.
  simp only [gathers_iff, valuesOf_cons_of_known hkey]
  cases f with
  | links => exact absurd rfl hlinks
  | services =>
    have hnone : d.services = none := by simpa [Draft.has] using hhas
    simp [hnone, settles_cons_iff, Draft.put]
  | timestamp =>
    have hnone : d.timestamp = none := by simpa [Draft.has] using hhas
    simp [hnone, settles_cons_iff, Draft.put]
  | source =>
    have hnone : d.source = none := by simpa [Draft.has] using hhas
    simp [hnone, settles_cons_iff, Draft.put]

theorem gathers_cons_of_putLinks {items : List Value} (hkey : Field.ofKey? key = some .links)
    (hhas : d.has .links = false) :
    Gathers d ((key, .array items) :: members) d' ↔ Gathers (d.putLinks items) members d' := by
  have hnone : d.links = none := by simpa [Draft.has] using hhas
  simp [gathers_iff, valuesOf_cons_of_known hkey, hnone, settles_cons_iff, linksOf?,
    Draft.putLinks]

/-- The links do not come as anything but a list. -/
theorem not_gathers_cons_of_notAList (hkey : Field.ofKey? key = some .links)
    (hvalue : ∀ items, v ≠ .array items) : ¬ Gathers d ((key, v) :: members) d' := by
  intro h
  have hlinks := h.links
  rw [valuesOf_cons_of_known hkey, if_pos rfl] at hlinks
  obtain ⟨-, links, hread, -⟩ := settles_cons_iff.mp hlinks
  obtain ⟨items, hitems, -⟩ := linksOf?_eq_some_iff.mp hread
  exact hvalue items hitems

theorem addMember_of_put (hkey : Field.ofKey? key = some f) (hhas : d.has f = false)
    (hlinks : f ≠ .links) : addMember d key v = .ok (d.put f v) := by
  cases f with
  | links => exact absurd rfl hlinks
  | _ => simp [addMember, hkey, hhas]

end Cons

/-- Members are taken without a fault exactly when every field is settled. -/
theorem addMembers_eq_ok_iff {d d' : Draft} :
    addMembers d members = .ok d' ↔ Gathers d members d' := by
  induction members generalizing d with
  | nil => rw [addMembers, Except.ok.injEq, gathers_nil_iff]
  | cons m members ih =>
    obtain ⟨key, v⟩ := m
    rw [addMembers]
    cases hkey : Field.ofKey? key with
    | none => simp only [addMember, hkey, ih, gathers_cons_of_unknown hkey]
    | some f =>
      cases hhas : d.has f with
      | true => simp [addMember, hkey, hhas, not_gathers_cons_of_has hkey hhas]
      | false =>
        by_cases hlinks : f = .links
        · subst hlinks
          -- Only a list will do.
          cases v with
          | array items => simp [addMember, hkey, hhas, ih, gathers_cons_of_putLinks hkey hhas]
          | _ =>
            refine iff_of_false ?_ (not_gathers_cons_of_notAList hkey nofun)
            simp [addMember, hkey, hhas]
        · rw [addMember_of_put hkey hhas hlinks, gathers_cons_of_put hkey hhas hlinks]
          exact ih

/-! ## What a document reports -/

/-- The result of a field that may be missing: its only reading, or nothing. -/
def IsOnly {α : Type} (readings : List (Option α)) (result : Option α) : Prop :=
  readings = [result] ∨ readings = [] ∧ result = none

theorem IsOnly.eq_some_iff {α : Type} {readings : List (Option α)} {result : Option α}
    (h : IsOnly readings result) (a : α) : result = some a ↔ some a ∈ readings := by
  obtain rfl | ⟨rfl, rfl⟩ := h
  · simp [eq_comm]
  · simp

theorem IsOnly.perm {α : Type} {readings readings' : List (Option α)} {result : Option α}
    (h : IsOnly readings result) (hperm : readings.Perm readings') : IsOnly readings' result := by
  obtain rfl | ⟨rfl, hnone⟩ := h
  · exact Or.inl (List.perm_singleton.mp hperm.symm)
  · exact Or.inr ⟨List.perm_nil.mp hperm.symm, hnone⟩

theorem exists_isOnly {α : Type} {readings : List (Option α)} (h : readings.length ≤ 1) :
    ∃ result, IsOnly readings result := by
  match readings, h with
  | [], _ => exact ⟨none, Or.inr ⟨rfl, rfl⟩⟩
  | [result], _ => exact ⟨result, Or.inl rfl⟩

theorem isOnly_iff_settles {α : Type} {read : Value → Option α} {values : List Value}
    {result : Option α} :
    IsOnly (values.map read) result ↔
      ∃ found, Settles (fun v => some (read v)) none values found ∧ found.getD none = result := by
  constructor
  · -- A single value settles the field with whatever it is read as, no value keeps it missing.
    rintro (h | ⟨h, rfl⟩)
    · obtain ⟨v, rfl, rfl⟩ := List.map_eq_singleton_iff.mp h
      exact ⟨_, .found rfl, rfl⟩
    · rw [List.map_eq_nil_iff.mp h]
      exact ⟨none, .kept none, rfl⟩
  · rintro ⟨found, ⟨⟩ | hread, rfl⟩
    · exact Or.inr ⟨rfl, rfl⟩
    · cases hread
      exact Or.inl rfl

theorem settles_links_iff {values : List Value} {links : List (ReportedLink Float)} :
    Settles linksOf? none values (some links) ↔ values.map linksOf? = [some links] := by
  constructor
  · rintro (_ | hread)
    rw [List.map_singleton, hread]
  · intro h
    obtain ⟨v, rfl, hread⟩ := List.map_eq_singleton_iff.mp h
    exact .found hread

/-- The report consists of the readings of the fields. It is what a report is read from once the
draft is left out: the values for each field, and nothing else. -/
structure Collects (members : List (String × Value)) (r : Report Float32 Float) : Prop where
  services : IsOnly ((valuesOf .services members).map servicesOf) r.services
  links : (valuesOf .links members).map linksOf? = [some r.links]
  timestamp : IsOnly ((valuesOf .timestamp members).map (·.moment?)) r.timestamp
  source : IsOnly ((valuesOf .source members).map (·.text?)) r.source

theorem finish_eq_ok_iff {d : Draft} {r : Report Float32 Float} :
    d.finish = .ok r ↔ d.services.getD none = r.services ∧ d.links = some r.links ∧
      d.timestamp.getD none = r.timestamp ∧ d.source.getD none = r.source := by
  cases r
  cases hlinks : d.links <;> simp [Draft.finish, hlinks]

/-- A document is read as the readings of its fields, and it is read at all only if there are such.
From here on a document is its values for each field; drafts do not occur any more. -/
theorem ofValue_object_eq_ok_iff {r : Report Float32 Float} :
    ofValue (.object members) = .ok r ↔ Collects members r := by
  -- Gathering the members and finishing the draft are told apart, and then field from field.
  have hsteps : ofValue (.object members) = .ok r ↔
      ∃ d, Gathers .empty members d ∧ d.finish = .ok r := by
    simp only [← addMembers_eq_ok_iff, ofValue]
    cases addMembers .empty members <;> simp [Except.bind]
  rw [hsteps]
  constructor
  · rintro ⟨d, hgathers, hfinish⟩
    obtain ⟨hservices, hlinks, htimestamp, hsource⟩ := finish_eq_ok_iff.mp hfinish
    exact {
      services := isOnly_iff_settles.mpr ⟨_, hgathers.services, hservices⟩
      links := settles_links_iff.mp (hlinks ▸ hgathers.links)
      timestamp := isOnly_iff_settles.mpr ⟨_, hgathers.timestamp, htimestamp⟩
      source := isOnly_iff_settles.mpr ⟨_, hgathers.source, hsource⟩ }
  · intro h
    obtain ⟨services, hservices, hservices'⟩ := isOnly_iff_settles.mp h.services
    obtain ⟨timestamp, htimestamp, htimestamp'⟩ := isOnly_iff_settles.mp h.timestamp
    obtain ⟨source, hsource, hsource'⟩ := isOnly_iff_settles.mp h.source
    exact ⟨⟨services, some r.links, timestamp, source⟩,
      ⟨hservices, settles_links_iff.mpr h.links, htimestamp, hsource⟩,
      finish_eq_ok_iff.mpr ⟨hservices', rfl, htimestamp', hsource'⟩⟩

end TrafficMap.Report
