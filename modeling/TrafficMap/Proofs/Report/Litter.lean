import Mathlib
import TrafficMap.Proofs.Report.Leniency
import TrafficMap.Proofs.Report.ServiceSelection

/-!
# Reports: Litter

Entries that say nothing do not matter. A link without both ends and metadata without an id may
stand anywhere in their lists, in any number: the snapshot is the same as without them. Nor does it
matter in which way a document describes no service, whether by leaving the metadata out, by giving
no list of them, or by a list in which no entry can be read.

Three places have to agree on what says nothing: the reader drops unreadable metadata, it makes
blank links of unreadable ones, and normalization drops links without ends and takes an empty list
of metadata for none. `Report.Agrees` is what they have in common.
-/

namespace TrafficMap

open Json (Value)

/-! ## Lists with litter -/

/-- The second list is the first with litter in any number and at any places. What counts as litter
differs between links and services, so it is a parameter. -/
inductive WithLitter {α : Type} (litter : α → Prop) : List α → List α → Prop
  | nil : WithLitter litter [] []
  | keep (a : α) {items items' : List α} (h : WithLitter litter items items') :
      WithLitter litter (a :: items) (a :: items')
  | litter {a : α} {items items' : List α} (ha : litter a) (h : WithLitter litter items items') :
      WithLitter litter items (a :: items')

/-- What makes nothing of litter makes the same of both lists. -/
theorem WithLitter.filterMap_eq {α β : Type} {litter : α → Prop} {f : α → Option β}
    (hf : ∀ a, litter a → f a = none) {items items' : List α}
    (h : WithLitter litter items items') : items'.filterMap f = items.filterMap f := by
  induction h with
  | nil => rfl
  | keep a _ ih => rw [List.filterMap_cons, List.filterMap_cons, ih]
  | litter ha _ ih => rw [List.filterMap_cons_none (hf _ ha), ih]

/-! ## Entries that say nothing -/

/-- The entry does not name both ends of a link. -/
def LacksEnd (entry : Value) : Prop :=
  ¬ ∃ source target, Holds linkKeys entry "source" (.string source) ∧
    Holds linkKeys entry "target" (.string target)

theorem LacksEnd.complete?_eq_none {entry : Value} (h : LacksEnd entry) :
    (ReportedLink.ofValue entry).complete? = none := by
  have hreads := ReportedLink.readsAsLink_ofValue entry
  rw [ReportedLink.complete?_eq_none_iff, ReportedLink.hasEnds, Bool.and_eq_false_iff,
    ← Bool.not_eq_true, ← Bool.not_eq_true, ← not_and_or, Option.isSome_iff_exists,
    Option.isSome_iff_exists]
  rintro ⟨⟨source, hsource⟩, target, htarget⟩
  exact h ⟨source, target, (hreads.source source).mp hsource, (hreads.target target).mp htarget⟩

theorem ofValue?_eq_none_of_not_hasId {entry : Value} (h : ¬ HasId entry) :
    ReportedService.ofValue? entry = none := by
  rw [← ReportedService.isSome_ofValue?_iff] at h
  simpa using h

namespace Report

/-! ## Reports that agree -/

/-- There are no metadata. -/
def IsUndescribed (r : Report Float32 Float) : Prop :=
  r.services = none ∨ r.services = some []

/-- The reports differ at most in links that are not complete, and in how they have no metadata.
Normalization cannot tell such reports apart. -/
structure Agrees (r r' : Report Float32 Float) : Prop where
  services : r.services = r'.services ∨ r.IsUndescribed ∧ r'.IsUndescribed
  links : r.completeLinks = r'.completeLinks
  timestamp : r.timestamp = r'.timestamp
  source : r.source = r'.source

theorem Agrees.resolveServices_eq {r r' : Report Float32 Float} (h : r.Agrees r')
    (registry : Registry Float32) : r'.resolveServices registry = r.resolveServices registry := by
  rcases h.services with hsame | ⟨hnone, hnone'⟩
  · rw [resolveServices, resolveServices, hsame, h.links]
  · rw [resolveServices_of_empty hnone, resolveServices_of_empty hnone', h.links]

/-- Reports that agree are reports of the same snapshot. -/
theorem Agrees.normalize_eq {r r' : Report Float32 Float} (h : r.Agrees r')
    (registry : Registry Float32) (fetchedAt : Int64) :
    r'.normalize registry fetchedAt = r.normalize registry fetchedAt := by
  simp only [normalize, h.resolveServices_eq registry, h.links, h.timestamp, h.source]

/-! ## Documents with litter -/

/-- The value of a field with litter among its entries. -/
inductive LitteredValue : Field → Value → Value → Prop
  | same (f : Field) (v : Value) : LitteredValue f v v
  | services {items items' : List Value} (h : WithLitter (¬ HasId ·) items items') :
      LitteredValue .services (.array items) (.array items')
  | links {items items' : List Value} (h : WithLitter LacksEnd items items') :
      LitteredValue .links (.array items) (.array items')

/-- A member with litter in its value; only the lists of a report have entries. -/
def LitteredMember (m m' : String × Value) : Prop :=
  m.1 = m'.1 ∧ (m.2 = m'.2 ∨ ∃ f, Field.ofKey? m.1 = some f ∧ LitteredValue f m.2 m'.2)

/-- The second document is the first with litter in its lists. -/
inductive LitteredDocument : Value → Value → Prop
  | object {members members' : List (String × Value)}
      (h : List.Forall₂ LitteredMember members members') :
      LitteredDocument (.object members) (.object members')
  /-- A document that is the list of its fields. -/
  | list {services services' links links' : Value} {rest : List Value}
      (hservices : LitteredValue .services services services')
      (hlinks : LitteredValue .links links links') :
      LitteredDocument (.array (services :: links :: rest)) (.array (services' :: links' :: rest))

theorem LitteredValue.servicesOf_eq {v v' : Value} (h : LitteredValue .services v v') :
    Draft.servicesOf v' = Draft.servicesOf v := by
  cases h with
  | same => rfl
  | services h =>
    exact congrArg some (h.filterMap_eq fun _ => ofValue?_eq_none_of_not_hasId)

/-- A field without entries has no place for litter. -/
theorem LitteredValue.eq_of_ne {f : Field} {v v' : Value} (h : LitteredValue f v v')
    (hservices : f ≠ .services) (hlinks : f ≠ .links) : v' = v := by
  cases h with
  | same => rfl
  | services => exact absurd rfl hservices
  | links => exact absurd rfl hlinks

/-- What is said of complete links does not depend on litter. -/
theorem LitteredValue.linksOf? {v v' : Value} (h : LitteredValue .links v v')
    {links : List (ReportedLink Float)} (hlinks : Report.linksOf? v = some links) :
    ∃ links', Report.linksOf? v' = some links' ∧
      links'.filterMap (·.complete?) = links.filterMap (·.complete?) := by
  cases h with
  | same => exact ⟨links, hlinks, rfl⟩
  | links h =>
    refine ⟨_, rfl, ?_⟩
    cases hlinks
    rw [List.filterMap_map, List.filterMap_map]
    exact h.filterMap_eq fun _ hlacks => hlacks.complete?_eq_none

/-! ## Reading documents with litter -/

theorem littered_valuesOf {members members' : List (String × Value)}
    (h : List.Forall₂ LitteredMember members members') (f : Field) :
    List.Forall₂ (LitteredValue f) (valuesOf f members) (valuesOf f members') := by
  induction h with
  | nil => exact .nil
  | @cons m m' members members' hm _ ih =>
    obtain ⟨key, v⟩ := m
    obtain ⟨key', v'⟩ := m'
    obtain ⟨rfl : key = key', hv⟩ := hm
    cases hkey : Field.ofKey? key with
    | none => rwa [valuesOf_cons_of_unknown hkey, valuesOf_cons_of_unknown hkey]
    | some g =>
      rw [valuesOf_cons_of_known hkey, valuesOf_cons_of_known hkey]
      split
      · next hg =>
        subst hg
        refine .cons ?_ ih
        -- Litter lies in the field that the key means, or nothing has changed.
        rcases hv with rfl | ⟨f, hf, hv⟩
        · exact .same g v
        · rw [hkey] at hf
          cases hf
          exact hv
      · exact ih

/-- The readings of a field that no litter changes. -/
theorem map_valuesOf_eq {α : Type} {members members' : List (String × Value)}
    (h : List.Forall₂ LitteredMember members members') {f : Field} (read : Value → α)
    (hread : ∀ v v', LitteredValue f v v' → read v' = read v) :
    (valuesOf f members').map read = (valuesOf f members).map read := by
  have hvalues := littered_valuesOf h f
  generalize valuesOf f members = values at hvalues ⊢
  generalize valuesOf f members' = values' at hvalues ⊢
  induction hvalues with
  | nil => rfl
  | cons hv _ ih => rw [List.map_cons, List.map_cons, hread _ _ hv, ih]

theorem exists_collects_of_littered {members members' : List (String × Value)}
    (h : List.Forall₂ LitteredMember members members') {r : Report Float32 Float}
    (hr : Collects members r) : ∃ r', Collects members' r' ∧ r.Agrees r' := by
  obtain ⟨v, hvalue, hlinks⟩ := List.map_eq_singleton_iff.mp hr.links
  have hvalues := littered_valuesOf h .links
  rw [hvalue, List.forall₂_cons_left_iff] at hvalues
  obtain ⟨v', values, hv, hnil, hvalues'⟩ := hvalues
  rw [List.forall₂_nil_left_iff.mp hnil] at hvalues'
  -- Only the links are read differently, and the complete ones among them are the same.
  obtain ⟨links', hlinks', hcomplete⟩ := hv.linksOf? hlinks
  have hservices := map_valuesOf_eq h (f := .services) Draft.servicesOf fun _ _ hv => hv.servicesOf_eq
  have htimestamp := map_valuesOf_eq h (f := .timestamp) (·.moment?)
    fun _ _ hv => by rw [hv.eq_of_ne nofun nofun]
  have hsource := map_valuesOf_eq h (f := .source) (·.text?)
    fun _ _ hv => by rw [hv.eq_of_ne nofun nofun]
  refine ⟨{ r with links := links' }, ⟨?_, ?_, ?_, ?_⟩, ⟨Or.inl rfl, hcomplete.symm, rfl, rfl⟩⟩
  · rw [hservices]
    exact hr.services
  · rw [hvalues', List.map_singleton, hlinks']
  · rw [htimestamp]
    exact hr.timestamp
  · rw [hsource]
    exact hr.source

/-- A list of fields is read as the readings of its elements. -/
theorem ofValue_array_eq_ok_iff {services links : Value} {rest : List Value}
    {r : Report Float32 Float} :
    ofValue (.array (services :: links :: rest)) = .ok r ↔
      rest.length ≤ 2 ∧ Draft.servicesOf services = r.services ∧
        linksOf? links = some r.links ∧ (rest[0]?).bind (·.moment?) = r.timestamp ∧
          (rest[1]?).bind (·.text?) = r.source := by
  cases r
  cases links with
  | array items =>
    -- Four fields at most; which of the last two are there is left to the simplifier.
    by_cases hlength : rest.length ≤ 2
    · have hroom : ¬ 2 < rest.length := by omega
      simp [ofValue, ofItems, hlength, hroom, Draft.finish, Draft.put, Draft.putLinks, Draft.empty,
        Except.map, linksOf?]
    · have hroom : 2 < rest.length := by omega
      simp [ofValue, ofItems, hlength, hroom]
  | _ => simp [ofValue, ofItems, linksOf?]

theorem exists_ofValue_of_littered {document document' : Value}
    (h : LitteredDocument document document') {r : Report Float32 Float}
    (hr : ofValue document = .ok r) : ∃ r', ofValue document' = .ok r' ∧ r.Agrees r' := by
  cases h with
  | object h =>
    obtain ⟨r', hr', hagrees⟩ :=
      exists_collects_of_littered h (ofValue_object_eq_ok_iff.mp hr)
    exact ⟨r', ofValue_object_eq_ok_iff.mpr hr', hagrees⟩
  | list hservices hlinks =>
    obtain ⟨hlength, hservices', hlinks', htimestamp, hsource⟩ := ofValue_array_eq_ok_iff.mp hr
    obtain ⟨links, hread, hcomplete⟩ := hlinks.linksOf? hlinks'
    refine ⟨{ r with links }, ofValue_array_eq_ok_iff.mpr ⟨hlength, ?_, hread, htimestamp, hsource⟩,
      ⟨Or.inl rfl, hcomplete.symm, rfl, rfl⟩⟩
    -- Litter between services is gone once they are read, while litter between links is still
    -- there.
    rw [hservices.servicesOf_eq]
    exact hservices'

/-! ## Documents without metadata -/

/-- The value is no list, or a list in which no entry can be read. -/
def DescribesNothing (v : Value) : Prop :=
  ∀ items, v = .array items → ∀ entry ∈ items, ¬ HasId entry

/-- The document has the given members and no usable metadata among them. The key may be missing, or
have a value that describes nothing. -/
inductive Undescribed (before after : List (String × Value)) : Value → Prop
  | absent : Undescribed before after (.object (before ++ after))
  | present {v : Value} (h : DescribesNothing v) :
      Undescribed before after (.object (before ++ ("nodes", v) :: after))

/-- Two documents that are equal except in how they describe no service. -/
inductive SameUndescribed : Value → Value → Prop
  | object {before after : List (String × Value)} {document document' : Value}
      (hother : "nodes" ∉ Json.keys (before ++ after)) (h : Undescribed before after document)
      (h' : Undescribed before after document') : SameUndescribed document document'
  | list {v v' : Value} {rest : List Value} (h : DescribesNothing v) (h' : DescribesNothing v') :
      SameUndescribed (.array (v :: rest)) (.array (v' :: rest))

theorem DescribesNothing.servicesOf {v : Value} (h : DescribesNothing v) :
    Draft.servicesOf v = none ∨ Draft.servicesOf v = some [] := by
  cases v with
  | array items =>
    refine Or.inr (congrArg some (List.filterMap_eq_nil_iff.mpr fun entry hentry => ?_))
    exact ofValue?_eq_none_of_not_hasId (h items rfl entry hentry)
  | _ => exact Or.inl rfl

/-- The values of a field other than the metadata are those of the other members. -/
theorem Undescribed.valuesOf_eq {before after : List (String × Value)}
    {members : List (String × Value)} (h : Undescribed before after (.object members)) {f : Field}
    (hf : f ≠ .services) : valuesOf f members = valuesOf f (before ++ after) := by
  have hkey : Field.ofKey? "nodes" = some .services := rfl
  generalize hdocument : Value.object members = document at h
  cases h with
  | absent =>
    cases hdocument
    rfl
  | present _ =>
    cases hdocument
    rw [valuesOf_append, valuesOf_append, valuesOf_cons_of_known hkey, if_neg hf.symm]

/-- Whatever is read as metadata, it is none. -/
theorem Undescribed.readings {before after members : List (String × Value)}
    (h : Undescribed before after (.object members))
    (hother : "nodes" ∉ Json.keys (before ++ after)) :
    ∃ services, IsOnly ((valuesOf .services members).map Draft.servicesOf) services ∧
      ∀ services', IsOnly ((valuesOf .services members).map Draft.servicesOf) services' →
        services' = none ∨ services' = some [] := by
  have hkey : Field.ofKey? "nodes" = some .services := rfl
  have hnone : valuesOf .services (before ++ after) = [] := by
    refine List.eq_nil_iff_forall_not_mem.mpr fun v hv => hother ?_
    have hmem := (mem_valuesOf_of_key (f := .services) rfl).mp hv
    exact List.mem_map_of_mem hmem
  generalize hdocument : Value.object members = document at h
  cases h with
  | absent =>
    cases hdocument
    rw [hnone]
    -- Without the key nothing is told for the field, and its default is no metadata.
    refine ⟨none, Or.inr ⟨rfl, rfl⟩, fun services' hservices' => Or.inl ?_⟩
    exact (hservices'.resolve_left nofun).2
  | @present v h =>
    cases hdocument
    -- The key occurs nowhere else, so the one value is all that is told.
    have hvalues : valuesOf .services (before ++ ("nodes", v) :: after) = [v] := by
      rw [valuesOf_append] at hnone ⊢
      obtain ⟨hbefore, hafter⟩ := List.append_eq_nil_iff.mp hnone
      rw [valuesOf_cons_of_known hkey, if_pos rfl, hbefore, hafter, List.nil_append]
    rw [hvalues]
    refine ⟨Draft.servicesOf v, Or.inl rfl, fun services' hservices' => ?_⟩
    have hservices : Draft.servicesOf v = services' := by
      simpa using hservices'.resolve_right (by simp)
    exact hservices ▸ h.servicesOf

theorem exists_ofValue_of_sameUndescribed {document document' : Value}
    (h : SameUndescribed document document') {r : Report Float32 Float}
    (hr : ofValue document = .ok r) : ∃ r', ofValue document' = .ok r' ∧ r.Agrees r' := by
  cases h with
  | @object before after document document' hother h h' =>
    obtain ⟨members, rfl⟩ : ∃ members, document = .object members := by cases h <;> exact ⟨_, rfl⟩
    obtain ⟨members', rfl⟩ : ∃ members, document' = .object members := by
      cases h' <;> exact ⟨_, rfl⟩
    have hcollects := ofValue_object_eq_ok_iff.mp hr
    -- The new document gives its own metadata, of which only is known that there is none; all other
    -- fields are read from the same values.
    obtain ⟨-, -, hnone⟩ := h.readings hother
    obtain ⟨services, hservices, hnone'⟩ := h'.readings hother
    have hvalues {f : Field} (hf : f ≠ .services) : valuesOf f members' = valuesOf f members := by
      rw [h.valuesOf_eq hf, h'.valuesOf_eq hf]
    refine ⟨{ r with services }, ofValue_object_eq_ok_iff.mpr ⟨hservices, ?_, ?_, ?_⟩,
      ⟨Or.inr ⟨hnone _ hcollects.services, hnone' _ hservices⟩, rfl, rfl, rfl⟩⟩
    · rw [hvalues (f := .links) nofun]
      exact hcollects.links
    · rw [hvalues (f := .timestamp) nofun]
      exact hcollects.timestamp
    · rw [hvalues (f := .source) nofun]
      exact hcollects.source
  | @list v v' rest h h' =>
    -- A list with metadata alone is not read at all.
    obtain ⟨links, rest, rfl⟩ : ∃ links rest', rest = links :: rest' := by
      cases rest with
      | nil => cases hr
      | cons links rest => exact ⟨links, rest, rfl⟩
    obtain ⟨hlength, hservices, hlinks⟩ := ofValue_array_eq_ok_iff.mp hr
    refine ⟨{ r with services := Draft.servicesOf v' },
      ofValue_array_eq_ok_iff.mpr ⟨hlength, rfl, hlinks⟩,
      ⟨Or.inr ⟨?_, h'.servicesOf⟩, rfl, rfl, rfl⟩⟩
    rw [IsUndescribed, ← hservices]
    exact h.servicesOf

/-! ## Main statement -/

/-- **Entries that say nothing do not influence the snapshot.** If a document is a report, so is the
document with litter in its lists, and so is a document that differs only in how it describes no
service; and these are reports of the same snapshot, whatever the registry and the fetch time.

Litter between links becomes links that are not complete, and litter between services becomes
nothing; both are gone when services and links are completed. -/
theorem normalize_ofValue_eq_of_litter {document document' : Value}
    (h : LitteredDocument document document' ∨ SameUndescribed document document')
    {r : Report Float32 Float} (hr : ofValue document = .ok r) :
    ∃ r', ofValue document' = .ok r' ∧
      ∀ (registry : Registry Float32) (fetchedAt : Int64),
        r'.normalize registry fetchedAt = r.normalize registry fetchedAt := by
  have hread : ∃ r', ofValue document' = .ok r' ∧ r.Agrees r' := by
    rcases h with hlitter | hundescribed
    · exact exists_ofValue_of_littered hlitter hr
    · exact exists_ofValue_of_sameUndescribed hundescribed hr
  obtain ⟨r', hr', hagrees⟩ := hread
  exact ⟨r', hr', hagrees.normalize_eq⟩

/-- A link between two described services, with a number and a link without target before it and
metadata without an id between the services. -/
theorem normalize_ofValue_eq_of_one_link :
    let link : Value := .object [("source", .string "a"), ("target", .string "b")]
    let service (id : String) : Value := .object [("id", .string id)]
    let document : Value :=
      .object [("links", .array [link]), ("nodes", .array [service "b", service "a"])]
    let littered : Value :=
      .object
        [("links", .array [.number (.natural 7), .object [("source", .string "b")], link]),
         ("nodes", .array [service "b", .object [("name", .string "a")], service "a", .null])]
    ∃ r, ofValue document = .ok r ∧ ∃ r', ofValue littered = .ok r' ∧
      r'.normalize .builtin 0 = r.normalize .builtin 0 := by
  intro link service document littered
  have hdocument : (ofValue document).toOption.isSome := by decide
  obtain ⟨r, hr⟩ : ∃ r, ofValue document = .ok r := by
    cases h : ofValue document with
    | ok r => exact ⟨r, rfl⟩
    | error e => rw [h] at hdocument; cases hdocument
  -- A number is no object, and a link without a target has no such key.
  have hlinks : WithLitter LacksEnd [link]
      [.number (.natural 7), .object [("source", .string "b")], link] := by
    refine .litter ?_ (.litter ?_ (.keep link .nil))
    · rintro ⟨source, target, ⟨⟩, -⟩
    · rintro ⟨source, target, -, htarget⟩
      have hkey : linkKeys[1]? = some "target" := rfl
      rw [← ReportedLink.field_eq_some_iff hkey] at htarget
      cases htarget
  have hservices : WithLitter (¬ HasId ·) [service "b", service "a"]
      [service "b", .object [("name", .string "a")], service "a", .null] :=
    .keep _ (.litter (by decide) (.keep _ (.litter (by decide) .nil)))
  have hlitter : LitteredDocument document littered := .object <|
    .cons ⟨rfl, Or.inr ⟨.links, rfl, .links hlinks⟩⟩ <|
      .cons ⟨rfl, Or.inr ⟨.services, rfl, .services hservices⟩⟩ .nil
  obtain ⟨r', hr', hsame⟩ := normalize_ofValue_eq_of_litter (Or.inl hlitter) hr
  exact ⟨r, hr, r', hr', hsame .builtin 0⟩

end Report

end TrafficMap
