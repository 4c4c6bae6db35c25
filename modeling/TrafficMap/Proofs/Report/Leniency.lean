import Mathlib
import TrafficMap.Proofs.Report.Entries
import TrafficMap.Proofs.Report.Gathering

/-!
# Reports: Lenient Reading

Which parsed documents are reports, and what they report. The top level of a document is strict in
two things: the links have to be there as a list, under one of two keys, and no field may come
twice. Everything else is lenient, entry by entry and field by field, and neither the order of
members nor members that nobody asked for make a difference.
-/

namespace TrafficMap.Report

open Json (Value)
open Draft (servicesOf)

variable {members members' : List (String × Value)}

/-! ## Keys -/

/-- The keys that mean a field. -/
def Field.keys : Field → List String
  | .services => ["nodes"]
  | .links => ["links", "edges"]
  | .timestamp => ["timestamp"]
  | .source => ["source"]

/-- The keys that mean any field. -/
def knownKeys : List String := ["nodes", "links", "edges", "timestamp", "source"]

/-- No key that means a field occurs twice. -/
def KnownOnce (members : List (String × Value)) : Prop :=
  ∀ key ∈ knownKeys, (Json.keys members).count key ≤ 1

instance (members : List (String × Value)) : Decidable (KnownOnce members) :=
  inferInstanceAs (Decidable (∀ key ∈ knownKeys, (Json.keys members).count key ≤ 1))

/-- The list of links stands under one of its two keys, and the other key is missing. -/
def IsLinkList (members : List (String × Value)) (items : List Value) : Prop :=
  ("links", .array items) ∈ members ∧ "edges" ∉ Json.keys members ∨
    ("edges", .array items) ∈ members ∧ "links" ∉ Json.keys members

theorem ofKey?_eq_some_iff {key : String} {f : Field} :
    Field.ofKey? key = some f ↔ key ∈ f.keys := by
  cases f <;> grind [Field.ofKey?, Field.keys]

theorem ofKey?_eq_none_iff {key : String} : Field.ofKey? key = none ↔ key ∉ knownKeys := by
  grind [Field.ofKey?, knownKeys]

/-- As many values come for a field as there are members with its keys. -/
theorem length_valuesOf (f : Field) (members : List (String × Value)) :
    (valuesOf f members).length = (f.keys.map (Json.keys members).count).sum := by
  induction members with
  | nil => cases f <;> rfl
  | cons m members ih =>
    -- No key stands twice in `f.keys`, so the member counts at most once on either side.
    cases f <;> grind [valuesOf, ofKey?_eq_some_iff, Field.keys]

/-! ## Which documents are reports -/

theorem mem_valuesOf_links_iff {v : Value} :
    v ∈ valuesOf .links members ↔ ("links", v) ∈ members ∨ ("edges", v) ∈ members := by
  simp [mem_valuesOf_iff, ofKey?_eq_some_iff, Field.keys]

theorem length_valuesOf_le_one (h : KnownOnce members) {f : Field} (hf : f ≠ .links) :
    (valuesOf f members).length ≤ 1 := by
  rw [length_valuesOf]
  cases f with
  | links => exact absurd rfl hf
  | _ => exact h _ (by decide)

theorem eq_singleton_of_mem {α : Type} {a : α} {l : List α} (hmem : a ∈ l) (h : l.length ≤ 1) :
    l = [a] := by
  match l, hmem with
  | [b], hmem => rw [List.mem_singleton.mp hmem]

/-- The list of links is the only value that comes for them. -/
theorem valuesOf_links_eq_iff (h : KnownOnce members) {items : List Value} :
    valuesOf .links members = [.array items] ↔ IsLinkList members items := by
  have hlength : (valuesOf .links members).length =
      (Json.keys members).count "links" + (Json.keys members).count "edges" :=
    length_valuesOf .links members
  constructor
  · intro hvalues
    -- A single value has come, so of the two keys only one is there.
    rw [hvalues, List.length_singleton] at hlength
    have hmem : Value.array items ∈ valuesOf .links members := by simp [hvalues]
    rcases mem_valuesOf_links_iff.mp hmem with hlinks | hedges
    · have hpresent : 0 < (Json.keys members).count "links" :=
        List.count_pos_iff.mpr (List.mem_map_of_mem hlinks)
      exact Or.inl ⟨hlinks, List.count_eq_zero.mp (by omega)⟩
    · have hpresent : 0 < (Json.keys members).count "edges" :=
        List.count_pos_iff.mpr (List.mem_map_of_mem hedges)
      exact Or.inr ⟨hedges, List.count_eq_zero.mp (by omega)⟩
  · intro hlist
    have hlinks := h "links" (by decide)
    have hedges := h "edges" (by decide)
    rcases hlist with ⟨hmem, habsent⟩ | ⟨hmem, habsent⟩
    · rw [List.count_eq_zero.mpr habsent] at hlength
      exact eq_singleton_of_mem (mem_valuesOf_links_iff.mpr (Or.inl hmem)) (by omega)
    · rw [List.count_eq_zero.mpr habsent] at hlength
      exact eq_singleton_of_mem (mem_valuesOf_links_iff.mpr (Or.inr hmem)) (by omega)

/-- Reading succeeds exactly when the links are there. Nothing else in the document can make reading
fail, neither a field of the wrong kind nor an entry that cannot be read. -/
theorem exists_ofValue_eq_ok_iff (h : KnownOnce members) :
    (∃ r, ofValue (.object members) = .ok r) ↔ ∃ items, IsLinkList members items := by
  constructor
  · rintro ⟨r, hr⟩
    obtain ⟨v, hv, hread⟩ :=
      List.map_eq_singleton_iff.mp (ofValue_object_eq_ok_iff.mp hr).links
    obtain ⟨items, rfl, -⟩ := linksOf?_eq_some_iff.mp hread
    exact ⟨items, (valuesOf_links_eq_iff h).mp hv⟩
  · rintro ⟨items, hitems⟩
    -- Of the other fields none can fail: known at most once, each is read as something or as
    -- nothing.
    have hresult {α : Type} (read : Value → Option α) {f : Field} (hf : f ≠ .links) :
        ∃ result, IsOnly ((valuesOf f members).map read) result :=
      exists_isOnly (by rw [List.length_map]; exact length_valuesOf_le_one h hf)
    obtain ⟨services, hservices⟩ := hresult servicesOf (f := .services) nofun
    obtain ⟨timestamp, htimestamp⟩ := hresult Value.moment? (f := .timestamp) nofun
    obtain ⟨source, hsource⟩ := hresult Value.text? (f := .source) nofun
    refine ⟨⟨services, items.map ReportedLink.ofValue, timestamp, source⟩,
      ofValue_object_eq_ok_iff.mpr ⟨hservices, ?_, htimestamp, hsource⟩⟩
    rw [(valuesOf_links_eq_iff h).mpr hitems]
    rfl

/-! ## What a document reports -/

/-- The report that a document stands for. A field that is missing or of the wrong kind is missing
in the report; links and metadata are read entry by entry. -/
structure ReadsAs (members : List (String × Value)) (r : Report Float32 Float) : Prop where
  /-- There is a link for every entry. -/
  links : ∀ items, IsLinkList members items → List.Forall₂ ReadsAsLink items r.links
  noServices : (∀ items, ("nodes", .array items) ∉ members) → r.services = none
  /-- There are metadata for every entry with an id. -/
  services : ∀ items, ("nodes", .array items) ∈ members →
    ∃ services, r.services = some services ∧
      List.Forall₂ ReadsAsService (items.filter HasId) services
  timestamp : ∀ t, r.timestamp = some t ↔ ∃ v, ("timestamp", v) ∈ members ∧ ReadsAsMoment v t
  source : ∀ s, r.source = some s ↔ ("source", .string s) ∈ members

theorem mem_valuesOf_of_key {f : Field} {key : String} (hkeys : f.keys = [key]) {v : Value} :
    v ∈ valuesOf f members ↔ (key, v) ∈ members := by
  simp [mem_valuesOf_iff, ofKey?_eq_some_iff, hkeys]

theorem servicesOf_eq_some_iff {v : Value} {services : List (ReportedService Float32)} :
    servicesOf v = some services ↔
      ∃ items, v = .array items ∧ items.filterMap ReportedService.ofValue? = services := by
  cases v <;> simp [servicesOf]

theorem readsAs_of_ofValue {r : Report Float32 Float} (h : KnownOnce members)
    (hr : ofValue (.object members) = .ok r) : ReadsAs members r := by
  obtain ⟨hservices, hlinks, htimestamp, hsource⟩ := ofValue_object_eq_ok_iff.mp hr
  -- Known at most once, the key has the value that is read: what is gathered is a membership.
  have hread (services : List (ReportedService Float32)) : r.services = some services ↔
      ∃ items, ("nodes", .array items) ∈ members ∧
        items.filterMap ReportedService.ofValue? = services := by
    simp [hservices.eq_some_iff, mem_valuesOf_of_key (f := .services) rfl,
      servicesOf_eq_some_iff]
  constructor
  · intro items hitems
    rw [(valuesOf_links_eq_iff h).mpr hitems] at hlinks
    have hmap : items.map ReportedLink.ofValue = r.links := by simpa [linksOf?] using hlinks
    rw [← hmap, List.forall₂_map_right_iff]
    exact List.forall₂_same.mpr fun entry _ => ReportedLink.readsAsLink_ofValue entry
  · intro hnone
    refine Option.eq_none_iff_forall_ne_some.mpr fun services hsome => ?_
    obtain ⟨items, hmem, -⟩ := (hread services).mp hsome
    exact hnone items hmem
  · intro items hmem
    exact ⟨_, (hread _).mpr ⟨items, hmem, rfl⟩, forall₂_filterMap_ofValue? items⟩
  · intro t
    simp [htimestamp.eq_some_iff, mem_valuesOf_of_key (f := .timestamp) rfl,
      moment?_eq_some_iff]
  · intro s
    simp [hsource.eq_some_iff, mem_valuesOf_of_key (f := .source) rfl, text?_eq_some_iff]

/-! ## What makes no difference -/

/-- Two documents that say the same. -/
inductive SameDocument : List (String × Value) → List (String × Value) → Prop
  /-- The members stand in another order. -/
  | reordered {members members' : List (String × Value)} (hperm : members.Perm members') :
      SameDocument members members'
  /-- A member with an unknown key is added. -/
  | extended {before after : List (String × Value)} {key : String} {v : Value}
      (hunknown : key ∉ knownKeys) :
      SameDocument (before ++ after) (before ++ (key, v) :: after)
  /-- The links are called edges. -/
  | renamed {before after : List (String × Value)} {v : Value} :
      SameDocument (before ++ ("links", v) :: after) (before ++ ("edges", v) :: after)
  /-- The entry of a link is written in another way. -/
  | link {before after : List (String × Value)} {key : String} {first rest : List Value}
      {entry entry' : Value} (hkey : key = "links" ∨ key = "edges")
      (hentry : SameEntry linkKeys entry entry') :
      SameDocument (before ++ (key, .array (first ++ entry :: rest)) :: after)
        (before ++ (key, .array (first ++ entry' :: rest)) :: after)
  /-- The entry of a service is written in another way. -/
  | service {before after : List (String × Value)} {first rest : List Value}
      {entry entry' : Value} (hentry : SameEntry serviceKeys entry entry') :
      SameDocument (before ++ ("nodes", .array (first ++ entry :: rest)) :: after)
        (before ++ ("nodes", .array (first ++ entry' :: rest)) :: after)
  | symm {members members' : List (String × Value)} (h : SameDocument members members') :
      SameDocument members' members
  | trans {members members' members'' : List (String × Value)} (h : SameDocument members members')
      (h' : SameDocument members' members'') : SameDocument members members''

/-- The fields have the same readings, in any order. -/
structure SameReadings (members members' : List (String × Value)) : Prop where
  services : ((valuesOf .services members).map servicesOf).Perm
    ((valuesOf .services members').map servicesOf)
  links : ((valuesOf .links members).map linksOf?).Perm ((valuesOf .links members').map linksOf?)
  timestamp : ((valuesOf .timestamp members).map (·.moment?)).Perm
    ((valuesOf .timestamp members').map (·.moment?))
  source : ((valuesOf .source members).map (·.text?)).Perm
    ((valuesOf .source members').map (·.text?))

theorem SameReadings.collects {r : Report Float32 Float} (h : SameReadings members members')
    (hr : Collects members r) : Collects members' r where
  services := hr.services.perm h.services
  links := List.perm_singleton.mp (hr.links ▸ h.links.symm)
  timestamp := hr.timestamp.perm h.timestamp
  source := hr.source.perm h.source

theorem SameReadings.symm (h : SameReadings members members') : SameReadings members' members :=
  ⟨h.services.symm, h.links.symm, h.timestamp.symm, h.source.symm⟩

theorem SameReadings.trans {members'' : List (String × Value)} (h : SameReadings members members')
    (h' : SameReadings members' members'') : SameReadings members members'' :=
  ⟨h.services.trans h'.services, h.links.trans h'.links, h.timestamp.trans h'.timestamp,
    h.source.trans h'.source⟩

theorem sameReadings_of_perm (h : ∀ f, (valuesOf f members).Perm (valuesOf f members')) :
    SameReadings members members' :=
  ⟨(h _).map _, (h _).map _, (h _).map _, (h _).map _⟩

theorem sameReadings_of_eq (h : ∀ f, valuesOf f members = valuesOf f members') :
    SameReadings members members' :=
  sameReadings_of_perm fun f => .of_eq (h f)

/-- Whatever the change is, each field keeps what is read of it. -/
theorem SameDocument.sameReadings (h : SameDocument members members') :
    SameReadings members members' := by
  -- A report is a function of the readings of its fields, so each change only has to keep those.
  induction h with
  | reordered hperm => exact sameReadings_of_perm fun f => hperm.filterMap _
  | extended hunknown =>
    refine sameReadings_of_eq fun f => ?_
    rw [valuesOf_append, valuesOf_append,
      valuesOf_cons_of_unknown (ofKey?_eq_none_iff.mpr hunknown)]
  | renamed =>
    refine sameReadings_of_eq fun f => ?_
    have hlinks : Field.ofKey? "links" = some .links := rfl
    have hedges : Field.ofKey? "edges" = some .links := rfl
    rw [valuesOf_append, valuesOf_append, valuesOf_cons_of_known hlinks,
      valuesOf_cons_of_known hedges]
  | link hkey hentry =>
    have hlinks := ofKey?_eq_some_iff (f := .links).mpr (by simpa [Field.keys] using hkey)
    constructor <;>
      simp [valuesOf_append, valuesOf_cons_of_known hlinks, linksOf?, hentry.ofValue]
  | service hentry =>
    have hservices : Field.ofKey? "nodes" = some .services := rfl
    constructor <;>
      simp [valuesOf_append, valuesOf_cons_of_known hservices, servicesOf, List.filterMap_cons,
        hentry.ofValue?]
  | symm _ ih => exact ih.symm
  | trans _ _ ih ih' => exact ih.trans ih'

theorem SameDocument.toOption_ofValue (h : SameDocument members members') :
    (ofValue (.object members')).toOption = (ofValue (.object members)).toOption := by
  have hreport (r : Report Float32 Float) :
      ofValue (.object members') = .ok r ↔ ofValue (.object members) = .ok r := by
    rw [ofValue_object_eq_ok_iff, ofValue_object_eq_ok_iff]
    exact ⟨h.symm.sameReadings.collects, h.sameReadings.collects⟩
  cases hr : ofValue (.object members) with
  | ok r => rw [(hreport r).mpr hr]
  | error e =>
    cases hr' : ofValue (.object members') with
    | ok r => simp [hr, hr'] at hreport
    | error e' => rfl

/-! ## Main statement -/

/-- **Reading a report is strict about the list of links and lenient about everything else.** A
document in which no key that means a field comes twice is a report exactly when the list of links
is there under one of its two keys. Then there is a link for every entry of that list and metadata
for every entry with an id, each read from its own entry and each of their fields from its own
value, and the other fields are there if they are usable. Documents that say the same are read as
the same report, or neither is one.

A document is taken for the values that it has for each field (`ofValue_object_eq_ok_iff`). With no
key twice there is one value at most, and its reading does not depend on where it stands. -/
theorem ofValue_lenient (h : KnownOnce members) :
    ((∃ r, ofValue (.object members) = .ok r) ↔ ∃ items, IsLinkList members items) ∧
      (∀ r, ofValue (.object members) = .ok r → ReadsAs members r) ∧
      ∀ members', SameDocument members members' →
        (ofValue (.object members')).toOption = (ofValue (.object members)).toOption :=
  ⟨exists_ofValue_eq_ok_iff h, fun _ hr => readsAs_of_ofValue h hr,
    fun _ hsame => hsame.toOption_ofValue⟩

/-- A document with little to read in it: a source that is no text, links without ends, one of them
no object at all, and metadata without an id. -/
theorem ofValue_lenient_of_mistyped :
    let members : List (String × Value) :=
      [("source", .boolean true),
       ("edges", .array [.object [("source", .string "a"), ("target", .null)], .string "b"]),
       ("nodes", .array [.object [("name", .string "A")], .object [("id", .string "a")]])]
    KnownOnce members ∧ ∃ r, ofValue (.object members) = .ok r ∧ ReadsAs members r ∧
      (ofValue (.object members.reverse)).toOption = some r := by
  intro members
  have honce : KnownOnce members := by decide
  obtain ⟨hread, hreads, hsame⟩ := ofValue_lenient honce
  have hedges : IsLinkList members
      [.object [("source", .string "a"), ("target", .null)], .string "b"] :=
    Or.inr ⟨by simp [members], by decide⟩
  -- That there is a report comes from the statement; nothing is read here.
  obtain ⟨r, hr⟩ := hread.mpr ⟨_, hedges⟩
  have hreverse := hsame _ (.reordered (List.reverse_perm members).symm)
  exact ⟨honce, r, hr, hreads r hr, by rw [hreverse, hr]; rfl⟩

end TrafficMap.Report
