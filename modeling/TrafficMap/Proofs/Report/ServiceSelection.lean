import TrafficMap.Proofs.Report.LinkSelection

/-!
# Reports: Which Services a Snapshot Has

The services of a normalized snapshot against the report. Metadata, when there are any, tell which
services there are, and otherwise the ends of complete links do; either way each id counts where it
first occurs. `Service.Completes` says what a service owes to the metadata and what the registry
fills in, field by field. The main statement joins the two, and adds that a second entry for an id
is as good as none.
-/

namespace TrafficMap

/-! ## Words for layers -/

theorem Layer.not_isBlank_text (l : Layer) : ∀ c ∈ l.text.toList, Text.isBlank c = false := by
  cases l <;> simp [Layer.text, Text.isBlank]

theorem Layer.spells_of_lowered {word : String} (l : Layer)
    (h : Text.lowered (Text.trim word) = l.text) : Text.Spells word l.text :=
  (Text.spells_iff word l.not_isBlank_text).mpr h

/-- A word stands for the layer that it spells, or else for no known layer. -/
theorem Layer.spells_text_or_eq_unknown (word : String) :
    Text.Spells word (ofText word).text ∨ ofText word = .unknown := by
  unfold ofText
  split
  case h_1 heq => exact Or.inl (spells_of_lowered .infrastructure heq)
  case h_2 heq => exact Or.inl (spells_of_lowered .platform heq)
  case h_3 heq => exact Or.inl (spells_of_lowered .gateway heq)
  case h_4 heq => exact Or.inl (spells_of_lowered .business heq)
  case h_5 heq => exact Or.inl (spells_of_lowered .frontend heq)
  case h_6 => exact Or.inr rfl

/-! ## What a service owes to whom -/

/-- The service is what metadata say of it, and what they leave out comes from its placement, or
else from the defaults. The two coordinates are filled in one by one. -/
structure Service.Completes {κ : Type} [Scalar κ] (s : Service κ) (r : ReportedService κ)
    (placement : Option (Placement κ)) : Prop where
  id : s.id = r.id
  name : s.name = r.name.getD (displayName r.id)
  health : s.health = (r.status.map Health.ofText).getD .unknown
  x : s.position.x = (r.x.or (placement.map (·.position.x))).getD Position.center.x
  y : s.position.y = (r.y.or (placement.map (·.position.y))).getD Position.center.y
  layer : s.layer = ((r.layer.map Layer.ofText).or (placement.map (·.layer))).getD .unknown
  /-- A layer that nobody knows is not replaced by that of the placement. -/
  strange : ∀ word, r.layer = some word → (∀ l : Layer, ¬ Text.Spells word l.text) →
    s.layer = .unknown

variable {κ ν : Type} [Scalar κ] [Scalar ν]

theorem ReportedService.completes_resolve (registry : Registry κ) (r : ReportedService κ) :
    (r.resolve registry).Completes r (registry.get? r.id) where
  id := rfl
  name := rfl
  health := rfl
  -- A coordinate falls back twice: to the placement, and behind it to zero.
  x := by
    rw [Option.getD_or]
    cases h : registry.get? r.id <;> simp [resolve, h]
  y := by
    rw [Option.getD_or]
    cases h : registry.get? r.id <;> simp [resolve, h]
  layer := by
    rw [Option.getD_or]
    rfl
  strange := by
    intro word hword hstrange
    have hlayer : (r.resolve registry).layer = Layer.ofText word := by
      simp [ReportedService.resolve, hword]
    rw [hlayer]
    exact (Layer.spells_text_or_eq_unknown word).resolve_left (hstrange _)

/-! ## Services that metadata describe -/

/-- A described service completes the first entry for its id. -/
theorem completes_of_mem_describedServices {registry : Registry κ}
    {entries : List (ReportedService κ)} {s : Service κ}
    (h : s ∈ describedServices registry entries) :
    ∃ entry, entries.find? (·.id == s.id) = some entry ∧
      s.Completes entry (registry.get? s.id) := by
  obtain ⟨entry, hmem, rfl⟩ := List.mem_map.mp h
  exact ⟨entry, find?_of_mem_distinctOn ReportedService.id hmem, entry.completes_resolve registry⟩

theorem describedServices_append_of_mem {before : List (ReportedService κ)}
    {entry : ReportedService κ} (h : entry.id ∈ before.map (·.id)) (registry : Registry κ)
    (after : List (ReportedService κ)) :
    describedServices registry (before ++ entry :: after) =
      describedServices registry (before ++ after) := by
  rw [describedServices, describedServices, distinctOn_append_of_mem ReportedService.id h]

/-! ## Services that links name -/

/-- The ends of a link that has both, the source first. -/
def ReportedLink.ends {ν : Type} (r : ReportedLink ν) : List String :=
  match r.source, r.target with
  | some source, some target => [source, target]
  | _, _ => []

omit [Scalar κ] in
/-- Completing links loses no end of a complete one and adds none. -/
theorem Report.ends_completeLinks (r : Report κ ν) :
    (r.completeLinks.flatMap fun e => [e.source, e.target]) = r.links.flatMap (·.ends) := by
  unfold Report.completeLinks
  induction r.links with
  | nil => rfl
  | cons reported rest ih =>
    cases hr : reported.complete? with
    -- An incomplete link is dropped on the one side and has no ends on the other.
    | none =>
      have hends : reported.ends = [] := by
        obtain ⟨source, target, value, kind⟩ := reported
        cases source <;> cases target <;> simp_all [ReportedLink.complete?, ReportedLink.ends]
      rw [List.filterMap_cons_none hr, List.flatMap_cons, hends, ih]
      rfl
    | some e =>
      have hrestates := ReportedLink.restates_of_complete? hr
      have hends : reported.ends = [e.source, e.target] := by
        rw [ReportedLink.ends, hrestates.source, hrestates.target]
      rw [List.filterMap_cons_some hr, List.flatMap_cons, List.flatMap_cons, hends, ih]

omit [Scalar ν] in
/-- A named service has nothing but its id and its placement. -/
theorem completes_of_mem_namedServices {registry : Registry κ} {links : List (Link ν)}
    {s : Service κ} (h : s ∈ namedServices registry links) :
    s.Completes (.ofId s.id) (registry.get? s.id) := by
  obtain ⟨id, -, rfl⟩ := List.mem_map.mp h
  exact (ReportedService.ofId id).completes_resolve registry

/-! ## The services of a snapshot -/

/-- **Each id counts where it first occurs.** No two services of a snapshot share an id. With
metadata the ids are those of the entries, in the order in which they first occur, and a service
completes the first entry for its id; an entry for an id that came before may as well be missing.
Without metadata the ids are the ends of complete links, likewise, and a service has only its
placement.

All of this comes from `distinctOn`: it keeps the first of the elements with one key, so what is
found first under an id is what was kept for it. -/
theorem Report.services_normalize (r : Report κ ν) (registry : Registry κ) (fetchedAt : Int64) :
    let services := (r.normalize registry fetchedAt).services
    let ids := services.map (·.id)
    ids.Nodup ∧
      (∀ entries, r.services = some entries → entries ≠ [] →
        IsFirstOccurrences ids (entries.map (·.id)) ∧
          ∀ s ∈ services, ∃ entry, entries.find? (·.id == s.id) = some entry ∧
            s.Completes entry (registry.get? s.id)) ∧
      (∀ before entry after, r.services = some (before ++ entry :: after) →
        entry.id ∈ before.map (·.id) →
        services = ({ r with services := some (before ++ after) }.normalize registry
          fetchedAt).services) ∧
      (r.services = none ∨ r.services = some [] →
        IsFirstOccurrences ids (r.links.flatMap (·.ends)) ∧
          ∀ s ∈ services, s.Completes (.ofId s.id) (registry.get? s.id)) := by
  intro services ids
  have hservices : services = r.resolveServices registry := rfl
  -- An entry counts only if there are any at all, so the two ways to name services are kept apart
  -- from here on.
  refine ⟨r.nodup_resolveServices registry, ?_, ?_, ?_⟩
  · intro entries hentries hne
    rw [Report.resolveServices_of_described hentries hne] at hservices
    have hids : ids = (distinctOn (·.id) entries).map (·.id) := by
      rw [← ids_describedServices registry, ← hservices]
    constructor
    · rw [hids]
      exact isFirstOccurrences_distinctOn (·.id) entries
    · intro s hs
      rw [hservices] at hs
      exact completes_of_mem_describedServices hs
  · intro before entry after hentries hrepeated
    -- Without the repeated entry the list is still not empty, so the ends of the links do not take
    -- over.
    have hbefore : before ≠ [] := by
      rintro rfl
      cases hrepeated
    rw [hservices, Report.resolveServices_of_described hentries (by simp),
      describedServices_append_of_mem hrepeated]
    exact (Report.resolveServices_of_described rfl (by simp [hbefore]) registry).symm
  · intro hnone
    rw [Report.resolveServices_of_empty hnone] at hservices
    -- The program takes the ends of the completed links, the statement those of the reported ones.
    have hids : ids = (distinctOn id (r.links.flatMap (·.ends))).map id := by
      rw [List.map_id, ← Report.ends_completeLinks, ← endpointIds, ← ids_namedServices registry,
        ← hservices]
    constructor
    · rw [hids]
      have hfirst := isFirstOccurrences_distinctOn id (r.links.flatMap (·.ends))
      rwa [List.map_id (r.links.flatMap (·.ends))] at hfirst
    · intro s hs
      rw [hservices] at hs
      exact completes_of_mem_namedServices hs

end TrafficMap
