import TrafficMap.Proofs.Topology.FirstOccurrence
import TrafficMap.Report.Normal

/-!
# Reports: Normal Snapshots

A snapshot is normal when no two services share an id, every link joins two of its services, and
every volume is one that `usableVolume` keeps. The two main statements are the halves of a
characterization:

- every report normalizes to a normal snapshot, whatever the registry and the fetch time;
- a normal snapshot comes back unchanged from the report that `Report.ofSnapshot` makes of it.

Together they say that normalizing twice is normalizing once.
-/

namespace TrafficMap

variable {κ ν : Type} [Scalar κ] [Scalar ν]

/-! ## Normal form -/

/-- What consumers of a snapshot rely on without checking it again. Normalization establishes it for
every report, and a normal snapshot is normalized to itself. -/
structure Snapshot.IsNormal (s : Snapshot κ ν) : Prop where
  /-- No two services share an id. -/
  nodup : (s.services.map (·.id)).Nodup
  /-- Both ends of every link are services. -/
  joined : ∀ e ∈ s.links, e.joins (s.services.map (·.id)) = true
  /-- Every volume is a positive finite number or the zero that stands for none. -/
  usable : ∀ e ∈ s.links, usableVolume (some e.volume) = e.volume

omit [Scalar ν] in
theorem Link.joins_iff (e : Link ν) (ids : List String) :
    e.joins ids = true ↔ e.source ∈ ids ∧ e.target ∈ ids := by
  simp [Link.joins]

/-! ## Volumes -/

/-- Zero stands for itself, so what `usableVolume` gives is never replaced again. -/
theorem usableVolume_usableVolume (value : Option ν) :
    usableVolume (some (usableVolume value)) = usableVolume value := by
  cases value with
  | none => simp [usableVolume]
  | some v =>
    by_cases h : (Scalar.isFinite v && (0.0 : ν) < v) = true
    · have hkept : usableVolume (some v) = v := if_pos h
      rw [hkept, hkept]
    · have hzero : usableVolume (some v) = 0.0 := if_neg h
      rw [hzero]
      simp [usableVolume]

/-- A complete link carries a volume that `usableVolume` made. -/
theorem ReportedLink.usable_of_complete? {r : ReportedLink ν} {e : Link ν}
    (h : r.complete? = some e) : usableVolume (some e.volume) = e.volume := by
  unfold ReportedLink.complete? at h
  split at h
  · cases h
    exact usableVolume_usableVolume r.value
  · cases h

/-! ## Ids of services -/

@[simp]
theorem ReportedService.resolve_id (registry : Registry κ) (r : ReportedService κ) :
    (r.resolve registry).id = r.id := rfl

theorem ids_describedServices (registry : Registry κ) (entries : List (ReportedService κ)) :
    (describedServices registry entries).map (·.id) = (distinctOn (·.id) entries).map (·.id) := by
  simp [describedServices, Function.comp_def]

omit [Scalar ν] in
theorem ids_namedServices (registry : Registry κ) (links : List (Link ν)) :
    (namedServices registry links).map (·.id) = endpointIds links := by
  simp [namedServices, ReportedService.ofId, Function.comp_def]

omit [Scalar ν] in
theorem nodup_endpointIds (links : List (Link ν)) : (endpointIds links).Nodup := by
  have h := nodup_map_distinctOn id (links.flatMap fun e => [e.source, e.target])
  rwa [List.map_id] at h

/-! ## Where services come from -/

/-- Without metadata, or with an empty list of them, the links name the services. -/
theorem Report.resolveServices_of_empty {r : Report κ ν}
    (h : r.services = none ∨ r.services = some []) (registry : Registry κ) :
    r.resolveServices registry = namedServices registry r.completeLinks := by
  unfold Report.resolveServices
  rcases h with h | h <;> rw [h]

/-- A list of metadata that is not empty describes the services. -/
theorem Report.resolveServices_of_described {r : Report κ ν} {entries : List (ReportedService κ)}
    (h : r.services = some entries) (hne : entries ≠ []) (registry : Registry κ) :
    r.resolveServices registry = describedServices registry entries := by
  unfold Report.resolveServices
  rw [h]
  cases entries with
  | nil => exact absurd rfl hne
  | cons entry entries => rfl

/-- Whether the services are described or only named, each id occurs once. -/
theorem Report.nodup_resolveServices (r : Report κ ν) (registry : Registry κ) :
    ((r.resolveServices registry).map (·.id)).Nodup := by
  have hnamed : ((namedServices registry r.completeLinks).map (·.id)).Nodup := by
    rw [ids_namedServices]
    exact nodup_endpointIds r.completeLinks
  cases hr : r.services with
  | none => rwa [Report.resolveServices_of_empty (Or.inl hr)]
  | some entries =>
    by_cases hne : entries = []
    · subst hne
      rwa [Report.resolveServices_of_empty (Or.inr hr)]
    · rw [Report.resolveServices_of_described hr hne, ids_describedServices]
      exact nodup_map_distinctOn (·.id) entries

/-! ## Normalizing gives a normal snapshot -/

/-- A link of the snapshot is a complete link of the report that joins two of the services. -/
theorem Report.mem_links_normalize {r : Report κ ν} {registry : Registry κ} {fetchedAt : Int64}
    {e : Link ν} :
    e ∈ (r.normalize registry fetchedAt).links ↔
      (∃ reported ∈ r.links, reported.complete? = some e) ∧
        e.joins ((r.normalize registry fetchedAt).services.map (·.id)) = true := by
  simp [Report.normalize, Report.completeLinks, List.mem_filter, List.mem_filterMap]

theorem Report.isNormal_normalize (r : Report κ ν) (registry : Registry κ) (fetchedAt : Int64) :
    (r.normalize registry fetchedAt).IsNormal where
  nodup := r.nodup_resolveServices registry
  joined _ he := (Report.mem_links_normalize.mp he).2
  usable _ he := by
    obtain ⟨⟨_, _, hcomplete⟩, _⟩ := Report.mem_links_normalize.mp he
    exact ReportedLink.usable_of_complete? hcomplete

/-! ## A normal snapshot comes back unchanged -/

/-- Every field of a service is reported, so nothing is left to the registry. -/
theorem ReportedService.resolve_ofService (registry : Registry κ) (s : Service κ) :
    (ReportedService.ofService s).resolve registry = s := by
  simp [ReportedService.resolve, ReportedService.ofService, Health.ofText_text, Layer.ofText_text]

theorem ReportedLink.complete?_ofLink {e : Link ν} (h : usableVolume (some e.volume) = e.volume) :
    (ReportedLink.ofLink e).complete? = some e := by
  simp [ReportedLink.complete?, ReportedLink.ofLink, h, TrafficKind.ofText_text]

theorem describedServices_ofService (registry : Registry κ) {services : List (Service κ)}
    (h : (services.map (·.id)).Nodup) :
    describedServices registry (services.map .ofService) = services := by
  have hids : ((services.map ReportedService.ofService).map (·.id)).Nodup := by
    rwa [List.map_map]
  rw [describedServices, distinctOn_eq_self _ hids, List.map_map]
  exact List.map_id'' (ReportedService.resolve_ofService registry) services

theorem filterMap_complete?_ofLink {links : List (Link ν)}
    (h : ∀ e ∈ links, usableVolume (some e.volume) = e.volume) :
    (links.map ReportedLink.ofLink).filterMap (·.complete?) = links := by
  induction links with
  | nil => rfl
  | cons e rest ih =>
    have hsome := ReportedLink.complete?_ofLink (h e List.mem_cons_self)
    rw [List.map_cons, List.filterMap_cons_some hsome,
      ih fun e' he' => h e' (List.mem_cons_of_mem e he')]

omit [Scalar κ] in
theorem Snapshot.IsNormal.completeLinks_ofSnapshot {s : Snapshot κ ν} (h : s.IsNormal) :
    (Report.ofSnapshot s).completeLinks = s.links :=
  filterMap_complete?_ofLink h.usable

omit [Scalar κ] in
/-- Without services there are no links either, so the ends of links name no service. -/
theorem Snapshot.IsNormal.links_eq_nil {s : Snapshot κ ν} (h : s.IsNormal)
    (hnone : s.services = []) : s.links = [] := by
  apply List.eq_nil_iff_forall_not_mem.mpr
  intro e he
  have hsource := ((Link.joins_iff e _).mp (h.joined e he)).1
  rw [hnone] at hsource
  cases hsource

theorem Snapshot.IsNormal.resolveServices_ofSnapshot {s : Snapshot κ ν} (h : s.IsNormal)
    (registry : Registry κ) : (Report.ofSnapshot s).resolveServices registry = s.services := by
  by_cases hs : s.services = []
  · -- The empty list of metadata counts as none, so the links have to name no service.
    have hempty : (Report.ofSnapshot s).services = some [] := by
      simp [Report.ofSnapshot, hs]
    rw [Report.resolveServices_of_empty (Or.inr hempty), h.completeLinks_ofSnapshot,
      h.links_eq_nil hs, hs]
    rfl
  · have hne : s.services.map ReportedService.ofService ≠ [] := by
      simpa using hs
    rw [Report.resolveServices_of_described rfl hne, describedServices_ofService registry h.nodup]

theorem Snapshot.IsNormal.normalize_ofSnapshot {s : Snapshot κ ν} (h : s.IsNormal)
    (registry : Registry κ) (fetchedAt : Int64) :
    (Report.ofSnapshot s).normalize registry fetchedAt = s := by
  have hlinks : s.links.filter (·.joins (s.services.map (·.id))) = s.links :=
    List.filter_eq_self.mpr h.joined
  simp only [Report.normalize, h.resolveServices_ofSnapshot registry, h.completeLinks_ofSnapshot,
    hlinks]
  rfl

/-! ## Normalizing twice -/

/-- **Normalization is idempotent**: the report of a normalized snapshot stands for that very
snapshot, with any registry and at any fetch time. A snapshot is complete, so when it is written as
a report nothing has to be looked up, and nothing is dropped since normalization has dropped it
before. -/
theorem Report.normalize_ofSnapshot_normalize (r : Report κ ν) (first second : Registry κ)
    (fetchedAt refetchedAt : Int64) :
    (Report.ofSnapshot (r.normalize first fetchedAt)).normalize second refetchedAt =
      r.normalize first fetchedAt :=
  (r.isNormal_normalize first fetchedAt).normalize_ofSnapshot second refetchedAt

end TrafficMap
