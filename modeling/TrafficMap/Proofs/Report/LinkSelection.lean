import Mathlib.Data.List.Forall2
import TrafficMap.Proofs.Number.Sign
import TrafficMap.Proofs.Report.NormalForm
import TrafficMap.Proofs.Text.Padding

/-!
# Reports: Which Links a Snapshot Has

The links of a normalized snapshot against the reported ones. `ReportedLink.endsIn` says which
reported links belong to the snapshot, and `Link.Restates` what becomes of one that does. The main
statement lines the two lists up: in order, with multiplicity, nothing between and nothing left
over.
-/

namespace TrafficMap

/-! ## Which links belong -/

/-- Both ends of the link are reported. -/
def ReportedLink.hasEnds {ν : Type} (r : ReportedLink ν) : Bool :=
  r.source.isSome && r.target.isSome

/-- Both ends of the link are reported, and both are among the ids. -/
def ReportedLink.endsIn {ν : Type} (r : ReportedLink ν) (ids : List String) : Bool :=
  r.source.any ids.contains && r.target.any ids.contains

/-! ## What becomes of a link -/

/-- The reported kind is the word `message` between blanks, in whatever letter case. -/
def SaysMessage (word : String) : Prop :=
  ∃ core, Text.IsPadded word core ∧ core.map Char.toLower = "message".toList

/-- The link says what was reported: the same ends, a message flow exactly when the kind says so
and otherwise requests, and the reported volume if it is finite and above zero, or else zero. -/
structure Link.Restates {ν : Type} [Scalar ν] (e : Link ν) (r : ReportedLink ν) : Prop where
  source : r.source = some e.source
  target : r.target = some e.target
  kind : e.kind = .message ↔ ∃ word, r.kind = some word ∧ SaysMessage word
  volume : ∀ v, r.value = some v → Scalar.isFinite v = true → 0.0 < v → e.volume = v
  noVolume : (∀ v, r.value = some v → ¬ (Scalar.isFinite v = true ∧ 0.0 < v)) → e.volume = 0.0

theorem TrafficKind.ofText_eq_message_iff (word : String) :
    ofText word = .message ↔ SaysMessage word := by
  have hblank : ∀ c ∈ "message".toList, Text.isBlank c = false := by simp [Text.isBlank]
  have hword := Text.lowered_trim_eq_iff word hblank
  rw [String.ofList_toList] at hword
  rw [SaysMessage, ← hword, ofText]
  split
  case isTrue h => exact iff_of_true rfl h
  case isFalse h => exact iff_of_false TrafficKind.noConfusion h

/-- A missing kind means requests. -/
theorem TrafficKind.getD_ofText_eq_message_iff (kind : Option String) :
    (kind.map ofText).getD .http = .message ↔ ∃ word, kind = some word ∧ SaysMessage word := by
  cases kind with
  | none => simp
  | some word => simpa using ofText_eq_message_iff word

variable {κ ν : Type} [Scalar κ] [Scalar ν]

theorem usableVolume_of_usable {v : ν} (hfinite : Scalar.isFinite v = true) (hpos : 0.0 < v) :
    usableVolume (some v) = v := by
  simp [usableVolume, hfinite, hpos]

theorem usableVolume_of_unusable {value : Option ν}
    (h : ∀ v, value = some v → ¬ (Scalar.isFinite v = true ∧ 0.0 < v)) :
    usableVolume value = 0.0 := by
  cases value with
  | none => rfl
  | some v =>
    have hv := h v rfl
    refine if_neg ?_
    rwa [Bool.and_eq_true, decide_eq_true_eq]

theorem ReportedLink.restates_of_complete? {r : ReportedLink ν} {e : Link ν}
    (h : r.complete? = some e) : e.Restates r := by
  unfold ReportedLink.complete? at h
  split at h
  case h_1 source target hsource htarget =>
    cases h
    exact {
      source := hsource
      target := htarget
      kind := TrafficKind.getD_ofText_eq_message_iff r.kind
      volume := by
        intro v hv hfinite hpos
        rw [hv]
        exact usableVolume_of_usable hfinite hpos
      noVolume := usableVolume_of_unusable }
  case h_2 => cases h

/-! ## The two lists side by side -/

theorem ReportedLink.complete?_eq_none_iff (r : ReportedLink ν) :
    r.complete? = none ↔ r.hasEnds = false := by
  obtain ⟨source, target, value, kind⟩ := r
  cases source <;> cases target <;> simp [complete?, hasEnds]

/-- A link without both ends does not end anywhere. -/
theorem ReportedLink.endsIn_eq_false {r : ReportedLink ν} (h : r.complete? = none)
    (ids : List String) : r.endsIn ids = false := by
  obtain ⟨source, target, value, kind⟩ := r
  cases source <;> cases target <;> simp_all [complete?, endsIn]

/-- The link that a complete report becomes joins the ids in which the report ends. -/
theorem ReportedLink.endsIn_eq_joins {r : ReportedLink ν} {e : Link ν}
    (h : r.complete? = some e) (ids : List String) : r.endsIn ids = e.joins ids := by
  have hrestates := restates_of_complete? h
  simp [endsIn, Link.joins, hrestates.source, hrestates.target]

/-- Completing links and then dropping those that lead elsewhere keeps the reported links that end
among the ids, one link for each. -/
theorem restates_filter_complete? (links : List (ReportedLink ν)) (ids : List String) :
    List.Forall₂ Link.Restates ((links.filterMap (·.complete?)).filter (·.joins ids))
      (links.filter (·.endsIn ids)) := by
  induction links with
  | nil => exact .nil
  | cons r rest ih =>
    -- Whether a link has its ends among the ids can be seen before and after completing it.
    cases hr : r.complete? with
    | none =>
      have hends := ReportedLink.endsIn_eq_false hr ids
      rw [List.filterMap_cons_none hr, List.filter_cons_of_neg (by simp [hends])]
      exact ih
    | some e =>
      have hends := ReportedLink.endsIn_eq_joins hr ids
      rw [List.filterMap_cons_some hr, List.filter_cons, List.filter_cons, hends]
      split
      · exact .cons (ReportedLink.restates_of_complete? hr) ih
      · exact ih

/-! ## Reports without metadata -/

omit [Scalar ν] in
/-- The ids that links name are exactly their ends. -/
theorem mem_endpointIds {links : List (Link ν)} {end_ : String} :
    end_ ∈ endpointIds links ↔ ∃ e ∈ links, end_ = e.source ∨ end_ = e.target := by
  have h : end_ ∈ (endpointIds links).map id ↔
      end_ ∈ (links.flatMap fun e => [e.source, e.target]).map id := mem_map_distinctOn id
  rw [List.map_id, List.map_id] at h
  rw [h]
  simp [List.mem_flatMap]

/-- Where the links name the services, no complete link leads elsewhere. -/
theorem Report.endsIn_eq_hasEnds {r : Report κ ν} (h : r.services = none ∨ r.services = some [])
    (registry : Registry κ) {reported : ReportedLink ν} (hmem : reported ∈ r.links) :
    reported.endsIn ((r.resolveServices registry).map (·.id)) = reported.hasEnds := by
  rw [Report.resolveServices_of_empty h, ids_namedServices]
  cases hr : reported.complete? with
  | none =>
    rw [ReportedLink.endsIn_eq_false hr, (ReportedLink.complete?_eq_none_iff reported).mp hr]
  | some e =>
    have he : e ∈ r.completeLinks := List.mem_filterMap.mpr ⟨reported, hmem, hr⟩
    -- The services are the ends of the complete links, so a complete link always ends among them.
    have hjoins : e.joins (endpointIds r.completeLinks) = true :=
      (Link.joins_iff e _).mpr
        ⟨mem_endpointIds.mpr ⟨e, he, Or.inl rfl⟩, mem_endpointIds.mpr ⟨e, he, Or.inr rfl⟩⟩
    have hrestates := ReportedLink.restates_of_complete? hr
    rw [ReportedLink.endsIn_eq_joins hr, hjoins, ReportedLink.hasEnds, hrestates.source,
      hrestates.target]
    rfl

/-! ## Volumes as floats -/

/-- A volume that `usableVolume` gives back is a rate. -/
theorem isRate_of_usable {v : Float} (h : usableVolume (some v) = v) : IsRate v := by
  by_cases hv : Scalar.isFinite v = true ∧ (0.0 : Float) < v
  · exact isRate_of_finite_of_pos hv.1 hv.2
  · have hzero : usableVolume (some v) = 0.0 :=
      usableVolume_of_unusable fun w hw => by cases hw; exact hv
    rw [← h, hzero]
    exact isRate_zero

/-! ## The links of a snapshot -/

/-- **Links are neither invented, lost, reordered nor left dangling.** The links of a snapshot
restate, one for one and in order, the reported links that end in its services. So every end is a
service, every volume a rate, and without metadata only links that lack an end are dropped.

The program completes links first and then drops those that lead elsewhere. `ReportedLink.endsIn`
asks the same of a link before it is completed, and so the reported links can be filtered
instead. -/
theorem Report.links_normalize (r : Report κ Float) (registry : Registry κ) (fetchedAt : Int64) :
    let s := r.normalize registry fetchedAt
    let ids := s.services.map (·.id)
    List.Forall₂ Link.Restates s.links (r.links.filter (·.endsIn ids)) ∧
      (∀ e ∈ s.links, e.source ∈ ids ∧ e.target ∈ ids ∧ IsRate e.volume) ∧
      (r.services = none ∨ r.services = some [] →
        r.links.filter (·.endsIn ids) = r.links.filter (·.hasEnds)) := by
  intro s ids
  have hnormal : s.IsNormal := r.isNormal_normalize registry fetchedAt
  refine ⟨restates_filter_complete? r.links ids, ?_, ?_⟩
  · intro e he
    -- What is left of the filter: its condition.
    obtain ⟨hsource, htarget⟩ := (Link.joins_iff e ids).mp (hnormal.joined e he)
    exact ⟨hsource, htarget, isRate_of_usable (hnormal.usable e he)⟩
  · intro hnone
    exact List.filter_congr fun reported hmem => Report.endsIn_eq_hasEnds hnone registry hmem

end TrafficMap
