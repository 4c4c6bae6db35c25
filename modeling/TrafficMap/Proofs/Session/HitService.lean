import TrafficMap.Proofs.Session.Update
import TrafficMap.Proofs.Topology.Conservation
import TrafficMap.Proofs.Topology.Neighbours

/-!
# Sessions: The Service That a Click Hits

A click finds a service by its place on the map and keeps nothing but its id; the info panel, and
every snapshot that comes later, find the service again by that id. No two services of a normal
snapshot share an id, so what is found again is what was hit, at the same place in the list.

The main statement adds what the panel then lists: the neighbours of that very service.
-/

namespace TrafficMap

variable {κ ν : Type}

/-! ## Finding by place on the map -/

namespace Snapshot

/-- The disc of the service holds the point, and that of no service before it does. Services may
overlap, and of those at a point the first in the list is hit. -/
def IsFirstHit [Scalar κ] (s : Snapshot κ ν) (p : Position κ) (i : Fin s.services.length) : Prop :=
  (s.services.get i).position.isWithin p discRadius = true ∧
    ∀ j < i, (s.services.get j).position.isWithin p discRadius = false

theorem IsFirstHit.serviceAt?_eq [Scalar κ] {s : Snapshot κ ν} {p : Position κ}
    {i : Fin s.services.length} (h : s.IsFirstHit p i) :
    s.serviceAt? p = some (s.services.get i) := by
  rw [serviceAt?, List.find?_eq_some_iff_getElem]
  refine ⟨h.1, i, i.isLt, rfl, ?_⟩
  intro j hj
  have hbefore := h.2 ⟨j, hj.trans i.isLt⟩ hj
  simpa using hbefore

/-- Of the services whose discs hold a point there is a first one. -/
theorem exists_isFirstHit [Scalar κ] {s : Snapshot κ ν} {p : Position κ}
    (h : ∃ service ∈ s.services, service.position.isWithin p discRadius = true) :
    ∃ i, s.IsFirstHit p i := by
  have hsome : (s.serviceAt? p).isSome = true := List.find?_isSome.mpr h
  obtain ⟨service, hservice⟩ := Option.isSome_iff_exists.mp hsome
  obtain ⟨hholds, i, hi, rfl, hbefore⟩ := List.find?_eq_some_iff_getElem.mp hservice
  refine ⟨⟨i, hi⟩, hholds, ?_⟩
  intro j hj
  simpa using hbefore j hj

/-! ## Finding by id -/

namespace IsNormal

variable [Scalar ν] {s : Snapshot κ ν}

/-- Two places with one id are one place. -/
theorem eq_of_id_eq (h : s.IsNormal) {i j : Fin s.services.length}
    (hid : (s.services.get j).id = (s.services.get i).id) : j = i :=
  (h.existsUnique_service (List.mem_map_of_mem (List.getElem_mem i.isLt))).unique hid rfl

/-- The id of a service leads back to the service. -/
theorem service?_id (h : s.IsNormal) (i : Fin s.services.length) :
    s.service? (s.services.get i).id = some (s.services.get i) := by
  rw [service?, List.find?_eq_some_iff_getElem]
  refine ⟨beq_self_eq_true _, i, i.isLt, rfl, ?_⟩
  intro j hj
  -- An earlier service with the id would stand at another place.
  have hne : (s.services.get ⟨j, hj.trans i.isLt⟩).id ≠ (s.services.get i).id := by
    intro hid
    exact hj.ne (congrArg Fin.val (h.eq_of_id_eq hid))
  simpa using hne

end IsNormal

end Snapshot

/-! ## The panel -/

/-- The service that pressing the text selects, if it does. -/
def PanelText.selects? (t : PanelText κ ν) : Option String :=
  match t.press with
  | some (.selectService id) => some id
  | _ => none

/-- The buttons of an info panel select the neighbours of its service. -/
theorem selects?_infoTexts [Scalar ν] (s : Snapshot κ ν) (service : Service κ) :
    (infoTexts s service).filterMap (·.selects?) = (s.connected service.id).map (·.id) := by
  have hpeers (peers : List (Service κ)) :
      (peers.map fun peer => (.button peer.name (.selectService peer.id) : PanelText κ ν)).filterMap
        (·.selects?) = peers.map (·.id) := by
    rw [List.filterMap_map]
    exact congrFun List.filterMap_eq_map peers
  simp only [infoTexts, List.filterMap_append, hpeers]
  exact List.append_nil _

namespace Session

variable [Scalar κ] [Scalar ν]

omit [Scalar κ] in
/-- No text of the header selects a service. -/
theorem selects?_headerTexts (t : Session κ ν) (now : Int64) :
    (headerTexts t now).filterMap (·.selects?) = [] := by
  have hplain (texts : List String) :
      (texts.map (.plain : String → PanelText κ ν)).filterMap (·.selects?) = [] := by
    simp [PanelText.plain, PanelText.selects?]
  simp only [headerTexts, List.filterMap_append, hplain]
  rfl

/-- With a service selected, the panel offers its neighbours, and nothing else offers a service. -/
theorem selects?_texts {t : Session κ ν} {s : Snapshot κ ν} {service : Service κ}
    (hsnapshot : t.map.snapshot = some s) (hselected : t.map.selectedService? = some service)
    (now : Int64) :
    (t.texts now).filterMap (·.selects?) = (s.connected service.id).map (·.id) := by
  rw [texts, hsnapshot, hselected, List.filterMap_append, selects?_headerTexts, selects?_infoTexts,
    List.nil_append]

/-! ## Clicks and new snapshots -/

section

variable {t : Session κ ν} {s : Snapshot κ ν}

omit [Scalar ν] in
theorem snapshot_update_click (hsnapshot : t.map.snapshot = some s) (now : Int64) (p : Point κ)
    (size : Size κ) : (t.update now (.canvasClicked p size)).1.map.snapshot = some s := by
  rw [map_update, updateMap, snapshot_click, hsnapshot]

omit [Scalar ν] in
/-- The id of the first service that is hit is what a click keeps. -/
theorem selected_update_click {p : Point κ} {size : Size κ} {i : Fin s.services.length}
    (hsnapshot : t.map.snapshot = some s)
    (hhit : s.IsFirstHit ((Projection.of t.map.view.zoom size).toCanvas p) i) (now : Int64) :
    (t.update now (.canvasClicked p size)).1.map.view.selected = some (s.services.get i).id := by
  have hunder : t.map.serviceUnder? p size = some (s.services.get i) := by
    rw [MapState.serviceUnder?, hsnapshot, Option.bind_some, hhit.serviceAt?_eq]
  rw [map_update, updateMap, view_click, hunder]
  rfl

omit [Scalar κ] in
/-- A selected id is found in a normal snapshot where it stands. -/
theorem selectedService?_eq (h : s.IsNormal) {m : MapState κ ν} (hsnapshot : m.snapshot = some s)
    {i : Fin s.services.length} (hselected : m.view.selected = some (s.services.get i).id) :
    m.selectedService? = some (s.services.get i) := by
  rw [MapState.selectedService?, hselected, hsnapshot, Option.bind_some, Option.bind_some,
    h.service?_id]

/-- A normal snapshot that has the selected id selects the service with that id. -/
theorem selectedService?_update_success (h : s.IsNormal) {i : Fin s.services.length}
    (hselected : t.map.view.selected = some (s.services.get i).id) (now : Int64) :
    (t.update now (.fetched (.ok s))).1.map.selectedService? = some (s.services.get i) := by
  have hcontains : s.contains (s.services.get i).id = true :=
    (s.contains_iff _).mpr ⟨_, List.getElem_mem i.isLt, rfl⟩
  rw [update_success]
  apply selectedService?_eq h rfl
  rw [MapState.showSnapshot, hselected, Option.filter_some, if_pos hcontains]

end

/-! ## Main statement -/

/-- **What is hit is what is shown.** A click within the disc of some service of a normalized
snapshot selects the first such service in the list, the one at that place and no other; the panel
offers its neighbours; and if another normalized snapshot is shown next that has the id, the service
with that id there is selected, and there is only one. The neighbours of an id are the other
services that are linked with it, each once and in order, and services are neighbours of each other.

With normal snapshots an id stands for one service, so looking up the selected id finds the service
that was hit; all else about neighbours is `Snapshot.IsNormal` too. -/
theorem hit_service_is_shown (r : Report κ ν) (registry : Registry κ) (fetchedAt : Int64) :
    let s := r.normalize registry fetchedAt
    (∀ (t : Session κ ν) now p size, t.map.snapshot = some s →
      let point := (Projection.of t.map.view.zoom size).toCanvas p
      let clicked := (t.update now (.canvasClicked p size)).1
      (∃ service ∈ s.services, service.position.isWithin point discRadius = true) →
      ∃ i, s.IsFirstHit point i ∧ clicked.map.selectedService? = some (s.services.get i) ∧
        (∀ j : Fin s.services.length, (s.services.get j).id = (s.services.get i).id → j = i) ∧
        (∀ later, (clicked.texts later).filterMap (·.selects?) =
          (s.connected (s.services.get i).id).map (·.id)) ∧
        ∀ (next : Report κ ν) registry' fetchedAt' later,
          let s' := next.normalize registry' fetchedAt'
          ∀ j : Fin s'.services.length, (s'.services.get j).id = (s.services.get i).id →
            (clicked.update later (.fetched (.ok s'))).1.map.selectedService? =
              some (s'.services.get j) ∧
            ∀ k : Fin s'.services.length, (s'.services.get k).id = (s'.services.get j).id → k = j) ∧
      (∀ id, s.ListsNeighbours id (s.connected id)) ∧
      ∀ a b, b ∈ (s.connected a).map (·.id) ↔ a ∈ (s.connected b).map (·.id) := by
  intro s
  have hnormal : s.IsNormal := r.isNormal_normalize registry fetchedAt
  refine ⟨?_, hnormal.listsNeighbours, hnormal.mem_ids_connected_comm⟩
  intro t now p size hsnapshot point clicked hwithin
  -- A click changes the selection and not the snapshot, so what is hit is still there to be shown.
  obtain ⟨i, hhit⟩ := Snapshot.exists_isFirstHit hwithin
  have hselected : clicked.map.view.selected = some (s.services.get i).id :=
    selected_update_click hsnapshot hhit now
  have hshown : clicked.map.snapshot = some s := snapshot_update_click hsnapshot now p size
  have hservice : clicked.map.selectedService? = some (s.services.get i) :=
    selectedService?_eq hnormal hshown hselected
  refine ⟨i, hhit, hservice, fun j hid => hnormal.eq_of_id_eq hid, selects?_texts hshown hservice,
    ?_⟩
  intro next registry' fetchedAt' later s' j hid
  -- The next snapshot keeps the selection since it has the id, at whatever place of its list.
  have hnormal' : s'.IsNormal := next.isNormal_normalize registry' fetchedAt'
  refine ⟨?_, fun k hid' => hnormal'.eq_of_id_eq hid'⟩
  exact selectedService?_update_success hnormal' (hselected.trans (congrArg some hid.symm)) later

/-- Two services of unknown place stand at the center of the canvas, one upon the other; a click
there hits the first of them, which has the other one for a neighbour in spite of its loop. -/
theorem hit_service_is_shown_of_overlap :
    let r : Report ℚ ℚ :=
      ⟨none, [⟨some "a", some "b", some 1, none⟩, ⟨some "a", some "a", some 1, none⟩], none, none⟩
    let s := r.normalize .empty 0
    let t : Session ℚ ℚ := ((initial 2000 true).update 0 (.fetched (.ok s))).1
    let point := (Projection.of t.map.view.zoom ⟨800, 600⟩).toCanvas ⟨400, 320⟩
    let clicked := (t.update 0 (.canvasClicked ⟨400, 320⟩ ⟨800, 600⟩)).1
    (∀ service ∈ s.services, service.position.isWithin point discRadius = true) ∧
      s.connected "a" ≠ [] ∧
      ∃ i, s.IsFirstHit point i ∧ clicked.map.selectedService? = some (s.services.get i) ∧
        (clicked.texts 0).filterMap (·.selects?) =
          (s.connected (s.services.get i).id).map (·.id) := by
  intro r s t point clicked
  have hwithin : ∀ service ∈ s.services, service.position.isWithin point discRadius = true := by
    decide +kernel
  have hfirst : ∃ service ∈ s.services, service.position.isWithin point discRadius = true := by
    decide +kernel
  -- Only what the statement needs is computed; the rest comes from it.
  obtain ⟨i, hhit, hservice, -, hoffers, -⟩ :=
    (hit_service_is_shown r .empty 0).1 t 0 ⟨400, 320⟩ ⟨800, 600⟩ rfl hfirst
  exact ⟨hwithin, by decide +kernel, i, hhit, hservice, hoffers 0⟩

end Session

end TrafficMap
