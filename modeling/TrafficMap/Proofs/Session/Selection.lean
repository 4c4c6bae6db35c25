import Mathlib.Data.List.Induction
import TrafficMap.Proofs.Session.Update
import TrafficMap.Proofs.Topology.Neighbours

/-!
# Sessions: The Selection

A selection is the id of a service, and the snapshot in which it was found may be replaced at any
time. A new snapshot gives up a selection that it does not have, and a click selects only what is
shown, so there is one way to a selection of a service that the map does not show: to ask for it by
its id, as a button does that was on screen before the snapshot changed.

`selected_updateMap` says where the selection after one message comes from. The main statement
follows it back through a run to the message that made the selection.
-/

namespace TrafficMap

variable {κ ν : Type}

/-! ## What is shown -/

/-- The map shows a service with the id. -/
def MapState.Shows (m : MapState κ ν) (id : String) : Prop :=
  ∃ s ∈ m.snapshot, ∃ service ∈ s.services, service.id = id

theorem MapState.shows_congr {m n : MapState κ ν} (h : m.snapshot = n.snapshot) (id : String) :
    m.Shows id ↔ n.Shows id := by
  rw [MapState.Shows, MapState.Shows, h]

/-- The message brings no snapshot and takes a selection of the service nowhere else. Only such
messages can come between asking for a missing service and still having it selected. -/
def Message.spares (id : String) : Message κ ν → Bool
  | .fetched (.ok _) | .clearSelection | .canvasClicked .. => false
  | .selectService other => other == id
  | _ => true

/-! ## One message -/

namespace Session

variable [Scalar κ]

/-- What lies under a point is shown. -/
theorem shows_of_serviceUnder? {m : MapState κ ν} {p : Point κ} {size : Size κ}
    {service : Service κ} (h : m.serviceUnder? p size = some service) : m.Shows service.id := by
  obtain ⟨s, hs, hhit⟩ := Option.bind_eq_some_iff.mp h
  exact ⟨s, hs, service, List.mem_of_find?_eq_some hhit, rfl⟩

/-- A selection was asked for by its id, or it is shown, or it was there before and the message had
nothing to do with it. So looking back from a selection that is not shown, one meets messages that
spare it, and before those the one that asked for it. -/
theorem selected_updateMap {m : MapState κ ν} {message : Message κ ν} {id : String}
    (h : (updateMap m message).view.selected = some id) :
    message = .selectService id ∨ (updateMap m message).Shows id ∨
      message.spares id = true ∧ m.view.selected = some id ∧
        (updateMap m message).snapshot = m.snapshot := by
  cases message with
  | fetched result =>
    cases result with
    | ok snapshot =>
      -- The new snapshot filters the selection, so what survives is shown by it.
      have hkept : m.view.selected.filter snapshot.contains = some id := h
      have hcontains := (Option.filter_eq_some_iff.mp hkept).2
      exact .inr (.inl ⟨snapshot, rfl, (snapshot.contains_iff id).mp hcontains⟩)
    | error error => exact .inr (.inr ⟨rfl, h, rfl⟩)
  | canvasClicked position viewport =>
    rw [updateMap, view_click] at h
    obtain ⟨service, hunder, rfl⟩ := Option.map_eq_some_iff.mp h
    -- What is under the click is in the snapshot, and the click leaves that alone.
    refine .inr (.inl ((MapState.shows_congr ?_ _).mpr (shows_of_serviceUnder? hunder)))
    exact snapshot_click m position viewport
  | selectService other =>
    rw [updateMap, view_select] at h
    cases h
    exact .inl rfl
  | clearSelection =>
    rw [updateMap, view_select] at h
    cases h
  -- From here on the messages spare the selection and the snapshot.
  | zoomIn => exact .inr (.inr ⟨rfl, by simpa [updateMap] using h, snapshot_zoomTo m _⟩)
  | zoomOut => exact .inr (.inr ⟨rfl, by simpa [updateMap] using h, snapshot_zoomTo m _⟩)
  | zoomReset => exact .inr (.inr ⟨rfl, by simpa [updateMap] using h, snapshot_zoomTo m _⟩)
  | toggleAutoRefresh => exact .inr (.inr ⟨rfl, h, rfl⟩)
  | viewportResized size => exact .inr (.inr ⟨rfl, h, rfl⟩)
  | pollTick => exact .inr (.inr ⟨rfl, h, rfl⟩)
  | refreshNow => exact .inr (.inr ⟨rfl, h, rfl⟩)

/-- A new snapshot keeps the selection of a service that it has. -/
theorem selected_of_success_of_contained (s : Session κ ν) (now : Int64) {snapshot : Snapshot κ ν}
    (h : ∀ id ∈ s.map.view.selected, ∃ service ∈ snapshot.services, service.id = id) :
    (s.update now (.fetched (.ok snapshot))).1.map.view.selected = s.map.view.selected := by
  rw [update_success]
  show s.map.view.selected.filter snapshot.contains = s.map.view.selected
  cases hselected : s.map.view.selected with
  | none => rfl
  | some id => rw [Option.filter_some, (snapshot.contains_iff id).mpr (h id hselected), if_pos rfl]

/-- A new snapshot gives up the selection of a service that it does not have. -/
theorem selected_of_success_of_missing (s : Session κ ν) (now : Int64) {snapshot : Snapshot κ ν}
    {id : String} (hid : id ∈ s.map.view.selected)
    (h : ∀ service ∈ snapshot.services, service.id ≠ id) :
    (s.update now (.fetched (.ok snapshot))).1.map.view.selected = none := by
  have hmissing : snapshot.contains id = false := by
    rw [Bool.eq_false_iff, ne_eq, snapshot.contains_iff]
    rintro ⟨service, hmem, rfl⟩
    exact h service hmem rfl
  rw [update_success]
  show s.map.view.selected.filter snapshot.contains = none
  rw [Option.mem_def.mp hid, Option.filter_some, hmissing, if_neg Bool.false_ne_true]

/-- A selection of what the map does not show was asked for by its id, or is as old as that. -/
theorem selected_of_not_shows {s : Session κ ν} {now : Int64} {message : Message κ ν} {id : String}
    (h : (s.update now message).1.map.view.selected = some id)
    (hmissing : ¬ (s.update now message).1.map.Shows id) :
    message = .selectService id ∨ s.map.view.selected = some id ∧ ¬ s.map.Shows id := by
  rw [map_update] at h hmissing
  rcases selected_updateMap h with hselect | hshows | ⟨-, hbefore, hsame⟩
  · exact .inl hselect
  · exact absurd hshows hmissing
  · exact .inr ⟨hbefore, fun hshows => hmissing ((MapState.shows_congr hsame id).mpr hshows)⟩

/-! ## Runs -/

/-- A selection is shown, or it was asked for by its id when it was not shown, and no message has
touched it since. -/
theorem selected_handleAll (interval : UInt64) (autoRefresh : Bool)
    (messages : List (Int64 × Message κ ν)) {id : String}
    (h : ((initial interval autoRefresh).handleAll messages).map.view.selected = some id) :
    ((initial interval autoRefresh).handleAll messages).map.Shows id ∨
      ∃ before now after, messages = before ++ (now, .selectService id) :: after ∧
        ¬ ((initial interval autoRefresh).handleAll before).map.Shows id ∧
        ∀ e ∈ after, e.2.spares id = true := by
  induction messages using List.reverseRecOn with
  | nil => cases h
  | append_singleton earlier e ih =>
    rw [handleAll_concat, map_update] at h ⊢
    rcases selected_updateMap h with hselect | hshows | ⟨hspares, hbefore, hsame⟩
    · by_cases hshown : ((initial interval autoRefresh).handleAll earlier).map.Shows id
      · left
        rw [hselect]
        exact (MapState.shows_congr (snapshot_select _ _) id).mpr hshown
      · obtain ⟨now, message⟩ := e
        obtain rfl : message = .selectService id := hselect
        exact .inr ⟨earlier, now, [], rfl, hshown, List.forall_mem_nil _⟩
    · exact .inl hshows
    · -- The message did not touch the selection, so it stands as it did before the message.
      rcases ih hbefore with hshown | ⟨before, now, after, rfl, hmissing, hafter⟩
      · exact .inl ((MapState.shows_congr hsame id).mpr hshown)
      · refine .inr ⟨before, now, after ++ [e], by simp, hmissing, ?_⟩
        exact List.forall_mem_append.mpr ⟨hafter, List.forall_mem_singleton.mpr hspares⟩

/-- **A selection does not outlive its service.** A new snapshot keeps the selection of a service
that it has and gives up every other. At any time, a selection that the map does not show was asked
for by its id while it was not shown, and since then there has been no new snapshot, no click, no
other selection and no end of the selection. So nothing but asking for a service by its id leads to
a selection that the map does not show.

The history is found from its end: a message that leaves such a selection behind has asked for it,
or it has spared it and the snapshot alike. -/
theorem selection_of_messages (interval : UInt64) (autoRefresh : Bool)
    (messages : List (Int64 × Message κ ν)) :
    let s : Session κ ν := (initial interval autoRefresh).handleAll messages
    (∀ now snapshot,
      let selected := (s.update now (.fetched (.ok snapshot))).1.map.view.selected
      ((∀ id ∈ s.map.view.selected, ∃ service ∈ snapshot.services, service.id = id) →
          selected = s.map.view.selected) ∧
        ∀ id ∈ s.map.view.selected, (∀ service ∈ snapshot.services, service.id ≠ id) →
          selected = none) ∧
      (∀ id, s.map.view.selected = some id → s.map.Shows id ∨
        ∃ before now after, messages = before ++ (now, .selectService id) :: after ∧
          ¬ ((initial interval autoRefresh).handleAll before).map.Shows id ∧
          ∀ e ∈ after, e.2.spares id = true) ∧
      ∀ (t : Session κ ν) now message id,
        (t.update now message).1.map.view.selected = some id →
        ¬ (t.update now message).1.map.Shows id →
        message = .selectService id ∨ t.map.view.selected = some id ∧ ¬ t.map.Shows id := by
  intro s
  refine ⟨fun now snapshot => ⟨?_, ?_⟩, ?_, ?_⟩
  · exact selected_of_success_of_contained s now
  · exact fun id hid => selected_of_success_of_missing s now hid
  · exact fun id => selected_handleAll interval autoRefresh messages
  · -- For any session, also one that no run reaches: this part is on one message alone.
    exact fun t now message id => selected_of_not_shows

end Session

end TrafficMap
