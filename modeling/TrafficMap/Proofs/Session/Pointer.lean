import TrafficMap.Proofs.Session.Selection
import TrafficMap.Session.Canvas

/-!
# Sessions: The Pointer and the Click

The pointing hand and the click find a service each in its own way. The hand asks the mapping for
the size that the canvas has now; a click brings that size along, and the mapping is that of the
view after it has been taken over. The first main result is that both find the same service.

The size in the view is therefore never used as it stands. `Session.unsized` forgets it. What a
message does to the rest of a session does not depend on it, and a report of another size does
nothing to the rest, so a run is the same, but for the size, if such reports are lost.
-/

namespace TrafficMap

variable {κ ν : Type} [Scalar κ]

/-! ## One point of the canvas -/

/-- A press of the left button on the canvas is a click. -/
theorem MapState.answer?_pressed_inside (m : MapState κ ν) (size : Size κ) (p : Point κ) :
    m.answer? (.pressed .left) size (some p) = some (.canvasClicked p size) := rfl

/-- Off the canvas no press is a click. -/
theorem MapState.answer?_pressed_outside (m : MapState κ ν) (size : Size κ) {q : Point κ}
    {clicked : Size κ} : m.answer? (.pressed .left) size none ≠ some (.canvasClicked q clicked) := by
  intro h
  have hreport : m.resizeReport? size = some (.canvasClicked q clicked) := h
  unfold resizeReport? at hreport
  split at hreport
  · cases hreport
  · cases hreport

namespace Session

/-- After the message a service of the snapshot that is shown is selected. -/
def SelectsShown (s : Session κ ν) (message : Message κ ν) : Prop :=
  ∀ now, ∃ id, (s.update now message).1.map.view.selected = some id ∧
    (s.update now message).1.map.Shows id

/-- A click selects a service of the snapshot exactly if there is one under the point. -/
theorem selectsShown_click_iff (s : Session κ ν) (p : Point κ) (size : Size κ) :
    s.SelectsShown (.canvasClicked p size) ↔ (s.map.serviceUnder? p size).isSome = true := by
  have hselected (now : Int64) :
      (s.update now (.canvasClicked p size)).1.map.view.selected =
        (s.map.serviceUnder? p size).map (·.id) := by
    rw [map_update, updateMap, view_click]
  constructor
  · intro h
    obtain ⟨id, hid, -⟩ := h 0
    rw [hselected] at hid
    obtain ⟨service, hservice, -⟩ := Option.map_eq_some_iff.mp hid
    rw [hservice]
    rfl
  · intro h now
    obtain ⟨service, hservice⟩ := Option.isSome_iff_exists.mp h
    refine ⟨service.id, ?_, ?_⟩
    · rw [hselected, hservice]
      rfl
    · -- The click leaves the snapshot alone, so what was under the point is still shown.
      rw [map_update]
      apply (MapState.shows_congr (snapshot_click s.map p size) service.id).mpr
      exact shows_of_serviceUnder? hservice

/-- The pointing hand shows exactly where a press is a click that selects a service. -/
theorem isOverService_iff (s : Session κ ν) (size : Size κ) (inside : Option (Point κ)) :
    s.map.isOverService size inside = true ↔
      ∃ p clicked, s.map.answer? (.pressed .left) size inside = some (.canvasClicked p clicked) ∧
        s.SelectsShown (.canvasClicked p clicked) := by
  cases inside with
  | none =>
    constructor
    · intro h
      cases h
    · rintro ⟨p, clicked, hclick, -⟩
      exact absurd hclick (s.map.answer?_pressed_outside size)
  | some p =>
    have hunder : s.map.isOverService size (some p) = (s.map.serviceUnder? p size).isSome := rfl
    -- Inside, the hand and the click look for a service at the same point with the same size.
    rw [hunder, ← selectsShown_click_iff]
    constructor
    · intro h
      exact ⟨p, size, s.map.answer?_pressed_inside size p, h⟩
    · rintro ⟨q, clicked, hclick, h⟩
      rw [s.map.answer?_pressed_inside size p] at hclick
      cases hclick
      exact h

end Session

/-! ## Forgetting the size -/

/-- The message reports the size of the canvas and does nothing else. -/
def Message.isSizeReport : Message κ ν → Bool
  | .viewportResized _ => true
  | _ => false

omit [Scalar κ] in
theorem MapState.zoomTo_resize (m : MapState κ ν) (viewport : Size κ) (zoom : Zoom) :
    (m.resize viewport).zoomTo zoom = (m.zoomTo zoom).resize viewport := by
  by_cases h : zoom = m.view.zoom
  · simp [zoomTo, resize, h]
  · simp [zoomTo, resize, h]

omit [Scalar κ] in
theorem MapState.select_resize (m : MapState κ ν) (viewport : Size κ) (selected : Option String) :
    (m.resize viewport).select selected = (m.select selected).resize viewport := by
  by_cases h : selected = m.view.selected
  · simp [select, resize, h]
  · simp [select, resize, h]

namespace Session

/-- The session as if another size of the canvas had been reported last. -/
def resized (s : Session κ ν) (viewport : Size κ) : Session κ ν :=
  { s with map := s.map.resize viewport }

/-- The session without the size of the canvas. Sessions that are equal without it are told apart by
no picture and no selection. -/
def unsized (s : Session κ ν) : Session κ ν := s.resized .zero

/-- What a message does to the map is, but for the size, the same at every size. -/
theorem updateMap_resize (m : MapState κ ν) (viewport : Size κ) (message : Message κ ν) :
    (updateMap (m.resize viewport) message).resize .zero = (updateMap m message).resize .zero := by
  cases message with
  | fetched result => cases result <;> rfl
  | zoomIn => exact congrArg (·.resize .zero) (m.zoomTo_resize viewport _)
  | zoomOut => exact congrArg (·.resize .zero) (m.zoomTo_resize viewport _)
  | zoomReset => exact congrArg (·.resize .zero) (m.zoomTo_resize viewport _)
  | selectService id => exact congrArg (·.resize .zero) (m.select_resize viewport _)
  | clearSelection => exact congrArg (·.resize .zero) (m.select_resize viewport _)
  -- A click brings the size along, and takes the one in the view away before it is used.
  | canvasClicked position size => rfl
  | viewportResized size => rfl
  | toggleAutoRefresh => rfl
  | pollTick => rfl
  | refreshNow => rfl

/-- One message, at two sizes: what comes of it differs in the size at most. -/
theorem unsized_update_resized (s : Session κ ν) (viewport : Size κ) (now : Int64)
    (message : Message κ ν) :
    ((s.resized viewport).update now message).1.unsized = (s.update now message).1.unsized := by
  have hmap := updateMap_resize s.map viewport message
  -- The interval and the gate know nothing of the size.
  cases message with
  | fetched result =>
    cases result with
    | ok snapshot => exact congrArg (Session.mk s.interval · (s.gate.succeed now)) hmap
    | error error => exact congrArg (Session.mk s.interval · (s.gate.fail error)) hmap
  | pollTick => rfl
  | refreshNow => rfl
  | _ => exact congrArg (Session.mk s.interval · s.gate) hmap

/-- One message to two sessions that differ in the size at most. -/
theorem unsized_update {s t : Session κ ν} (h : s.unsized = t.unsized) (now : Int64)
    (message : Message κ ν) :
    (s.update now message).1.unsized = (t.update now message).1.unsized :=
  calc (s.update now message).1.unsized
    _ = (s.unsized.update now message).1.unsized := (unsized_update_resized s .zero now message).symm
    _ = (t.unsized.update now message).1.unsized := by rw [h]
    _ = (t.update now message).1.unsized := unsized_update_resized t .zero now message

/-- A report of the size does nothing else. -/
theorem unsized_update_of_isSizeReport {message : Message κ ν} (h : message.isSizeReport = true)
    (s : Session κ ν) (now : Int64) : (s.update now message).1.unsized = s.unsized := by
  cases message with
  | viewportResized size => rfl
  | _ => cases h

/-- **The size that was reported last does not matter.** Two sessions that differ in it at most
still do so after the same messages, even if one of them never gets the reports of the size. So a
canvas may report its size late, or more than once. -/
theorem unsized_handleAll (messages : List (Int64 × Message κ ν)) {s t : Session κ ν}
    (h : s.unsized = t.unsized) :
    (s.handleAll (messages.filter fun e => !e.2.isSizeReport)).unsized =
      (t.handleAll messages).unsized := by
  induction messages generalizing s t with
  | nil => exact h
  | cons e rest ih =>
    cases hreport : e.2.isSizeReport with
    | true =>
      -- One of the sessions does not hear of the report, and to the other it does nothing.
      rw [List.filter_cons_of_neg (by simp [hreport]), handleAll_cons]
      apply ih
      rw [h, unsized_update_of_isSizeReport hreport]
    | false =>
      rw [List.filter_cons_of_pos (by simp [hreport]), handleAll_cons, handleAll_cons]
      apply ih
      exact unsized_update h e.1 e.2

/-! ## What the user sees -/

/-- The two sessions show the same pointer, make the same selections and draw the same frames. These
are the things that could depend on the size in the view. -/
structure LooksLike [Scalar ν] [Narrowing ν κ] (s t : Session κ ν) : Prop where
  pointer : ∀ bounds cursor, s.map.showsPointerIn bounds cursor = t.map.showsPointerIn bounds cursor
  selection : ∀ now p size, (s.update now (.canvasClicked p size)).1.map.view.selected =
    (t.update now (.canvasClicked p size)).1.map.view.selected
  frames : ∀ size, s.map.freshFrame size = t.map.freshFrame size

variable [Scalar ν] [Narrowing ν κ]

/-- Nothing that the user sees depends on the size that was reported last. -/
theorem looksLike_unsized (s : Session κ ν) : s.unsized.LooksLike s where
  pointer bounds cursor := by
    unfold MapState.showsPointerIn MapState.isOverService
    cases bounds.inside? cursor with
    | none => rfl
    | some p => rfl
  selection now p size := by
    rw [map_update, map_update, updateMap, updateMap, view_click, view_click]
    rfl
  frames _ := rfl

theorem looksLike_of_unsized {s t : Session κ ν} (h : s.unsized = t.unsized) : s.LooksLike t where
  pointer bounds cursor := by
    rw [← (looksLike_unsized s).pointer, ← (looksLike_unsized t).pointer, h]
  selection now p size := by
    rw [← (looksLike_unsized s).selection, ← (looksLike_unsized t).selection, h]
  frames size := by
    rw [← (looksLike_unsized s).frames, ← (looksLike_unsized t).frames, h]

/-! ## Main statement -/

/-- **The pointing hand tells what a click does, and no old size is ever used.** Wherever the
canvas lies and wherever the cursor is, the hand shows exactly if a press of the left button is a
click that selects a service of the snapshot. With another size in the view a session shows the
same pointer, makes the same selections and draws the same frames, and after any messages this is
still so, whether the reports of the size have come or not.

A click brings the size of the canvas along, so what was reported before is replaced by it; drawing
and pointing are given the size. `unsized` forgets it, and whatever is equal after that looks
alike. -/
theorem pointer_predicts_click (s : Session κ ν) :
    (∀ bounds cursor, s.map.showsPointerIn bounds cursor = true ↔
      ∃ p size, s.map.publishIn? (.pressed .left) bounds cursor = some (.canvasClicked p size) ∧
        s.SelectsShown (.canvasClicked p size)) ∧
      (∀ size cursor, s.map.showsPointer size cursor = true ↔
        ∃ p clicked, s.map.publish? (.pressed .left) size cursor = some (.canvasClicked p clicked) ∧
          s.SelectsShown (.canvasClicked p clicked)) ∧
      ∀ viewport, (s.resized viewport).LooksLike s ∧
        ∀ messages : List (Int64 × Message κ ν),
          ((s.resized viewport).handleAll (messages.filter fun e => !e.2.isSizeReport)).LooksLike
            (s.handleAll messages) := by
  refine ⟨?_, ?_, ?_⟩
  · intro bounds cursor
    exact s.isOverService_iff bounds.size (bounds.inside? cursor)
  · intro size cursor
    exact s.isOverService_iff size (cursor.filter size.covers)
  · intro viewport
    -- The size in the view is forgotten: what is drawn and selected is computed from the rest.
    have hsame : (s.resized viewport).unsized = s.unsized := rfl
    refine ⟨looksLike_of_unsized hsame, ?_⟩
    intro messages
    apply looksLike_of_unsized
    exact unsized_handleAll messages hsame

end Session

end TrafficMap
