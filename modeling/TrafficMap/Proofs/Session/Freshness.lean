import TrafficMap.Proofs.Number.Packing
import TrafficMap.Proofs.Session.Update
import TrafficMap.Proofs.View.Picture

/-!
# Sessions: The Kept Frame

The map keeps the frame drawn last and shows it again as long as it holds. A frame holds as long as
the snapshot, the zoom level, the selection and the size of the canvas stay what they were, so a
change of any of the first three drops it, and the size is compared when it is used. Nothing else
that a session knows has a say in a frame.
-/

namespace TrafficMap

/-! ## Sizes -/

variable {κ ν : Type} [Scalar κ] [Scalar ν]

/-- Sizes that compare as equal have the same frame. They may differ in the sign of a zero, but then
there is nothing to draw on. -/
theorem frame_of_beq [Narrowing ν Float32] (snapshot : Option (Snapshot Float32 ν)) (zoom : Zoom)
    (selected : Option String) {a b : Size Float32} (h : (a == b) = true) :
    frame snapshot zoom selected a = frame snapshot zoom selected b := by
  obtain ⟨hwidth, hheight⟩ : (a.width == b.width) = true ∧ (a.height == b.height) = true :=
    Bool.and_eq_true_iff.mp h
  -- Either both extents are the same, or one of them is a zero on both sides.
  rcases eq_or_not_pos_of_beq hwidth with hw | ⟨ha, hb⟩
  · rcases eq_or_not_pos_of_beq hheight with hh | ⟨ha, hb⟩
    · have hab : a = b := by
        cases a
        cases b
        simp_all
      rw [hab]
    · rw [frame_of_no_extent _ _ _ fun hextent => ha hextent.2,
        frame_of_no_extent _ _ _ fun hextent => hb hextent.2]
  · rw [frame_of_no_extent _ _ _ fun hextent => ha hextent.1,
      frame_of_no_extent _ _ _ fun hextent => hb hextent.1]

/-! ## The kept frame after a change -/

namespace MapState

section Changes

variable [Narrowing ν κ] {m : MapState κ ν}

/-- The kept frame, if there is one, is what would be drawn now. Every message that changes the
picture has to drop the frame that is kept; this is what can go wrong with a cache. -/
def IsFresh (m : MapState κ ν) : Prop :=
  ∀ d ∈ m.drawing, d.marks = m.freshFrame d.size

theorem isFresh_of_dropped (h : m.drawing = none) : m.IsFresh := by
  simp [IsFresh, h]

theorem IsFresh.zoomTo (h : m.IsFresh) (zoom : Zoom) : (m.zoomTo zoom).IsFresh := by
  unfold MapState.zoomTo
  split
  · exact h
  · exact isFresh_of_dropped rfl

theorem IsFresh.select (h : m.IsFresh) (selected : Option String) :
    (m.select selected).IsFresh := by
  unfold MapState.select
  split
  · exact h
  · exact isFresh_of_dropped rfl

/-- The reported size of the canvas is not what a frame is drawn for. -/
theorem IsFresh.resize (h : m.IsFresh) (viewport : Size κ) : (m.resize viewport).IsFresh := h

theorem IsFresh.toggleAutoRefresh (h : m.IsFresh) : m.toggleAutoRefresh.IsFresh := h

theorem IsFresh.click (h : m.IsFresh) (p : Point κ) (size : Size κ) : (m.click p size).IsFresh :=
  (h.resize size).select _

/-- A frame that is drawn is kept for its own size. -/
theorem IsFresh.draw (h : m.IsFresh) (size : Size κ) : (m.draw size).2.IsFresh := by
  have hredrawn : IsFresh { m with drawing := some ⟨size, m.freshFrame size⟩ } := by
    rintro d ⟨⟩
    rfl
  unfold MapState.draw
  split
  · split
    · exact h
    · exact hredrawn
  · exact hredrawn

end Changes

/-- What is shown, kept or drawn anew, is what would be drawn now. -/
theorem IsFresh.draw_fst [Narrowing ν Float32] {m : MapState Float32 ν} (h : m.IsFresh)
    (size : Size Float32) : (m.draw size).1 = m.freshFrame size := by
  -- Only a drawing of the same size is shown again, and that one is fresh by the invariant.
  cases hkept : m.drawing with
  | none => simp only [MapState.draw, hkept]
  | some d =>
    cases hsize : d.size == size with
    | false => simp [MapState.draw, hkept, hsize]
    | true =>
      calc (m.draw size).1
        _ = d.marks := by simp [MapState.draw, hkept, hsize]
        _ = m.freshFrame d.size := h d hkept
        _ = m.freshFrame size := frame_of_beq _ _ _ hsize

end MapState

/-! ## Runs -/

/-- What happens to a session on a screen. -/
inductive ScreenEvent (κ ν : Type) where
  /-- The session handles a message. -/
  | message (now : Int64) (message : Message κ ν)
  /-- The canvas is drawn, at whatever size it has at the moment. -/
  | draw (size : Size κ)

namespace Session

section Steps

variable [Narrowing ν κ]

/-- The session after an event on its screen. -/
def next (s : Session κ ν) : ScreenEvent κ ν → Session κ ν
  | .message now message => (s.update now message).1
  | .draw size => { s with map := (s.map.draw size).2 }

theorem isFresh_updateMap {m : MapState κ ν} (h : m.IsFresh) (message : Message κ ν) :
    (updateMap m message).IsFresh := by
  cases message with
  | fetched result =>
    cases result with
    | ok s => exact MapState.isFresh_of_dropped rfl
    | error _ => exact h
  | toggleAutoRefresh => exact h.toggleAutoRefresh
  | zoomIn => exact h.zoomTo _
  | zoomOut => exact h.zoomTo _
  | zoomReset => exact h.zoomTo _
  | canvasClicked position viewport => exact h.click position viewport
  | viewportResized size => exact h.resize size
  | selectService id => exact h.select _
  | clearSelection => exact h.select none
  | pollTick => exact h
  | refreshNow => exact h

theorem isFresh_update {s : Session κ ν} (h : s.map.IsFresh) (now : Int64)
    (message : Message κ ν) : (s.update now message).1.map.IsFresh := by
  rw [map_update]
  exact isFresh_updateMap h message

theorem isFresh_next {s : Session κ ν} (h : s.map.IsFresh) (event : ScreenEvent κ ν) :
    (s.next event).map.IsFresh := by
  cases event with
  | message now message => exact isFresh_update h now message
  | draw size => exact h.draw size

/-- An up-to-date map stays so through any run. -/
theorem isFresh_run {s : Session κ ν} (h : s.map.IsFresh) (events : List (ScreenEvent κ ν)) :
    (events.foldl next s).map.IsFresh := by
  induction events generalizing s with
  | nil => exact h
  | cons event events ih => exact ih (isFresh_next h event)

end Steps

/-! ## Main statement -/

/-- **The map is never stale.** Whatever messages a session has handled and whatever canvases it was
drawn on in between, the next drawing shows the current snapshot at the current zoom level with the
current selection, as if nothing had ever been kept. The proof is the invariant `IsFresh`, which
messages keep by dropping the frame and drawings by keeping the one they made. -/
theorem draw_eq_frame_of_run [Narrowing ν Float32] (interval : UInt64) (autoRefresh : Bool)
    (events : List (ScreenEvent Float32 ν)) (size : Size Float32) :
    let m := (events.foldl next (Session.boot interval autoRefresh).1).map
    (m.draw size).1 = frame m.snapshot m.view.zoom m.view.selected size := by
  intro m
  have hboot : (Session.boot interval autoRefresh : Session Float32 ν × Request).1.map.IsFresh :=
    MapState.isFresh_of_dropped rfl
  exact (isFresh_run hboot events).draw_fst size

end Session

end TrafficMap
