import TrafficMap.View.Frame

/-!
# The Map

The state of the map on screen: the snapshot that is shown, the user's view of it, and the frame
that was drawn last. That frame is kept until something it depends on changes, and it serves only
canvases of the size it was drawn for.
-/

namespace TrafficMap

/-- The user's view. -/
structure MapView (κ : Type) where
  zoom : Zoom
  /-- Id of the selected service. -/
  selected : Option String
  /-- Periodic polling is on. -/
  autoRefresh : Bool
  /-- The last size of the canvas that was reported. -/
  viewport : Size κ

/-- A frame, and the canvas size it was drawn for. It may be shown again as long as nothing in it
has changed. -/
structure Drawing (κ : Type) where
  size : Size κ
  marks : List (Mark κ)

/-- The state of the map. The snapshot that is shown, how the user looks at it, and the frame that
was drawn last. -/
structure MapState (κ ν : Type) where
  snapshot : Option (Snapshot κ ν)
  view : MapView κ
  /-- The frame drawn last, unless it is out of date. -/
  drawing : Option (Drawing κ)

namespace MapState

variable {κ ν : Type} [Scalar κ]

/-- Nothing is shown yet. -/
def initial (autoRefresh : Bool) : MapState κ ν :=
  ⟨none, ⟨.normal, none, autoRefresh, .zero⟩, none⟩

/-! ## Changes -/

/-- Another snapshot. A selection of a service that it does not have is given up. -/
def showSnapshot (m : MapState κ ν) (s : Snapshot κ ν) : MapState κ ν where
  snapshot := some s
  view := { m.view with selected := m.view.selected.filter s.contains }
  drawing := none

/-- Another zoom level. -/
def zoomTo (m : MapState κ ν) (zoom : Zoom) : MapState κ ν :=
  if zoom = m.view.zoom then m
  else { m with view := { m.view with zoom }, drawing := none }

def select (m : MapState κ ν) (selected : Option String) : MapState κ ν :=
  if selected = m.view.selected then m
  else { m with view := { m.view with selected }, drawing := none }

/-- Another canvas size. -/
def resize (m : MapState κ ν) (viewport : Size κ) : MapState κ ν :=
  { m with view := { m.view with viewport } }

/-- Periodic polling on or off. -/
def toggleAutoRefresh (m : MapState κ ν) : MapState κ ν :=
  { m with view := { m.view with autoRefresh := !m.view.autoRefresh } }

/-! ## Looking at the map -/

/-- The mapping for the zoom level and the last canvas size. -/
def projection (m : MapState κ ν) : Projection κ := .of m.view.zoom m.view.viewport

/-- The service under a point of a canvas of the given size. -/
def serviceUnder? (m : MapState κ ν) (p : Point κ) (size : Size κ) : Option (Service κ) :=
  m.snapshot.bind (·.serviceAt? ((Projection.of m.view.zoom size).toCanvas p))

/-- The selected service, if the snapshot has it. -/
def selectedService? (m : MapState κ ν) : Option (Service κ) :=
  m.view.selected.bind fun id => m.snapshot.bind (·.service? id)

/-- A click selects the service under it, or nothing. The size of the canvas comes with it and is
taken over first, so the mapping is that of the view. -/
def click (m : MapState κ ν) (p : Point κ) (size : Size κ) : MapState κ ν :=
  let resized := m.resize size
  let hit := resized.snapshot.bind (·.serviceAt? (resized.projection.toCanvas p))
  resized.select (hit.map (·.id))

/-! ## Drawing -/

variable [Scalar ν] [Narrowing ν κ]

/-- The frame of the present state on a canvas of the given size. -/
def freshFrame (m : MapState κ ν) (size : Size κ) : List (Mark κ) :=
  frame m.snapshot m.view.zoom m.view.selected size

/-- The frame for a canvas of the given size: the one drawn last if it still holds, or else a fresh
one, which is kept. -/
def draw (m : MapState κ ν) (size : Size κ) : List (Mark κ) × MapState κ ν :=
  let fresh := m.freshFrame size
  let redrawn := (fresh, { m with drawing := some ⟨size, fresh⟩ })
  match m.drawing with
  | some d => if d.size == size then (d.marks, m) else redrawn
  | none => redrawn

end MapState

end TrafficMap
