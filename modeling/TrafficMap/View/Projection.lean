import TrafficMap.Number.Scalar
import TrafficMap.Topology.Basic

/-!
# Projection

The mapping between the logical canvas and the screen: scaled by the zoom factor, centered
horizontally, and 20 pixels from the top. Drawing and hit testing both go through it.
-/

namespace TrafficMap

/-! ## The device plane

Points, vectors and sizes in device pixels. The origin is the upper left corner of the canvas.
-/

structure Point (κ : Type) where
  x : κ
  y : κ
deriving Repr, BEq, DecidableEq

structure Displacement (κ : Type) where
  x : κ
  y : κ
deriving Repr, BEq, DecidableEq

/-- Width and height in device pixels. -/
structure Size (κ : Type) where
  width : κ
  height : κ
deriving Repr, BEq, DecidableEq

section Plane

variable {κ : Type} [Scalar κ]

/-- The upper left corner. -/
def Point.origin : Point κ := ⟨0.0, 0.0⟩

/-- No extent at all. -/
def Size.zero : Size κ := ⟨0.0, 0.0⟩

/-- The point lies in the canvas: the left and upper edges belong to it, the other two do not. -/
def Size.covers (s : Size κ) (p : Point κ) : Bool :=
  0.0 ≤ p.x && 0.0 ≤ p.y && p.x < s.width && p.y < s.height

end Plane

/-! ## Zoom

The zoom level counts tenths, so that steps in and out never drift. It stays between one half and
two.
-/

/-- A zoom level in tenths, from 5 to 20. -/
structure Zoom where
  tenths : Nat
  low : 5 ≤ tenths
  high : tenths ≤ 20
deriving DecidableEq

namespace Zoom

/-- The level nearest to a number of tenths. -/
def ofTenths (n : Nat) : Zoom :=
  ⟨max 5 (min n 20), by omega, by omega⟩

def normal : Zoom := ⟨10, by decide, by decide⟩

instance : Inhabited Zoom := ⟨normal⟩

def zoomedIn (z : Zoom) : Zoom := ofTenths (z.tenths + 1)

def zoomedOut (z : Zoom) : Zoom := ofTenths (z.tenths - 1)

/-- The factor by which lengths grow. -/
def factor {κ : Type} [Scalar κ] (z : Zoom) : κ :=
  Scalar.ofCount z.tenths / 10.0

def percent (z : Zoom) : Nat := z.tenths * 10

end Zoom

/-! ## The mapping -/

/-- Distance of the logical canvas from the top of the screen. -/
def topMargin {κ : Type} [Scalar κ] : κ := 20.0

/-- The mapping for a zoom factor and a viewport. -/
structure Projection (κ : Type) where
  zoom : κ
  viewport : Size κ
deriving Repr, BEq, DecidableEq

namespace Projection

variable {κ : Type} [Scalar κ]

/-- The mapping for a zoom level and a viewport. -/
def of (zoom : Zoom) (viewport : Size κ) : Projection κ := ⟨zoom.factor, viewport⟩

/-- There is something to draw on. -/
def hasExtent (p : Projection κ) : Bool :=
  0.0 < p.viewport.width && 0.0 < p.viewport.height

/-- Left edge of the logical canvas on the screen. -/
def leftMargin (p : Projection κ) : κ :=
  (p.viewport.width - canvasWidth * p.zoom) / 2.0

/-- From the logical canvas to the screen. -/
def toScreen (p : Projection κ) (q : Position κ) : Point κ :=
  ⟨p.leftMargin + q.x * p.zoom, topMargin + q.y * p.zoom⟩

/-- From the screen to the logical canvas. It undoes the way to the screen, apart from rounding. -/
def toCanvas (p : Projection κ) (q : Point κ) : Position κ :=
  ⟨(q.x - p.leftMargin) / p.zoom, (q.y - topMargin) / p.zoom⟩

/-- A logical length in pixels. -/
def scale (p : Projection κ) (length : κ) : κ :=
  length * p.zoom

end Projection

end TrafficMap
