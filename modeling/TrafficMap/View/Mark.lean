import TrafficMap.Topology.Basic
import TrafficMap.View.Palette
import TrafficMap.View.Projection

/-!
# Marks

What a frame is made of: a list of marks, painted one over the other. Lengths are in device pixels.
-/

namespace TrafficMap

/-! ## Curves

A link is drawn as a quadratic curve whose control point lies above the middle of its ends, with an
arrowhead part of the way along.
-/

section Curves

variable {κ : Type} [Scalar κ]

/-- How far the control point is lifted above the middle, in logical units. -/
def curveLift : κ := 20.0

/-- Curve parameter at which the arrowhead sits. -/
def arrowParameter : κ := 0.7

/-- Control point of the curve between two positions. -/
def controlPoint (source target : Position κ) : Position κ :=
  ⟨(source.x + target.x) / 2.0, (source.y + target.y) / 2.0 - curveLift⟩

/-- A quadratic curve in device pixels. -/
structure Curve (κ : Type) where
  start : Point κ
  control : Point κ
  finish : Point κ
deriving Repr, BEq, DecidableEq

namespace Curve

def point (c : Curve κ) (t : κ) : Point κ :=
  let u := 1.0 - t
  ⟨u * u * c.start.x + 2.0 * u * t * c.control.x + t * t * c.finish.x,
   u * u * c.start.y + 2.0 * u * t * c.control.y + t * t * c.finish.y⟩

/-- The derivative at parameter `t`. -/
def tangent (c : Curve κ) (t : κ) : Displacement κ :=
  let u := 1.0 - t
  ⟨2.0 * u * (c.control.x - c.start.x) + 2.0 * t * (c.finish.x - c.control.x),
   2.0 * u * (c.control.y - c.start.y) + 2.0 * t * (c.finish.y - c.control.y)⟩

end Curve

/-! ### Arrowheads -/

/-- A triangle with one corner at `tip` that points along `direction`. -/
structure Arrow (κ : Type) where
  tip : Point κ
  direction : Displacement κ
  size : κ
deriving Repr, BEq, DecidableEq

namespace Arrow

/-- Angle between the middle of the arrowhead and each of its sides: a twelfth of a full turn. -/
def halfAngle : Float32 := 0.5235987755982989

/-- The corner behind the tip in the direction of an angle. -/
def wing (arrow : Arrow Float32) (angle : Float32) : Point Float32 :=
  ⟨arrow.tip.x - arrow.size * angle.cos, arrow.tip.y - arrow.size * angle.sin⟩

/-- The three corners, the tip first. -/
def corners (arrow : Arrow Float32) : List (Point Float32) :=
  let angle := Float32.atan2 arrow.direction.y arrow.direction.x
  [arrow.tip, arrow.wing (angle - halfAngle), arrow.wing (angle + halfAngle)]

end Arrow

end Curves

/-! ## Painting operations -/

/-- Which horizontal part of a label is at its position. -/
inductive AlignX where
  | left
  | center
  | right
deriving Repr, BEq, DecidableEq

/-- Which vertical part of a label is at its position. -/
inductive AlignY where
  | top
  | center
  | bottom
deriving Repr, BEq, DecidableEq

/-- A piece of text on the canvas. -/
structure Label (κ : Type) where
  content : String
  position : Point κ
  color : Color κ
  size : κ
  alignX : AlignX
  alignY : AlignY
deriving Repr, BEq, DecidableEq

namespace Label

variable {κ : Type}

def centered (content : String) (position : Point κ) (color : Color κ) (size : κ) : Label κ :=
  ⟨content, position, color, size, .center, .center⟩

def topLeft (content : String) (position : Point κ) (color : Color κ) (size : κ) : Label κ :=
  ⟨content, position, color, size, .left, .top⟩

end Label

/-- One painting operation. A frame is a list of them, and later ones cover earlier ones. -/
inductive Mark (κ : Type) where
  /-- Paints everything with one color. -/
  | clear (color : Color κ)
  /-- A straight stroke. -/
  | line (start finish : Point κ) (color : Color κ) (width : κ)
  /-- A curved stroke. -/
  | curve (curve : Curve κ) (color : Color κ) (width : κ)
  /-- A filled triangle. -/
  | arrow (arrow : Arrow κ) (color : Color κ)
  /-- A stroked circle. -/
  | circle (center : Point κ) (radius : κ) (color : Color κ) (width : κ)
  /-- A filled circle whose color goes from `inner` at the center to `outer` at the rim. -/
  | disc (center : Point κ) (radius : κ) (inner outer : Color κ)
  /-- A piece of text. -/
  | label (label : Label κ)
deriving Repr, BEq, DecidableEq

end TrafficMap
