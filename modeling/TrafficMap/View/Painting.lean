import TrafficMap.View.Frame

/-!
# Painting

A frame as the shapes that a canvas widget paints: filled and stroked paths, and the labels, which
all come after them. A disc with two colors is approximated by twelve concentric discs from the rim
inwards. A canvas less than one pixel wide or high paints nothing.
-/

namespace TrafficMap

/-- An outline on the canvas. -/
inductive Path (κ : Type) where
  /-- Given by its points in order. -/
  | points (points : List (Point κ))
  /-- A circle. -/
  | circle (center : Point κ) (radius : κ)
deriving Repr, BEq, DecidableEq

/-- A painted outline. -/
inductive Shape (κ : Type) where
  | fill (path : Path κ) (color : Color κ)
  | stroke (path : Path κ) (color : Color κ) (width : κ)
deriving Repr, BEq, DecidableEq

structure Painting (κ : Type) where
  shapes : List (Shape κ)
  labels : List (Label κ)
deriving Repr, BEq, DecidableEq

/-- Number of discs that stand for a disc with two colors. -/
def ringCount : Nat := 12

section
variable {κ : Type} [Scalar κ]

/-- Radius and color of the discs that stand for a disc with two colors, the rim first. -/
def shadingRings (radius : κ) (inner outer : Color κ) : List (κ × Color κ) :=
  (List.range ringCount).map fun step =>
    let share : κ := Scalar.ofCount step / Scalar.ofCount ringCount
    (radius * (1.0 - share),
      outer.mix inner (Scalar.ofCount step / Scalar.ofCount (ringCount - 1)))

end

namespace Mark

/-- The shapes of a mark on a canvas of the given size. -/
def shapes (size : Size Float32) : Mark Float32 → List (Shape Float32)
  | .clear color =>
    [.fill (.points [.origin, ⟨size.width, 0.0⟩, ⟨size.width, size.height⟩, ⟨0.0, size.height⟩])
      color]
  | .line start finish color width => [.stroke (.points [start, finish]) color width]
  | .curve c color width => [.stroke (.points [c.start, c.control, c.finish]) color width]
  | .arrow a color => [.fill (.points a.corners) color]
  | .circle center radius color width => [.stroke (.circle center radius) color width]
  | .disc center radius inner outer =>
    (shadingRings radius inner outer).map fun (r, color) => .fill (.circle center r) color
  | .label _ => []

def label? {κ : Type} : Mark κ → Option (Label κ)
  | .label l => some l
  | _ => none

end Mark

namespace Painting

def blank {κ : Type} : Painting κ := ⟨[], []⟩

/-- A canvas of this size is painted at all. -/
def isVisible (size : Size Float32) : Bool :=
  !(size.width < 1.0) && !(size.height < 1.0)

def ofMarks (size : Size Float32) (marks : List (Mark Float32)) : Painting Float32 :=
  ⟨marks.flatMap (·.shapes size), marks.filterMap (·.label?)⟩

end Painting

end TrafficMap
