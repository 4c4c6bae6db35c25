import TrafficMap.Number.Scalar
import TrafficMap.Topology.Basic

/-!
# Palette

The colors of the map, and how heavy a link is drawn. Kinds of traffic, layers and health keep their
colors everywhere, so that they are recognized at a glance. The busier a link, the more opaque and
the wider it is, up to a volume of 200.
-/

namespace TrafficMap

/-! ## Colors -/

/-- Red, green, blue and opacity, each from 0 to 1. -/
structure Color (κ : Type) where
  r : κ
  g : κ
  b : κ
  a : κ
deriving Repr, BEq, DecidableEq

namespace Color

variable {κ : Type} [Scalar κ]

def rgb (r g b : κ) : Color κ := ⟨r, g, b, 1.0⟩

/-- The same color with an opacity between 0 and 1. -/
def withAlpha (c : Color κ) (alpha : κ) : Color κ :=
  { c with a := Scalar.clamp alpha 0.0 1.0 }

/-- The color on the way from one to another: `first` at 0 and `last` at 1. -/
def mix (first last : Color κ) (t : κ) : Color κ :=
  let t := Scalar.clamp t 0.0 1.0
  { r := first.r + (last.r - first.r) * t
    g := first.g + (last.g - first.g) * t
    b := first.b + (last.b - first.b) * t
    a := first.a + (last.a - first.a) * t }

end Color

/-! ## The colors of the map -/

namespace Palette

variable {κ : Type} [Scalar κ]

/-- Behind everything. -/
def background : Color κ := .rgb 0.08 0.08 0.1

/-- Names of services. -/
def text : Color κ := .rgb 1.0 1.0 1.0

/-- Notes in passing. -/
def mutedText : Color κ := .rgb 0.5 0.5 0.55

def bandLine : Color κ := .rgb 0.22 0.22 0.27

/-- Ring of the selected service. -/
def selection : Color κ := .rgb 1.0 0.8 0.2

def layer : Layer → Color κ
  | .frontend => .rgb 0.35 0.65 0.95
  | .gateway => .rgb 0.6 0.45 0.9
  | .platform => .rgb 0.3 0.75 0.7
  | .business => .rgb 0.95 0.6 0.3
  | .infrastructure => .rgb 0.55 0.6 0.65
  | .unknown => .rgb 0.5 0.5 0.5

/-- Stroke of a link, before its intensity is applied. -/
def link : TrafficKind → Color κ
  | .http => .rgb 0.3 0.6 1.0
  | .message => .rgb 1.0 0.55 0.15

def health : Health → Color κ
  | .healthy => .rgb 0.2 0.8 0.3
  | .unhealthy => .rgb 0.9 0.2 0.2
  | .unknown => .rgb 0.5 0.5 0.5

end Palette

/-! ## Weight of a link -/

/-- Opacity, width and arrow size of a link, lengths in logical units. -/
structure LinkStyle (κ : Type) where
  alpha : κ
  width : κ
  arrowSize : κ
deriving Repr, BEq, DecidableEq

variable {κ ν : Type} [Scalar κ] [Scalar ν] [Narrowing ν κ]

/-- The volume at which a link has full intensity. -/
def saturation : ν := 200.0

/-- Intensity from 0 to 1: the share of the saturation volume; 0 for what is no positive number. -/
def intensity (volume : ν) : κ :=
  if !Scalar.isFinite volume || volume ≤ 0.0 then 0.0
  else
    let share := volume / saturation
    Narrowing.narrow (if share < 1.0 then share else 1.0)

def LinkStyle.ofVolume (volume : ν) : LinkStyle κ :=
  let i : κ := intensity volume
  { alpha := i, width := 1.0 + 3.0 * i, arrowSize := 6.0 + 6.0 * i }

end TrafficMap
