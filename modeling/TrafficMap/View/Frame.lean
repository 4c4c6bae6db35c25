import TrafficMap.Text.Blank
import TrafficMap.Topology.Snapshot
import TrafficMap.View.Mark
import TrafficMap.View.Palette
import TrafficMap.View.Projection
import TrafficMap.View.Rate

/-!
# Frames

The picture of a snapshot as a list of marks, from back to front: background, layer bands, links,
services, zoom level. A frame depends on the snapshot, the zoom level, the selected id and the size
of the canvas, and on nothing else. A canvas without extent has an empty frame.

A service is hit by a point of the logical canvas that lies closer to its position than the radius
of its disc. Of several discs the first in snapshot order counts.
-/

namespace TrafficMap

/-! ## Hit testing -/

/-- Radius of a service's disc, in logical units. -/
def discRadius {κ : Type} [Scalar κ] : κ := 25.0

/-- The first service whose disc holds the point. Later services are drawn on top of earlier ones,
but hit after them. -/
def Snapshot.serviceAt? {κ ν : Type} [Scalar κ] (s : Snapshot κ ν) (p : Position κ) :
    Option (Service κ) :=
  s.services.find? fun service => service.position.isWithin p discRadius

variable {κ ν : Type} [Scalar κ] [Scalar ν] [Narrowing ν κ]

/-! ## Measures in logical units -/

def bandTop : κ := 20.0

def bandHeight : κ := 100.0

/-- Distance of two lines of a name. -/
def lineHeight : κ := 11.0

/-- Longest word of a name on the map, in characters. -/
def wordLength : Nat := 6

/-- Links above this volume get a rate label. -/
def labelledVolume : ν := 50.0

def ringWidth : Health → κ
  | .healthy => 3.0
  | .unhealthy => 5.0
  | .unknown => 2.0

/-! ## Bands -/

/-- Separator line and title of the band with number `i`. -/
def bandMarks (p : Projection κ) (i : Nat) (layer : Layer) : List (Mark κ) :=
  let top : κ := bandTop + Scalar.ofCount i * bandHeight
  [.line (p.toScreen ⟨0.0, top⟩) (p.toScreen ⟨canvasWidth, top⟩) Palette.bandLine (p.scale 1.0),
   .label (.topLeft layer.title (p.toScreen ⟨8.0, top + 6.0⟩) ((Palette.layer layer).withAlpha 0.8)
     (p.scale 11.0))]

def allBandMarks (p : Projection κ) : List (Mark κ) :=
  Layer.banded.zipIdx.flatMap fun (layer, i) => bandMarks p i layer

/-! ## Links -/

def projectedCurve (p : Projection κ) (source target : Position κ) : Curve κ :=
  ⟨p.toScreen source, p.toScreen (controlPoint source target), p.toScreen target⟩

/-- Curve, arrowhead and, above the threshold, rate label of a link between two services. -/
def linkMarksBetween (p : Projection κ) (e : Link ν) (source target : Service κ) : List (Mark κ) :=
  let style : LinkStyle κ := .ofVolume e.volume
  let color := (Palette.link e.kind).withAlpha style.alpha
  let curve := projectedCurve p source.position target.position
  let arrow : Arrow κ :=
    ⟨curve.point arrowParameter, curve.tangent arrowParameter, p.scale style.arrowSize⟩
  let middle := curve.point 0.5
  -- The rate label is opaque, whatever the alpha of the curve.
  [.curve curve color (p.scale style.width), .arrow arrow color] ++
    if labelledVolume < e.volume then
      [.label (.centered (rateText e.volume) ⟨middle.x, middle.y - p.scale 8.0⟩
        (Palette.link e.kind) (p.scale 9.0))]
    else []

/-- A link is drawn when both its ends are services of the snapshot. -/
def linkMarks (p : Projection κ) (s : Snapshot κ ν) (e : Link ν) : List (Mark κ) :=
  match s.service? e.source, s.service? e.target with
  | some source, some target => linkMarksBetween p e source target
  | _, _ => []

/-! ## Services -/

/-- The lines of a name on the map: its words, each cut to its first characters. -/
def shortenedWords (name : String) : List String :=
  (Text.words name).map fun word => String.ofList (word.toList.take wordLength)

/-- Vertical distance of the line with number `i` of `n` from the center of the disc. -/
def lineOffset (n i : Nat) : κ :=
  -(Scalar.ofCount (n - 1)) * lineHeight / 2.0 + Scalar.ofCount i * lineHeight

/-- The lines of a name, stacked around the center of the disc. -/
def nameMarks (p : Projection κ) (center : Point κ) (name : String) : List (Mark κ) :=
  let lines := shortenedWords name
  lines.zipIdx.map fun (line, i) =>
    .label (.centered line ⟨center.x, center.y + p.scale (lineOffset lines.length i)⟩ Palette.text
      (p.scale 9.0))

/-- The ring of the selected service. -/
def selectionMarks (p : Projection κ) (center : Point κ) (radius : κ) (selected : Bool) :
    List (Mark κ) :=
  if selected then [.circle center (radius + p.scale 9.0) Palette.selection (p.scale 2.0)] else []

/-- Rings, disc and name of a service. -/
def serviceMarks (p : Projection κ) (service : Service κ) (selected : Bool) : List (Mark κ) :=
  let center := p.toScreen service.position
  let radius := p.scale discRadius
  let ring : κ := ringWidth service.health
  selectionMarks p center radius selected ++
    -- The ring for the health lies just outside the disc.
    [.circle center (radius + p.scale (ring / 2.0 + 2.0)) (Palette.health service.health)
       (p.scale ring),
     .disc center radius (Palette.layer service.layer) Palette.background,
     .circle center radius (Palette.layer service.layer) (p.scale 2.0)] ++
    nameMarks p center service.name

/-! ## The whole picture -/

/-- Links and services of a snapshot. -/
def snapshotMarks (p : Projection κ) (s : Snapshot κ ν) (selected : Option String) :
    List (Mark κ) :=
  s.links.flatMap (linkMarks p s) ++
    s.services.flatMap fun service => serviceMarks p service (selected == some service.id)

/-- The note shown as long as there is no snapshot. -/
def waitingMark (size : Size κ) : Mark κ :=
  .label (.centered "Waiting for topology snapshot..." ⟨size.width / 2.0, size.height / 2.0⟩
    Palette.mutedText 16.0)

/-- The zoom level in the lower left corner. -/
def zoomMark (p : Projection κ) : Mark κ :=
  .label (.topLeft ("Zoom: " ++ (Scalar.rounded 0 (p.zoom * 100.0)).text ++ "%")
    ⟨10.0, p.viewport.height - 20.0⟩ Palette.mutedText 12.0)

/-- The picture on a canvas of the given size. Nothing else has an influence on it, so it can be
kept as long as these four stay the same. -/
def frame (snapshot : Option (Snapshot κ ν)) (zoom : Zoom) (selected : Option String)
    (size : Size κ) : List (Mark κ) :=
  let p := Projection.of zoom size
  if !p.hasExtent then []
  else
    [.clear Palette.background] ++ allBandMarks p ++
      (match snapshot with
       | some s => snapshotMarks p s selected
       | none => [waitingMark size]) ++
      [zoomMark p]

end TrafficMap
