import TrafficMap.Session.State

/-!
# Canvas Events

How the canvas answers the mouse and the keyboard. A left press on the canvas is a click, the wheel
and a few keys change the zoom level, and escape clears the selection. An event without such a
meaning makes the canvas report its size, if that differs from the last one.
-/

namespace TrafficMap

inductive Button where
  | left
  | right
  | middle
  | other
deriving Repr, BEq, DecidableEq

inductive Key where
  | character (text : String)
  | escape
  | other
deriving Repr, BEq, DecidableEq

/-- Something that the window reports. For most of them the canvas has no use. -/
inductive CanvasEvent (κ : Type) where
  | pressed (button : Button)
  | released (button : Button)
  | moved
  /-- The wheel was turned by lines; `y` is the upward part. -/
  | scrolledLines (y : κ)
  /-- The wheel was turned by pixels. -/
  | scrolledPixels (y : κ)
  | keyPressed (key : Key)
  | keyReleased (key : Key)
  | redraw

variable {κ ν : Type} [Scalar κ]

namespace CanvasEvent

/-- The zoom step that turning the wheel asks for. -/
def zoomStep? (y : κ) : Option (Message κ ν) :=
  if 0.0 < y then some .zoomIn else if y < 0.0 then some .zoomOut else none

def keyMeaning? : Key → Option (Message κ ν)
  | .character text =>
    if text = "+" ∨ text = "=" then some .zoomIn
    else if text = "-" then some .zoomOut
    else if text = "0" then some .zoomReset
    else none
  | .escape => some .clearSelection
  | .other => none

/-- The meaning of an event on a canvas of the given size, with the place of the cursor if it is on
the canvas. -/
def meaning? (event : CanvasEvent κ) (size : Size κ) (inside : Option (Point κ)) :
    Option (Message κ ν) :=
  match event with
  | .pressed .left => inside.map fun p => .canvasClicked p size
  | .scrolledLines y => inside.bind fun _ => zoomStep? y
  | .scrolledPixels y => inside.bind fun _ => zoomStep? (y / 50.0)
  | .keyPressed key => keyMeaning? key
  | _ => none

end CanvasEvent

namespace MapState

/-- The canvas reports its size when it differs from the last one. -/
def resizeReport? (m : MapState κ ν) (size : Size κ) : Option (Message κ ν) :=
  -- A width that is no number is never the last one, and is reported again.
  if size.width == m.view.viewport.width && size.height == m.view.viewport.height then none
  else some (.viewportResized size)

/-- What a canvas of the given size publishes for an event. This is one message at most, and what
the event means goes first. -/
def answer? (m : MapState κ ν) (event : CanvasEvent κ) (size : Size κ)
    (inside : Option (Point κ)) : Option (Message κ ν) :=
  (event.meaning? size inside).orElse fun _ => m.resizeReport? size

/-- The cursor is on the canvas, and over a service. -/
def isOverService (m : MapState κ ν) (size : Size κ) (inside : Option (Point κ)) : Bool :=
  match inside with
  | some p => (m.serviceUnder? p size).isSome
  | none => false

end MapState

/-! ## A canvas that fills its window -/

namespace MapState

/-- What the canvas publishes for an event. -/
def publish? (m : MapState κ ν) (event : CanvasEvent κ) (size : Size κ)
    (cursor : Option (Point κ)) : Option (Message κ ν) :=
  m.answer? event size (cursor.filter size.covers)

/-- The cursor is a pointing hand over a service. -/
def showsPointer (m : MapState κ ν) (size : Size κ) (cursor : Option (Point κ)) : Bool :=
  m.isOverService size (cursor.filter size.covers)

end MapState

/-! ## A canvas anywhere in its window -/

/-- Where a canvas lies in its window. -/
structure Bounds (κ : Type) where
  /-- The upper left corner of the canvas, as a point of the window. -/
  corner : Point κ
  size : Size κ
deriving Repr, BEq, DecidableEq

namespace Bounds

def covers (b : Bounds κ) (p : Point κ) : Bool :=
  b.corner.x ≤ p.x && p.x < b.corner.x + b.size.width && b.corner.y ≤ p.y &&
    p.y < b.corner.y + b.size.height

/-- The place of the cursor on the canvas, if it is there. -/
def inside? (b : Bounds κ) (cursor : Option (Point κ)) : Option (Point κ) :=
  (cursor.filter b.covers).map fun p => ⟨p.x - b.corner.x, p.y - b.corner.y⟩

end Bounds

namespace MapState

/-- What the canvas publishes for an event, the cursor being a point of the window. -/
def publishIn? (m : MapState κ ν) (event : CanvasEvent κ) (bounds : Bounds κ)
    (cursor : Option (Point κ)) : Option (Message κ ν) :=
  m.answer? event bounds.size (bounds.inside? cursor)

/-- The cursor, a point of the window, is a pointing hand over a service. -/
def showsPointerIn (m : MapState κ ν) (bounds : Bounds κ) (cursor : Option (Point κ)) : Bool :=
  m.isOverService bounds.size (bounds.inside? cursor)

end MapState

end TrafficMap
