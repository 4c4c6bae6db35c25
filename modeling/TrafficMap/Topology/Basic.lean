import TrafficMap.Number.Scalar
import TrafficMap.Text.Blank

/-!
# Parts of a Topology

What is said of a service besides its names, and of the traffic between two services: where the
service stands, how it fares, to which tier it belongs, and how one service reaches the other. Each
kind has a word for it, and is read from that word.
-/

namespace TrafficMap

/-! ## Positions

Services stand on a logical canvas of 800 by 600 units, whatever the size of the window.
-/

/-- A point of the logical canvas. That canvas has a fixed size, whatever the size of the window. -/
structure Position (κ : Type) where
  x : κ
  y : κ
deriving Repr, BEq, DecidableEq

def canvasWidth {κ : Type} [Scalar κ] : κ := 800.0

def canvasHeight {κ : Type} [Scalar κ] : κ := 600.0

namespace Position

/-- Center of the canvas, where services of unknown place stand. -/
def center {κ : Type} [Scalar κ] : Position κ :=
  ⟨canvasWidth / 2.0, canvasHeight / 2.0⟩

/-- The distance of two points is less than `r`. -/
def isWithin {κ : Type} [Scalar κ] (p q : Position κ) (r : κ) : Bool :=
  Scalar.shorter (p.x - q.x) (p.y - q.y) r

def distance (p q : Position Float32) : Float32 :=
  let dx := p.x - q.x
  let dy := p.y - q.y
  (dx * dx + dy * dy).sqrt

end Position

/-! ## Health -/

/-- Health of a service as its endpoint reports it. -/
inductive Health where
  | healthy
  | unhealthy
  | unknown
deriving Repr, BEq, DecidableEq, Inhabited

namespace Health

def text : Health → String
  | .healthy => "healthy"
  | .unhealthy => "unhealthy"
  | .unknown => "unknown"

/-- The health meant by a reported status: blanks at the ends and letter case do not count, and
every other word is `unknown`. -/
def ofText (status : String) : Health :=
  match Text.lowered (Text.trim status) with
  | "healthy" | "up" => .healthy
  | "unhealthy" | "down" => .unhealthy
  | _ => .unknown

theorem ofText_text (h : Health) : ofText h.text = h := by
  cases h <;> decide +kernel

end Health

/-! ## Layers

The architectural tiers of the platform. Five of them own a horizontal band of the map.
-/

/-- Architectural tier of a service. -/
inductive Layer where
  | infrastructure
  | platform
  | gateway
  | business
  | frontend
  | unknown
deriving Repr, BEq, DecidableEq, Inhabited

namespace Layer

/-- The layers with a band of their own, from top to bottom. -/
def banded : List Layer :=
  [.frontend, .gateway, .platform, .business, .infrastructure]

def text : Layer → String
  | .infrastructure => "infrastructure"
  | .platform => "platform"
  | .gateway => "gateway"
  | .business => "business"
  | .frontend => "frontend"
  | .unknown => "unknown"

def title : Layer → String
  | .infrastructure => "Infrastructure"
  | .platform => "Platform"
  | .gateway => "Gateway"
  | .business => "Business"
  | .frontend => "Frontend"
  | .unknown => "Unknown"

/-- The layer meant by a reported word: blanks at the ends and letter case do not count, and every
other word is `unknown`. -/
def ofText (word : String) : Layer :=
  match Text.lowered (Text.trim word) with
  | "infrastructure" => .infrastructure
  | "platform" => .platform
  | "gateway" => .gateway
  | "business" => .business
  | "frontend" => .frontend
  | _ => .unknown

theorem ofText_text (l : Layer) : ofText l.text = l := by
  cases l <;> decide +kernel

end Layer

/-! ## Kinds of traffic -/

/-- How one service reaches another. -/
inductive TrafficKind where
  | http
  | message
deriving Repr, BEq, DecidableEq, Inhabited

namespace TrafficKind

def text : TrafficKind → String
  | .http => "http"
  | .message => "message"

/-- The word `message`, whatever blanks surround it and whatever its letter case, is a message flow;
everything else is a request. -/
def ofText (word : String) : TrafficKind :=
  if Text.lowered (Text.trim word) = "message" then .message else .http

theorem ofText_text (k : TrafficKind) : ofText k.text = k := by
  cases k <;> decide +kernel

end TrafficKind

end TrafficMap
