import TrafficMap.Poll.Status
import TrafficMap.Session.Map
import TrafficMap.Topology.Snapshot
import TrafficMap.View.Projection

/-!
# Sessions

A running session: the map and the poll gate, and what every message does to them. Fetches run
outside; a session only asks for one, and never for a second one before the result of the first has
come.
-/

namespace TrafficMap

/-! ## Messages

Everything that can happen to a running session: polls and their results, and what the user does.
-/

/-- Something that happened. -/
inductive Message (κ ν : Type) where
  /-- The poll interval has passed. -/
  | pollTick
  /-- The user wants a snapshot now. -/
  | refreshNow
  /-- A fetch has ended, with a snapshot or with the text of a problem. -/
  | fetched (result : Except String (Snapshot κ ν))
  | toggleAutoRefresh
  | zoomIn
  | zoomOut
  | zoomReset
  /-- The left button was pressed on a canvas of the given size. -/
  | canvasClicked (position : Point κ) (viewport : Size κ)
  /-- The canvas has another size. -/
  | viewportResized (size : Size κ)
  | selectService (id : String)
  | clearSelection

/-! ## State -/

/-- A running session. It does nothing of its own accord: every change is the answer to a
message. -/
structure Session (κ ν : Type) where
  /-- Time between two polls in milliseconds. -/
  interval : UInt64
  map : MapState κ ν
  gate : Gate

/-- What a session asks for. Whoever runs the session carries it out, and comes back with the result
as a message. -/
inductive Request where
  | nothing
  | fetch
deriving Repr, BEq, DecidableEq

namespace Session

variable {κ ν : Type} [Scalar κ]

/-! ## Beginning -/

/-- A session that has not asked for anything. -/
def initial (interval : UInt64) (autoRefresh : Bool) : Session κ ν :=
  ⟨interval, .initial autoRefresh, .initial⟩

/-- Asks for a fetch unless one is pending. -/
def askForFetch (s : Session κ ν) : Session κ ν × Request :=
  let (granted, gate) := s.gate.begin?
  ({ s with gate }, if granted then .fetch else .nothing)

/-- A session asks for its first snapshot at once. -/
def boot (interval : UInt64) (autoRefresh : Bool) : Session κ ν × Request :=
  (initial interval autoRefresh).askForFetch

/-! ## Messages -/

/-- What a message that asks for nothing does to the map. -/
def updateMap (m : MapState κ ν) : Message κ ν → MapState κ ν
  | .fetched (.ok s) => m.showSnapshot s
  | .toggleAutoRefresh => m.toggleAutoRefresh
  | .zoomIn => m.zoomTo m.view.zoom.zoomedIn
  | .zoomOut => m.zoomTo m.view.zoom.zoomedOut
  | .zoomReset => m.zoomTo .normal
  | .canvasClicked position viewport => m.click position viewport
  | .viewportResized size => m.resize size
  | .selectService id => m.select (some id)
  | .clearSelection => m.select none
  | .pollTick | .refreshNow | .fetched (.error _) => m

/-- What the end of a fetch at time `now` does to the gate. -/
def updateGate (g : Gate) (now : Int64) : Message κ ν → Gate
  | .fetched (.ok _) => g.succeed now
  | .fetched (.error error) => g.fail error
  | _ => g

/-- The session after a message that comes at time `now`, and what it asks for. -/
def update (s : Session κ ν) (now : Int64) (message : Message κ ν) : Session κ ν × Request :=
  match message with
  -- Only these two ask for anything; the gate decides whether they get it.
  | .pollTick | .refreshNow => s.askForFetch
  | message =>
    ({ s with map := updateMap s.map message, gate := updateGate s.gate now message }, .nothing)

/-! ## What shows -/

def title (s : Session κ ν) : String :=
  match s.map.snapshot with
  | some snapshot => s!"TrafficScope - {snapshot.services.length} services"
  | none => "TrafficScope"

/-- The interval at which poll ticks come; there are none while periodic polling is off. -/
def ticks? (s : Session κ ν) : Option UInt64 :=
  if s.map.view.autoRefresh then some s.interval else none

/-- The poll status in the header. -/
def status (s : Session κ ν) : PollStatus := s.gate.status s.map.view.autoRefresh

end Session

end TrafficMap
