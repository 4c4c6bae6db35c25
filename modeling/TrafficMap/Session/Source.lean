import TrafficMap.Endpoint.Fetch
import TrafficMap.Simulation.Simulator

/-!
# Sources

Where a session gets its snapshots: from an endpoint, or from a simulation. Both give reports, and
both are normalized with the same registry rules.
-/

namespace TrafficMap

/-- Where snapshots come from. -/
inductive Source (σ : Type) where
  | endpoint (url : String) (registry : Registry Float32)
  | simulation (simulator : Simulator σ Float) (registry : Registry Float32)

namespace Source

variable {σ : Type}

/-- The simulation that a seed begins. -/
def ofSeed (seed : UInt64) (registry : Registry Float32) : Source Generator :=
  .simulation (.start Generator.chance (.ofSeed seed)) registry

def description : Source σ → String
  | .endpoint url _ => url
  | .simulation .. => Simulator.origin

/-- What the log shows of a source. -/
def summary : Source σ → String
  | .endpoint url registry => s!"Remote \x7b url: {Text.quoted url}, services: {registry.size} \x7d"
  | .simulation _ registry => s!"Demo \x7b services: {registry.size} \x7d"

/-- The result of one fetch at time `now`, with the problem as a text, and the source afterwards. An
endpoint is represented by its reply. -/
def fetch (chance : Chance σ Float) (source : Source σ) (reply : Reply) (now : Int64) :
    Except String (Snapshot Float32 Float) × Source σ :=
  match source with
  | .endpoint url registry =>
    ((reply.snapshot url registry now).mapError (·.message), source)
  | .simulation simulator registry =>
    let (report, simulator) := simulator.advance chance now
    (.ok (report.normalize registry now), .simulation simulator registry)

end Source

end TrafficMap
