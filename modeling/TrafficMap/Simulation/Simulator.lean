import TrafficMap.Number.Scalar
import TrafficMap.Report.Basic
import TrafficMap.Simulation.Random
import TrafficMap.Topology.Basic
import TrafficMap.Topology.Snapshot

/-!
# Simulator

A platform at work, tick by tick. The rate of every route swings around its average; now and then a
service goes down for three to nine ticks, never two at a time, and its callers back off meanwhile.
Every tick ends with a report in the form in which an endpoint sends it.

Ticks are counted without a bound. A counter of 64 bits would begin anew at `2 ^ 64`, which no
simulation reaches: there is a tick for each poll, and polls are a tenth of a second apart.
-/

namespace TrafficMap

/-! ## Traffic

The platform that a simulation plays: who calls whom, and at what rate on average.
-/

/-- Regular traffic from one service to another. -/
structure Route where
  source : String
  target : String
  /-- The rate around which the traffic swings. -/
  rate : Nat
  kind : TrafficKind
deriving Repr, BEq, DecidableEq

namespace Simulation

def routes : List Route :=
  [⟨"web-app", "api-gateway", 180, .http⟩,
   ⟨"admin-console", "auth-gateway", 25, .http⟩,
   ⟨"web-app", "auth-gateway", 60, .http⟩,
   ⟨"api-gateway", "conversation-service", 110, .http⟩,
   ⟨"api-gateway", "kpi-service", 70, .http⟩,
   ⟨"api-gateway", "entity-resolution", 45, .http⟩,
   ⟨"auth-gateway", "config-service", 30, .http⟩,
   ⟨"conversation-service", "kafka", 140, .message⟩,
   ⟨"kafka", "notification-service", 90, .message⟩,
   ⟨"kafka", "observability-service", 60, .message⟩,
   ⟨"entity-resolution", "elasticsearch", 55, .http⟩,
   ⟨"kpi-service", "postgres", 80, .http⟩,
   ⟨"kpi-service", "redis", 150, .http⟩,
   ⟨"conversation-service", "postgres", 65, .http⟩,
   ⟨"scheduler", "kafka", 20, .message⟩,
   ⟨"scheduler", "scheduler", 10, .message⟩,
   ⟨"observability-service", "elasticsearch", 35, .http⟩,
   ⟨"notification-service", "redis", 15, .http⟩]

/-- Ids of the services on the routes, source before target, each once. -/
def services : List String :=
  distinctOn id (routes.flatMap fun r => [r.source, r.target])

theorem length_services : services.length = 15 := by decide +kernel

end Simulation

/-! ## Chance

What a simulation leaves to chance, whatever the draws come from: the phases of the routes, the
noise on their rates, and when an outage begins, where and for how long. The ranges of the whole
numbers are in the types.
-/

/-- A source of draws, with a state of type `σ`, and the wave in which rates swing. The program
draws from a generator, while statements are about draws of any kind. -/
structure Chance (σ ν : Type) where
  /-- Where in its swing a route begins. -/
  phase : σ → ν × σ
  /-- Relative deviation of a rate. -/
  noise : σ → ν × σ
  /-- One draw in twenty, the zero, begins an outage. -/
  strike : σ → Fin 20 × σ
  /-- Which service goes down. -/
  victim : σ → Fin Simulation.services.length × σ
  /-- How many ticks an outage lasts beyond the three that every one lasts. -/
  extension : σ → Fin 7 × σ
  /-- The swing at a point of its period. -/
  wave : ν → ν

/-- Twice the half circle. -/
def fullCircle : Float := 2.0 * 3.141592653589793

/-- Draws from a generator: phases around the circle, and up to a tenth of noise. -/
def Generator.chance : Chance Generator Float where
  phase g := g.float 0.0 fullCircle
  noise g := g.float (-0.1) 0.1
  strike g := g.below 20 (by decide) (by decide)
  victim g :=
    g.below Simulation.services.length (by rw [Simulation.length_services]; decide)
      (by rw [Simulation.length_services]; decide)
  extension g := g.belowWide 7 (by decide) (by decide)
  wave := Float.sin

/-! ## Outages -/

/-- A service that is down for a while: from the tick `start` on, for `duration` ticks. Neither
comes near `2 ^ 64`. -/
structure Outage where
  service : String
  start : Nat
  duration : Nat
deriving Repr, BEq, DecidableEq

namespace Outage

/-- The outage is over by the tick. -/
def isOver (o : Outage) (tick : Nat) : Bool := o.start + o.duration ≤ tick

/-- The service is down in the tick. -/
def covers (o : Outage) (tick : Nat) : Bool := o.start ≤ tick && !o.isOver tick

end Outage

/-! ## State -/

/-- State of a simulation. The services, the routes and their rates are the same for all
simulations. -/
structure Simulator (σ ν : Type) where
  /-- Where the next draws come from. -/
  source : σ
  /-- Number of the last tick, below `2 ^ 64`. -/
  tick : Nat
  /-- The phases of the routes, in their order. -/
  phases : List ν
  /-- Outages that have not been found over. -/
  outages : List Outage

namespace Simulator

variable {σ ν : Type}

/-- One draw for every element of a list, in order. -/
def drawEach {α : Type} (draw : σ → ν × σ) : List α → σ → List ν × σ
  | [], s => ([], s)
  | _ :: rest, s =>
    let (x, s) := draw s
    let (xs, s) := drawEach draw rest s
    (x :: xs, s)

/-- Before the first tick; the phases are drawn. -/
def start (chance : Chance σ ν) (source : σ) : Simulator σ ν :=
  let (phases, source) := drawEach chance.phase Simulation.routes source
  ⟨source, 0, phases, []⟩

/-! ## Outages of a tick -/

/-- The outage that a tick may begin. -/
def drawOutage? (chance : Chance σ ν) (tick : Nat) (s : σ) : Option Outage × σ :=
  let (strike, s) := chance.strike s
  if strike = 0 then
    let (victim, s) := chance.victim s
    let (extension, s) := chance.extension s
    (some ⟨Simulation.services[victim], tick, 3 + extension.val⟩, s)
  else (none, s)

/-- The next tick begins: what is over is forgotten, and where nothing is left, an outage may
begin. -/
def schedule (chance : Chance σ ν) (m : Simulator σ ν) : Simulator σ ν :=
  let tick := m.tick + 1
  let left := m.outages.filter (!·.isOver tick)
  if left.isEmpty then
    -- Chance is asked only while nothing is down.
    let (outage, source) := drawOutage? chance tick m.source
    { m with tick, source, outages := outage.toList }
  else { m with tick, outages := left }

def down (m : Simulator σ ν) : List String :=
  (m.outages.filter (·.covers m.tick)).map (·.service)

/-! ## Rates -/

variable [Scalar ν]

/-- The rate of a route with the given swing and noise. -/
def rateOf (rate swing noise : ν) : ν :=
  let value := rate + rate * 0.4 * swing + noise * rate
  if 0.0 < value then value else 0.0

/-- The reported link of a route. -/
def linkOf (r : Route) (value : ν) : ReportedLink ν :=
  ⟨some r.source, some r.target, some value, some r.kind.text⟩

/-- The links of a tick. Noise is drawn for the routes to services that are up. -/
def links (chance : Chance σ ν) (tick : Nat) (down : List String) :
    List (Route × ν) → σ → List (ReportedLink ν) × σ
  | [], s => ([], s)
  | (route, phase) :: rest, s =>
    let rate : ν := Scalar.ofCount route.rate
    if down.contains route.target then
      -- Callers of a service that is down still try now and then, with no noise.
      let (others, s) := links chance tick down rest s
      (linkOf route (rate * 0.05) :: others, s)
    else
      let (noise, s) := chance.noise s
      let swing := chance.wave (Scalar.ofCount tick * 0.15 + phase)
      let (others, s) := links chance tick down rest s
      (linkOf route (rateOf rate swing noise) :: others, s)

/-! ## Reports -/

/-- Where simulated reports say they come from. -/
def origin : String := "demo"

/-- The metadata of a service: whether it is up. -/
def serviceOf {κ : Type} (down : List String) (id : String) : ReportedService κ :=
  { ReportedService.ofId id with status := some (if down.contains id then "down" else "up") }

/-- One tick, which happens at time `now`, and its report. -/
def advance {κ : Type} (chance : Chance σ ν) (m : Simulator σ ν) (now : Int64) :
    Report κ ν × Simulator σ ν :=
  -- The outages come first: what is down in this tick is reported as down in it.
  let m := m.schedule chance
  let (links, source) :=
    links chance m.tick m.down (Simulation.routes.zip m.phases) m.source
  ({ services := some (Simulation.services.map (serviceOf m.down))
     links
     timestamp := some (.millis now)
     source := some origin },
   { m with source })

end Simulator

end TrafficMap
