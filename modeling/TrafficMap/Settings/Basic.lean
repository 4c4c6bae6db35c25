import TrafficMap.Topology.Registry

/-!
# Settings

What can be configured: the endpoint, the poll cycle, placements of services, and the log. Every
part has a default, and so has every field that is not written.
-/

namespace TrafficMap

/-- The endpoint that serves snapshots. -/
structure EndpointSettings where
  url : String
  /-- How long a request may take. -/
  timeoutMs : UInt64
deriving Repr, BEq, DecidableEq

/-- The endpoint on this machine. -/
def EndpointSettings.default : EndpointSettings :=
  ⟨"http://localhost:8080/api/traffic/snapshot", 5000⟩

/-- The poll cycle. -/
structure PollSettings where
  /-- Time between two polls. -/
  intervalMs : UInt64
  /-- Polling is on from the start. -/
  autoRefresh : Bool
deriving Repr, BEq, DecidableEq

/-- A poll every two seconds. -/
def PollSettings.default : PollSettings := ⟨2000, true⟩

/-- Placements of services. -/
structure LayoutSettings where
  /-- Only the configured placements count. -/
  replaceDefaults : Bool
  services : List (ServicePlacement Float32)
deriving Repr, BEq, DecidableEq

/-- The built-in placements. -/
def LayoutSettings.default : LayoutSettings := ⟨false, []⟩

/-- The registry that the settings describe. -/
def LayoutSettings.registry (s : LayoutSettings) : Registry Float32 :=
  .ofServices s.services s.replaceDefaults

inductive LogFormat where
  | text
  | json
deriving Repr, BEq, DecidableEq

/-- The word for a form of the log. -/
def LogFormat.name : LogFormat → String
  | .text => "text"
  | .json => "json"

structure LogSettings where
  level : String
  format : LogFormat
deriving Repr, BEq, DecidableEq

/-- A readable log of everything from level `info` on. -/
def LogSettings.default : LogSettings := ⟨"info", .text⟩

/-- All settings. Each section may be missing in a configuration. -/
structure Settings where
  endpoint : EndpointSettings
  poll : PollSettings
  layout : LayoutSettings
  logging : LogSettings
deriving Repr, BEq, DecidableEq

/-- The settings without a configuration. -/
def Settings.default : Settings := ⟨.default, .default, .default, .default⟩

end TrafficMap
