import TrafficMap.Endpoint.Problem
import TrafficMap.Settings.Basic
import TrafficMap.Text.Blank
import TrafficMap.Url.Reader

/-!
# Checking Settings

What settings have to satisfy beyond their types: the endpoint is a web address with a host, polls
are at least a tenth of a second apart, and a request may take some time. The first violation is
reported.
-/

namespace TrafficMap

/-- The endpoint has an address that can be requested. -/
def EndpointSettings.checkUrl (s : EndpointSettings) : Except Problem Url :=
  -- Blanks around the address are left out here, while the settings keep them.
  match Url.parse (Text.trim s.url) with
  | .error fault =>
    .error (.configuration s!"Invalid endpoint URL '{s.url}': {fault.message}")
  | .ok u =>
    if u.isRequestable then .ok u
    else
      .error (.configuration
        s!"Endpoint URL must be an http:// or https:// URL with a host, got '{s.url}'")

/-- Least time between two polls in milliseconds. -/
def minimalInterval : UInt64 := 100

/-- The settings can be used. -/
def Settings.check (s : Settings) : Except Problem Unit := do
  let _ ← s.endpoint.checkUrl
  if s.poll.intervalMs < minimalInterval then
    .error (.configuration s!"Poll interval must be at least 100 ms, got {s.poll.intervalMs.toNat}")
  else if s.endpoint.timeoutMs = 0 then
    .error (.configuration "Endpoint timeout must be non-zero")
  else .ok ()

end TrafficMap
