import TrafficMap.Json.Fault

/-!
# Problems

What can go wrong on the way to a snapshot, and how it is worded. A problem of the configuration
stays until somebody mends it; all others may be gone with the next poll.
-/

namespace TrafficMap

/-- What went wrong. -/
inductive Problem where
  /-- The configuration cannot be used. -/
  | configuration (message : String)
  /-- No answer came back from the endpoint. -/
  | transport (description : String)
  /-- The endpoint answered with a status that is no success. -/
  | status (code : Nat) (url : String)
  /-- The endpoint's document cannot be read. -/
  | document (fault : Json.Fault)
deriving Repr, DecidableEq

namespace Problem

def message : Problem → String
  | .configuration text => "Configuration error: " ++ text
  | .transport description => "HTTP error: " ++ description
  | .status code url => s!"Snapshot endpoint {url} returned HTTP {code}"
  | .document fault => "JSON serialization error: " ++ fault.message

/-- The poll cycle may simply go on. -/
def isTemporary : Problem → Bool
  | .configuration _ => false
  | _ => true

end Problem

end TrafficMap
