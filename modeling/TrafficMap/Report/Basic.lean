import TrafficMap.Number.Binary
import TrafficMap.Number.Word
import TrafficMap.Time.Timestamp
import TrafficMap.Topology.Snapshot

/-!
# Reports

What the traffic endpoint reports. Everything but the list of links may be missing: the metadata of
the services, the capture time, the origin, and every field of a service or a link except a
service's id.
-/

namespace TrafficMap

/-! ## Capture times -/

/-- A point in time as the endpoint gives it. It is kept as it came, and normalization decides what
it means. -/
inductive Moment where
  /-- Milliseconds since 1970. -/
  | millis (ms : Int64)
  /-- Milliseconds since 1970 with a fraction. -/
  | fractional (ms : Float)
  /-- An internet timestamp. -/
  | text (s : String)
deriving Repr, DecidableEq

/-- Milliseconds since 1970, when the point in time can be read. Fractions are cut off. -/
def Moment.millis? : Moment → Option Int64
  | .millis ms => some ms
  | .fractional ms => (Binary.ofFloat ms).truncated?.map saturate
  | .text s => (Timestamp.millis? s).map Int64.ofInt

/-! ## Entries -/

structure ReportedService (κ : Type) where
  id : String
  name : Option String
  status : Option String
  x : Option κ
  y : Option κ
  layer : Option String
deriving Repr, BEq, DecidableEq

/-- A service known only by its id. -/
def ReportedService.ofId {κ : Type} (id : String) : ReportedService κ :=
  ⟨id, none, none, none, none, none⟩

/-- Traffic between two services. Any part of it may be missing. -/
structure ReportedLink (ν : Type) where
  source : Option String
  target : Option String
  value : Option ν
  kind : Option String
deriving Repr, BEq, DecidableEq

/-- A link of which nothing is known. -/
def ReportedLink.blank {ν : Type} : ReportedLink ν := ⟨none, none, none, none⟩

/-! ## The document -/

/-- A document of the traffic endpoint. Of its parts only the list of links is always there. -/
structure Report (κ ν : Type) where
  services : Option (List (ReportedService κ))
  links : List (ReportedLink ν)
  timestamp : Option Moment
  source : Option String
deriving Repr, DecidableEq

/-! ## Reports of snapshots -/

def ReportedService.ofService {κ : Type} (s : Service κ) : ReportedService κ :=
  ⟨s.id, some s.name, some s.health.text, some s.position.x, some s.position.y, some s.layer.text⟩

def ReportedLink.ofLink {ν : Type} (e : Link ν) : ReportedLink ν :=
  ⟨some e.source, some e.target, some e.volume, some e.kind.text⟩

/-- The report that says everything about a snapshot. Normalizing it needs neither a registry nor
the time of the fetch. -/
def Report.ofSnapshot {κ ν : Type} (s : Snapshot κ ν) : Report κ ν where
  services := some (s.services.map .ofService)
  links := s.links.map .ofLink
  timestamp := some (.millis s.capturedAt)
  source := some s.origin

end TrafficMap
