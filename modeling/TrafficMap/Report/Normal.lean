import TrafficMap.Report.Basic
import TrafficMap.Text.Uppercase
import TrafficMap.Topology.Registry
import TrafficMap.Topology.Snapshot

/-!
# Normalization

The snapshot that a report stands for. Links without both ends are dropped, and links to services
that the snapshot does not have. Missing places and layers come from the registry, and what is
missing there from defaults. A report without metadata has the services that its links name.
-/

namespace TrafficMap

/-! ## Display names

A service without a name of its own is shown under a name made from its id: the separators `-`, `_`,
`.` and the space become spaces, and the first character of each word is written as a capital.
-/

/-- The characters that end a word of an id. -/
def isSeparator (c : Char) : Bool :=
  c == '-' || c == '_' || c == '.' || c == ' '

/-- The display name of the characters of an id; `wordStart` holds where the next character begins a
word. -/
def displayChars (wordStart : Bool) : List Char → List Char
  | [] => []
  | c :: cs =>
    if isSeparator c then ' ' :: displayChars true cs
    -- The capital of one character may be several.
    else if wordStart then Text.uppercase c ++ displayChars false cs
    else c :: displayChars false cs

/-- The name shown for a service that has only an id. -/
def displayName (id : String) : String :=
  String.ofList (displayChars true id.toList)

/-! ## Origins -/

/-- Origin of a report that does not tell it. -/
def missingOrigin : String := "unknown"

variable {κ ν : Type} [Scalar κ] [Scalar ν]

/-! ## Links -/

/-- A usable volume is a positive finite number; everything else counts as none. -/
def usableVolume (value : Option ν) : ν :=
  match value with
  -- An infinity is above zero, so that the volume is finite is asked for as well.
  | some v => if Scalar.isFinite v && (0.0 : ν) < v then v else 0.0
  | none => 0.0

/-- The link, when both its ends are reported. -/
def ReportedLink.complete? (e : ReportedLink ν) : Option (Link ν) :=
  match e.source, e.target with
  | some source, some target =>
    some ⟨source, target, usableVolume e.value, (e.kind.map TrafficKind.ofText).getD .http⟩
  | _, _ => none

/-- Both ends of the link are among the ids. -/
def Link.joins (e : Link ν) (ids : List String) : Bool :=
  ids.contains e.source && ids.contains e.target

/-! ## Services -/

/-- The service that metadata describe. What is missing comes from the registry, and what that does
not have from the defaults. -/
def ReportedService.resolve (registry : Registry κ) (r : ReportedService κ) : Service κ :=
  let placement := registry.get? r.id
  let fallback := (placement.map (·.position)).getD .center
  { id := r.id
    name := r.name.getD (displayName r.id)
    health := (r.status.map Health.ofText).getD .unknown
    layer := (r.layer.map Layer.ofText).getD ((placement.map (·.layer)).getD .unknown)
    -- Each coordinate falls back by itself.
    position := ⟨r.x.getD fallback.x, r.y.getD fallback.y⟩ }

/-- The services that metadata describe; of two entries for one id the first counts. -/
def describedServices (registry : Registry κ) (entries : List (ReportedService κ)) :
    List (Service κ) :=
  (distinctOn (·.id) entries).map (·.resolve registry)

/-- The ids that links name, source before target, each once. -/
def endpointIds (links : List (Link ν)) : List String :=
  distinctOn id (links.flatMap fun e => [e.source, e.target])

/-- The services that links name. -/
def namedServices (registry : Registry κ) (links : List (Link ν)) : List (Service κ) :=
  (endpointIds links).map fun id => (ReportedService.ofId id).resolve registry

/-! ## Snapshots -/

namespace Report

/-- The links that have both ends. -/
def completeLinks (r : Report κ ν) : List (Link ν) :=
  r.links.filterMap (·.complete?)

/-- Metadata when there are any, otherwise the ends of the links. An empty list of metadata counts
as none. -/
def resolveServices (r : Report κ ν) (registry : Registry κ) : List (Service κ) :=
  match r.services with
  | some (entry :: entries) => describedServices registry (entry :: entries)
  | _ => namedServices registry r.completeLinks

/-- The snapshot of a report that was fetched at time `fetchedAt`. This never fails: what cannot be
used is dropped or replaced. -/
def normalize (r : Report κ ν) (registry : Registry κ) (fetchedAt : Int64) : Snapshot κ ν :=
  let services := r.resolveServices registry
  { services := services
    links := r.completeLinks.filter (·.joins (services.map (·.id)))
    capturedAt := (r.timestamp.bind (·.millis?)).getD fetchedAt
    origin := r.source.getD missingOrigin }

end Report

end TrafficMap
