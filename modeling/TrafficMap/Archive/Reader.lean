import TrafficMap.Json.Typed
import TrafficMap.Report.Entry
import TrafficMap.Topology.Snapshot

/-!
# Reading Archived Snapshots

The strict reader for the JSON form of a normalized snapshot. Every field is required and has to be
of its own kind, and the words for health, layer and kind of traffic are exact.
-/

namespace TrafficMap.Archive

open Json (Fault Found Number Reader RecordField RecordType)

/-! ## Numbers -/

def coordinate : Reader Float32 :=
  Json.numberReader "f32" fun n => .ok n.toFloat32

def volume : Reader Float :=
  Json.numberReader "f64" fun n => .ok n.toFloat

def wordOf (n : Number) : Except Fault Int64 :=
  match n with
  | .natural m =>
    match signedWord? m.toNat with
    | some w => .ok w
    | none => .error (.invalidValue (.ofNumber n) "i64")
  | .negative m => .ok m
  | .float _ => .error (.invalidType (.ofNumber n) "i64")

def time : Reader Int64 := Json.numberReader "i64" wordOf

/-! ## Words -/

/-- A reader for one of a few values by their texts. -/
def named {α : Type} (values : List α) (text : α → String) : Reader α :=
  Json.variantReader (values.map text) fun name => values.find? fun v => text v == name

def health : Reader Health := named [.healthy, .unhealthy, .unknown] Health.text

def layer : Reader Layer :=
  named [.infrastructure, .platform, .gateway, .business, .frontend, .unknown] Layer.text

def kind : Reader TrafficKind := named [.http, .message] TrafficKind.text

/-! ## Records -/

/-- A required field that is kept in one part of a draft. -/
def field {σ α : Type} (name : String) (get : σ → Option α) (set : σ → α → σ) (f : Reader α) :
    RecordField σ where
  keys := [name]
  required := true
  isSet d := (get d).isSome
  reader d := f.map (set d)

structure PositionDraft where
  x : Option Float32
  y : Option Float32

def position : Reader (Position Float32) :=
  RecordType.reader
    { title := "struct Position"
      fields :=
        [field "x" PositionDraft.x (fun d v => { d with x := some v }) coordinate,
         field "y" PositionDraft.y (fun d v => { d with y := some v }) coordinate] }
    ⟨none, none⟩
    fun d => do
      let x ← Json.require "x" d.x
      let y ← Json.require "y" d.y
      .ok ⟨x, y⟩

structure ServiceDraft where
  id : Option String
  name : Option String
  health : Option Health
  layer : Option Layer
  position : Option (Position Float32)

def service : Reader (Service Float32) :=
  RecordType.reader
    { title := "struct ServiceNode"
      fields :=
        [field "id" ServiceDraft.id (fun d v => { d with id := some v }) Json.textReader,
         field "display_name" ServiceDraft.name (fun d v => { d with name := some v })
           Json.textReader,
         field "health" ServiceDraft.health (fun d v => { d with health := some v }) health,
         field "layer" ServiceDraft.layer (fun d v => { d with layer := some v }) layer,
         field "position" ServiceDraft.position (fun d v => { d with position := some v })
           position] }
    ⟨none, none, none, none, none⟩
    fun d => do
      let id ← Json.require "id" d.id
      let name ← Json.require "display_name" d.name
      let health ← Json.require "health" d.health
      let layer ← Json.require "layer" d.layer
      let position ← Json.require "position" d.position
      .ok ⟨id, name, health, layer, position⟩

structure LinkDraft where
  source : Option String
  target : Option String
  volume : Option Float
  kind : Option TrafficKind

def link : Reader (Link Float) :=
  RecordType.reader
    { title := "struct TrafficEdge"
      fields :=
        [field "source" LinkDraft.source (fun d v => { d with source := some v }) Json.textReader,
         field "target" LinkDraft.target (fun d v => { d with target := some v }) Json.textReader,
         field "volume" LinkDraft.volume (fun d v => { d with volume := some v }) volume,
         field "kind" LinkDraft.kind (fun d v => { d with kind := some v }) kind] }
    ⟨none, none, none, none⟩
    fun d => do
      let source ← Json.require "source" d.source
      let target ← Json.require "target" d.target
      let volume ← Json.require "volume" d.volume
      let kind ← Json.require "kind" d.kind
      .ok ⟨source, target, volume, kind⟩

structure SnapshotDraft where
  services : Option (List (Service Float32))
  links : Option (List (Link Float))
  capturedAt : Option Int64
  origin : Option String

def snapshot : Reader (Snapshot Float32 Float) :=
  RecordType.reader
    { title := "struct Snapshot"
      fields :=
        [field "nodes" SnapshotDraft.services (fun d v => { d with services := some v })
           (Json.listReader service),
         field "edges" SnapshotDraft.links (fun d v => { d with links := some v })
           (Json.listReader link),
         field "captured_at" SnapshotDraft.capturedAt (fun d v => { d with capturedAt := some v })
           time,
         field "origin" SnapshotDraft.origin (fun d v => { d with origin := some v })
           Json.textReader] }
    ⟨none, none, none, none⟩
    fun d => do
      let services ← Json.require "nodes" d.services
      let links ← Json.require "edges" d.links
      let capturedAt ← Json.require "captured_at" d.capturedAt
      let origin ← Json.require "origin" d.origin
      .ok ⟨services, links, capturedAt, origin⟩

/-- The snapshot in the bytes of a document. -/
def ofBytes (bytes : List UInt8) : Except Fault (Snapshot Float32 Float) :=
  Json.document snapshot bytes

end TrafficMap.Archive
