import TrafficMap.Json.Basic
import TrafficMap.Topology.Snapshot

/-!
# Writing Snapshots

The JSON form in which a normalized snapshot is archived. Every field is written.
-/

namespace TrafficMap

open Json (Value)

def Position.toValue (p : Position Float32) : Value :=
  .object [("x", .ofFloat32 p.x), ("y", .ofFloat32 p.y)]

def Service.toValue (s : Service Float32) : Value :=
  .object
    [("id", .string s.id),
     ("display_name", .string s.name),
     ("health", .string s.health.text),
     ("layer", .string s.layer.text),
     ("position", s.position.toValue)]

def Link.toValue (e : Link Float) : Value :=
  .object
    [("source", .string e.source),
     ("target", .string e.target),
     ("volume", .ofFloat e.volume),
     ("kind", .string e.kind.text)]

def Snapshot.toValue (s : Snapshot Float32 Float) : Value :=
  .object
    [("nodes", .array (s.services.map (·.toValue))),
     ("edges", .array (s.links.map (·.toValue))),
     ("captured_at", .ofInt64 s.capturedAt),
     ("origin", .string s.origin)]

end TrafficMap
