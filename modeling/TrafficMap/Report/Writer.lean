import TrafficMap.Json.Basic
import TrafficMap.Report.Basic

/-!
# Writing Reports

The JSON form of a report: an object with the fields in their fixed order, absent ones left out.
-/

namespace TrafficMap

open Json (Value)

/-- A point in time. -/
def Moment.toValue : Moment → Value
  | .millis ms => .ofInt64 ms
  | .fractional ms => .ofFloat ms
  | .text s => .string s

def ReportedService.toValue (r : ReportedService Float32) : Value :=
  .ofFields
    [("id", some (.string r.id)),
     ("name", r.name.map .string),
     ("status", r.status.map .string),
     ("x", r.x.map .ofFloat32),
     ("y", r.y.map .ofFloat32),
     ("layer", r.layer.map .string)]

def ReportedLink.toValue (e : ReportedLink Float) : Value :=
  .ofFields
    [("source", e.source.map .string),
     ("target", e.target.map .string),
     ("value", e.value.map .ofFloat),
     ("type", e.kind.map .string)]

def Report.toValue (r : Report Float32 Float) : Value :=
  .ofFields
    [("nodes", r.services.map fun services => .array (services.map (·.toValue))),
     ("links", some (.array (r.links.map (·.toValue)))),
     ("timestamp", r.timestamp.map (·.toValue)),
     ("source", r.source.map .string)]

end TrafficMap
