import TrafficMap.Json5.Document
import TrafficMap.Json5.Typed
import TrafficMap.Settings.Basic

/-!
# Reading Settings

Settings are written as a JSON5 document. What is not written has its default.
-/

namespace TrafficMap

open Json5 (Fault Node RecordField RecordType)

/-! ## Endpoint -/

structure EndpointDraft where
  url : Option String
  timeoutMs : Option UInt64

def endpointRecord : RecordType EndpointDraft where
  title := "struct EndpointConfig"
  fields :=
    [.of "url" false EndpointDraft.url (fun d v => { d with url := some v }) Json5.text,
     .of "timeout_ms" false EndpointDraft.timeoutMs (fun d v => { d with timeoutMs := some v })
       Json5.count]

def EndpointDraft.finish (d : EndpointDraft) : EndpointSettings where
  url := d.url.getD EndpointSettings.default.url
  timeoutMs := d.timeoutMs.getD EndpointSettings.default.timeoutMs

def EndpointSettings.ofNode (node : Node) : Except Fault EndpointSettings :=
  (endpointRecord.draft ⟨none, none⟩ node).map (·.finish)

/-! ## Poll cycle -/

structure PollDraft where
  intervalMs : Option UInt64
  autoRefresh : Option Bool

def pollRecord : RecordType PollDraft where
  title := "struct PollConfig"
  fields :=
    [.of "interval_ms" false PollDraft.intervalMs (fun d v => { d with intervalMs := some v })
       Json5.count,
     .of "auto_refresh" false PollDraft.autoRefresh (fun d v => { d with autoRefresh := some v })
       Json5.boolean]

def PollDraft.finish (d : PollDraft) : PollSettings where
  intervalMs := d.intervalMs.getD PollSettings.default.intervalMs
  autoRefresh := d.autoRefresh.getD PollSettings.default.autoRefresh

def PollSettings.ofNode (node : Node) : Except Fault PollSettings :=
  (pollRecord.draft ⟨none, none⟩ node).map (·.finish)

/-! ## Placements -/

structure ServiceDraft where
  id : Option String
  x : Option Float32
  y : Option Float32
  layer : Option Layer

/-- A layer by its exact word. -/
def Layer.ofNode (node : Node) : Except Fault Layer :=
  Json5.variant [.infrastructure, .platform, .gateway, .business, .frontend, .unknown] Layer.text
    node

def serviceRecord : RecordType ServiceDraft where
  title := "struct ServiceLayout"
  fields :=
    [.of "id" true ServiceDraft.id (fun d v => { d with id := some v }) Json5.text,
     .of "x" true ServiceDraft.x (fun d v => { d with x := some v }) Json5.coordinate,
     .of "y" true ServiceDraft.y (fun d v => { d with y := some v }) Json5.coordinate,
     .of "layer" false ServiceDraft.layer (fun d v => { d with layer := some v }) Layer.ofNode]

def ServiceDraft.finish (d : ServiceDraft) : Except Fault (ServicePlacement Float32) := do
  let id ← Json5.require "id" d.id
  let x ← Json5.require "x" d.x
  let y ← Json5.require "y" d.y
  .ok ⟨id, x, y, d.layer.getD .unknown⟩

def ServicePlacement.ofNode (node : Node) : Except Fault (ServicePlacement Float32) :=
  (serviceRecord.draft ⟨none, none, none, none⟩ node).bind (·.finish)

structure LayoutDraft where
  replaceDefaults : Option Bool
  services : Option (List (ServicePlacement Float32))

def layoutRecord : RecordType LayoutDraft where
  title := "struct LayoutConfig"
  fields :=
    [.of "replace_defaults" false LayoutDraft.replaceDefaults
       (fun d v => { d with replaceDefaults := some v }) Json5.boolean,
     .of "services" false LayoutDraft.services (fun d v => { d with services := some v })
       (Json5.list ServicePlacement.ofNode)]

def LayoutDraft.finish (d : LayoutDraft) : LayoutSettings where
  replaceDefaults := d.replaceDefaults.getD LayoutSettings.default.replaceDefaults
  services := d.services.getD LayoutSettings.default.services

def LayoutSettings.ofNode (node : Node) : Except Fault LayoutSettings :=
  (layoutRecord.draft ⟨none, none⟩ node).map (·.finish)

/-! ## Log -/

structure LogDraft where
  level : Option String
  format : Option LogFormat

/-- A form of the log by its exact word. -/
def LogFormat.ofNode (node : Node) : Except Fault LogFormat :=
  Json5.variant [.text, .json] LogFormat.name node

def logRecord : RecordType LogDraft where
  title := "struct LoggingConfig"
  fields :=
    [.of "level" false LogDraft.level (fun d v => { d with level := some v }) Json5.text,
     .of "format" false LogDraft.format (fun d v => { d with format := some v }) LogFormat.ofNode]

def LogDraft.finish (d : LogDraft) : LogSettings where
  level := d.level.getD LogSettings.default.level
  format := d.format.getD LogSettings.default.format

def LogSettings.ofNode (node : Node) : Except Fault LogSettings :=
  (logRecord.draft ⟨none, none⟩ node).map (·.finish)

/-! ## All settings -/

structure SettingsDraft where
  endpoint : Option EndpointSettings
  poll : Option PollSettings
  layout : Option LayoutSettings
  logging : Option LogSettings

def settingsRecord : RecordType SettingsDraft where
  title := "struct TrafficScopeConfig"
  fields :=
    [.of "endpoint" false SettingsDraft.endpoint (fun d v => { d with endpoint := some v })
       EndpointSettings.ofNode,
     .of "poll" false SettingsDraft.poll (fun d v => { d with poll := some v }) PollSettings.ofNode,
     .of "layout" false SettingsDraft.layout (fun d v => { d with layout := some v })
       LayoutSettings.ofNode,
     .of "logging" false SettingsDraft.logging (fun d v => { d with logging := some v })
       LogSettings.ofNode]

def SettingsDraft.finish (d : SettingsDraft) : Settings where
  endpoint := d.endpoint.getD Settings.default.endpoint
  poll := d.poll.getD Settings.default.poll
  layout := d.layout.getD Settings.default.layout
  logging := d.logging.getD Settings.default.logging

def Settings.ofNode (node : Node) : Except Fault Settings :=
  (settingsRecord.draft ⟨none, none, none, none⟩ node).map (·.finish)

/-! ## Documents -/

/-- What a whole document says, read by `f`. -/
def Json5.document {α : Type} (f : Node → Except Fault α) (text : String) : Except Fault α :=
  match Json5.parse? text with
  | some node => f node
  | none => .error .grammar

/-- The settings in the text of a configuration. -/
def Settings.ofText (text : String) : Except Fault Settings :=
  Json5.document Settings.ofNode text

end TrafficMap
