import Mathlib.Tactic.MkIffOfInductiveProp
import TrafficMap.Proofs.Json5.Records
import TrafficMap.Settings.Reader

/-!
# Settings: What a Configuration Tells

For each part of the settings, what the members of an object have to tell for it. `IsToldBy` is
that, field by field, with the default of each field that may be missing; an object with clean
members is read as the settings that it tells, and no other object is read.
-/

namespace TrafficMap

open Json5 (Fault IsClean Member Node Tells bind_eq_ok_iff map_eq_ok_iff valuesOf)
open Json5.RecordField (leaves_of)
open Json5.RecordType (exists_addMembers_and_iff keeps_of)

variable {members : List Member}

/-! ## Endpoint -/

@[mk_iff]
structure EndpointSettings.IsToldBy (s : EndpointSettings) (members : List Member) : Prop where
  url : Tells Json5.text (some default.url) (valuesOf "url" members) s.url
  timeoutMs : Tells Json5.count (some default.timeoutMs) (valuesOf "timeout_ms" members) s.timeoutMs

@[simp]
theorem endpointRecord_names : endpointRecord.names = ["url", "timeout_ms"] := rfl

theorem endpointRecord_keeps_url : endpointRecord.Keeps "url" EndpointDraft.url Json5.text := by
  refine keeps_of rfl (fun _ _ => rfl) ?_
  simp [endpointRecord, leaves_of]

theorem endpointRecord_keeps_timeoutMs :
    endpointRecord.Keeps "timeout_ms" EndpointDraft.timeoutMs Json5.count := by
  refine keeps_of rfl (fun _ _ => rfl) ?_
  simp [endpointRecord, leaves_of]

theorem EndpointSettings.ofNode_object_iff {s : EndpointSettings} :
    ofNode (.object members) = .ok s ↔
      IsClean endpointRecord.names members ∧ s.IsToldBy members := by
  have hfields := exists_addMembers_and_iff ⟨none, none⟩ members
    [endpointRecord_keeps_url.optional rfl default.url s.url,
      endpointRecord_keeps_timeoutMs.optional rfl default.timeoutMs s.timeoutMs] rfl
  obtain ⟨url, timeoutMs⟩ := s
  refine map_eq_ok_iff.trans ?_
  simpa [EndpointSettings.isToldBy_iff, EndpointDraft.finish] using hfields

/-! ## Poll cycle -/

@[mk_iff]
structure PollSettings.IsToldBy (s : PollSettings) (members : List Member) : Prop where
  intervalMs :
    Tells Json5.count (some default.intervalMs) (valuesOf "interval_ms" members) s.intervalMs
  autoRefresh :
    Tells Json5.boolean (some default.autoRefresh) (valuesOf "auto_refresh" members) s.autoRefresh

@[simp]
theorem pollRecord_names : pollRecord.names = ["interval_ms", "auto_refresh"] := rfl

theorem pollRecord_keeps_intervalMs :
    pollRecord.Keeps "interval_ms" PollDraft.intervalMs Json5.count := by
  refine keeps_of rfl (fun _ _ => rfl) ?_
  simp [pollRecord, leaves_of]

theorem pollRecord_keeps_autoRefresh :
    pollRecord.Keeps "auto_refresh" PollDraft.autoRefresh Json5.boolean := by
  refine keeps_of rfl (fun _ _ => rfl) ?_
  simp [pollRecord, leaves_of]

theorem PollSettings.ofNode_object_iff {s : PollSettings} :
    ofNode (.object members) = .ok s ↔
      IsClean pollRecord.names members ∧ s.IsToldBy members := by
  have hfields := exists_addMembers_and_iff ⟨none, none⟩ members
    [pollRecord_keeps_intervalMs.optional rfl default.intervalMs s.intervalMs,
      pollRecord_keeps_autoRefresh.optional rfl default.autoRefresh s.autoRefresh] rfl
  obtain ⟨intervalMs, autoRefresh⟩ := s
  refine map_eq_ok_iff.trans ?_
  simpa [PollSettings.isToldBy_iff, PollDraft.finish] using hfields

/-! ## Placements -/

/-- What the members tell for a placement, of which only the layer may be missing. -/
@[mk_iff]
structure ServicePlacement.IsToldBy (s : ServicePlacement Float32) (members : List Member) :
    Prop where
  id : Tells Json5.text none (valuesOf "id" members) s.id
  x : Tells Json5.coordinate none (valuesOf "x" members) s.x
  y : Tells Json5.coordinate none (valuesOf "y" members) s.y
  layer : Tells Layer.ofNode (some .unknown) (valuesOf "layer" members) s.layer

@[simp]
theorem serviceRecord_names : serviceRecord.names = ["id", "x", "y", "layer"] := rfl

theorem serviceRecord_keeps_id : serviceRecord.Keeps "id" ServiceDraft.id Json5.text := by
  refine keeps_of rfl (fun _ _ => rfl) ?_
  simp [serviceRecord, leaves_of]

theorem serviceRecord_keeps_x : serviceRecord.Keeps "x" ServiceDraft.x Json5.coordinate := by
  refine keeps_of rfl (fun _ _ => rfl) ?_
  simp [serviceRecord, leaves_of]

theorem serviceRecord_keeps_y : serviceRecord.Keeps "y" ServiceDraft.y Json5.coordinate := by
  refine keeps_of rfl (fun _ _ => rfl) ?_
  simp [serviceRecord, leaves_of]

theorem serviceRecord_keeps_layer :
    serviceRecord.Keeps "layer" ServiceDraft.layer Layer.ofNode := by
  refine keeps_of rfl (fun _ _ => rfl) ?_
  simp [serviceRecord, leaves_of]

theorem require_eq_ok_iff {α : Type} {name : String} {o : Option α} {a : α} :
    Json5.require name o = .ok a ↔ o = some a := by
  cases o <;> simp [Json5.require]

theorem ServiceDraft.finish_eq_ok_iff {d : ServiceDraft} {s : ServicePlacement Float32} :
    d.finish = .ok s ↔ d.id = some s.id ∧ d.x = some s.x ∧ d.y = some s.y ∧
      d.layer.getD .unknown = s.layer := by
  -- The `do` block as a chain of `bind`, which success can be taken apart along.
  have hunfold : d.finish = (Json5.require "id" d.id).bind fun id =>
      (Json5.require "x" d.x).bind fun x => (Json5.require "y" d.y).bind fun y =>
        .ok ⟨id, x, y, d.layer.getD .unknown⟩ := rfl
  rw [hunfold]
  simp only [bind_eq_ok_iff, require_eq_ok_iff]
  constructor
  · rintro ⟨id, hid, x, hx, y, hy, hs⟩
    cases hs
    exact ⟨hid, hx, hy, rfl⟩
  · rintro ⟨hid, hx, hy, hlayer⟩
    exact ⟨s.id, hid, s.x, hx, s.y, hy, by rw [hlayer]⟩

theorem ServicePlacement.ofNode_object_iff {s : ServicePlacement Float32} :
    ofNode (.object members) = .ok s ↔
      IsClean serviceRecord.names members ∧ s.IsToldBy members := by
  have hfields := exists_addMembers_and_iff ⟨none, none, none, none⟩ members
    [serviceRecord_keeps_id.required rfl s.id, serviceRecord_keeps_x.required rfl s.x,
      serviceRecord_keeps_y.required rfl s.y,
      serviceRecord_keeps_layer.optional rfl .unknown s.layer] rfl
  refine bind_eq_ok_iff.trans ?_
  simpa [isToldBy_iff, ServiceDraft.finish_eq_ok_iff] using hfields

/-! ## Layout -/

@[mk_iff]
structure LayoutSettings.IsToldBy (s : LayoutSettings) (members : List Member) : Prop where
  replaceDefaults : Tells Json5.boolean (some default.replaceDefaults)
    (valuesOf "replace_defaults" members) s.replaceDefaults
  services : Tells (Json5.list ServicePlacement.ofNode) (some default.services)
    (valuesOf "services" members) s.services

@[simp]
theorem layoutRecord_names : layoutRecord.names = ["replace_defaults", "services"] := rfl

theorem layoutRecord_keeps_replaceDefaults :
    layoutRecord.Keeps "replace_defaults" LayoutDraft.replaceDefaults Json5.boolean := by
  refine keeps_of rfl (fun _ _ => rfl) ?_
  simp [layoutRecord, leaves_of]

theorem layoutRecord_keeps_services :
    layoutRecord.Keeps "services" LayoutDraft.services (Json5.list ServicePlacement.ofNode) := by
  refine keeps_of rfl (fun _ _ => rfl) ?_
  simp [layoutRecord, leaves_of]

theorem LayoutSettings.ofNode_object_iff {s : LayoutSettings} :
    ofNode (.object members) = .ok s ↔ IsClean layoutRecord.names members ∧ s.IsToldBy members := by
  have hfields := exists_addMembers_and_iff ⟨none, none⟩ members
    [layoutRecord_keeps_replaceDefaults.optional rfl default.replaceDefaults s.replaceDefaults,
      layoutRecord_keeps_services.optional rfl default.services s.services] rfl
  obtain ⟨replaceDefaults, services⟩ := s
  refine map_eq_ok_iff.trans ?_
  simpa [LayoutSettings.isToldBy_iff, LayoutDraft.finish] using hfields

/-! ## Log -/

@[mk_iff]
structure LogSettings.IsToldBy (s : LogSettings) (members : List Member) : Prop where
  level : Tells Json5.text (some default.level) (valuesOf "level" members) s.level
  format : Tells LogFormat.ofNode (some default.format) (valuesOf "format" members) s.format

@[simp]
theorem logRecord_names : logRecord.names = ["level", "format"] := rfl

theorem logRecord_keeps_level : logRecord.Keeps "level" LogDraft.level Json5.text := by
  refine keeps_of rfl (fun _ _ => rfl) ?_
  simp [logRecord, leaves_of]

theorem logRecord_keeps_format : logRecord.Keeps "format" LogDraft.format LogFormat.ofNode := by
  refine keeps_of rfl (fun _ _ => rfl) ?_
  simp [logRecord, leaves_of]

theorem LogSettings.ofNode_object_iff {s : LogSettings} :
    ofNode (.object members) = .ok s ↔ IsClean logRecord.names members ∧ s.IsToldBy members := by
  have hfields := exists_addMembers_and_iff ⟨none, none⟩ members
    [logRecord_keeps_level.optional rfl default.level s.level,
      logRecord_keeps_format.optional rfl default.format s.format] rfl
  obtain ⟨level, format⟩ := s
  refine map_eq_ok_iff.trans ?_
  simpa [LogSettings.isToldBy_iff, LogDraft.finish] using hfields

/-! ## All settings -/

@[mk_iff]
structure Settings.IsToldBy (s : Settings) (members : List Member) : Prop where
  endpoint :
    Tells EndpointSettings.ofNode (some default.endpoint) (valuesOf "endpoint" members) s.endpoint
  poll : Tells PollSettings.ofNode (some default.poll) (valuesOf "poll" members) s.poll
  layout : Tells LayoutSettings.ofNode (some default.layout) (valuesOf "layout" members) s.layout
  logging : Tells LogSettings.ofNode (some default.logging) (valuesOf "logging" members) s.logging

@[simp]
theorem settingsRecord_names :
    settingsRecord.names = ["endpoint", "poll", "layout", "logging"] := rfl

theorem settingsRecord_keeps_endpoint :
    settingsRecord.Keeps "endpoint" SettingsDraft.endpoint EndpointSettings.ofNode := by
  refine keeps_of rfl (fun _ _ => rfl) ?_
  simp [settingsRecord, leaves_of]

theorem settingsRecord_keeps_poll :
    settingsRecord.Keeps "poll" SettingsDraft.poll PollSettings.ofNode := by
  refine keeps_of rfl (fun _ _ => rfl) ?_
  simp [settingsRecord, leaves_of]

theorem settingsRecord_keeps_layout :
    settingsRecord.Keeps "layout" SettingsDraft.layout LayoutSettings.ofNode := by
  refine keeps_of rfl (fun _ _ => rfl) ?_
  simp [settingsRecord, leaves_of]

theorem settingsRecord_keeps_logging :
    settingsRecord.Keeps "logging" SettingsDraft.logging LogSettings.ofNode := by
  refine keeps_of rfl (fun _ _ => rfl) ?_
  simp [settingsRecord, leaves_of]

theorem Settings.ofNode_object_iff {s : Settings} :
    ofNode (.object members) = .ok s ↔
      IsClean settingsRecord.names members ∧ s.IsToldBy members := by
  have hfields := exists_addMembers_and_iff ⟨none, none, none, none⟩ members
    [settingsRecord_keeps_endpoint.optional rfl default.endpoint s.endpoint,
      settingsRecord_keeps_poll.optional rfl default.poll s.poll,
      settingsRecord_keeps_layout.optional rfl default.layout s.layout,
      settingsRecord_keeps_logging.optional rfl default.logging s.logging] rfl
  obtain ⟨endpoint, poll, layout, logging⟩ := s
  refine map_eq_ok_iff.trans ?_
  simpa [Settings.isToldBy_iff, SettingsDraft.finish] using hfields

end TrafficMap
