import TrafficMap.Session.State
import TrafficMap.View.Rate

/-!
# Header and Info Panel

The texts around the map, in reading order, each with the message that pressing it sends if it
stands on a button. The info panel is there as long as a service of the snapshot is selected.
-/

namespace TrafficMap

/-- A text, and what pressing it does. -/
structure PanelText (κ ν : Type) where
  text : String
  press : Option (Message κ ν)

namespace PanelText

variable {κ ν : Type}

/-- A text that cannot be pressed. -/
def plain (text : String) : PanelText κ ν := ⟨text, none⟩

def button (text : String) (message : Message κ ν) : PanelText κ ν := ⟨text, some message⟩

end PanelText

open PanelText (plain button)

variable {κ ν : Type} [Scalar ν]

/-! ## Header -/

/-- Where the snapshot comes from, and how old it is. -/
def provenance (s : Snapshot κ ν) (now : Int64) : String :=
  s.origin ++ " · " ++ (Age.between s.capturedAt now).text

/-- What the header says about the snapshot. -/
def snapshotTexts (snapshot : Option (Snapshot κ ν)) (now : Int64) : List String :=
  match snapshot with
  | some s =>
    [s!"{s.services.length} services", s!"{s.links.length} edges",
     rateText s.totalVolume ++ " total", provenance s now]
  | none => ["0 services", "0 edges", rateText (0.0 : ν) ++ " total", "no data"]

def headerTexts (s : Session κ ν) (now : Int64) : List (PanelText κ ν) :=
  let view := s.map.view
  [plain "Traffic Topology"] ++ (snapshotTexts s.map.snapshot now).map plain ++
    [plain (s.gate.successText now),
     plain (s.gate.status view.autoRefresh).text,
     -- The zoom level stands between the buttons that change it.
     button "-" .zoomOut,
     plain s!"{view.zoom.percent}%",
     button "+" .zoomIn,
     button "Reset" .zoomReset,
     button "Refresh" .refreshNow,
     button (if view.autoRefresh then "Auto Refresh: ON" else "Auto Refresh: OFF")
       .toggleAutoRefresh]

/-! ## Info panel -/

/-- Rate and number of the links in one direction. -/
def trafficText (direction : String) (links : List (Link ν)) : String :=
  s!"{direction}: {rateText (Snapshot.volumeOf links)} ({links.length} edges)"

def infoTexts (snapshot : Snapshot κ ν) (service : Service κ) : List (PanelText κ ν) :=
  [plain service.name,
   plain service.id,
   plain ("Health: " ++ service.health.text),
   plain ("Layer: " ++ service.layer.title),
   plain "Traffic",
   plain (trafficText "In" (snapshot.inbound service.id)),
   plain (trafficText "Out" (snapshot.outbound service.id)),
   plain "Connected"] ++
    (snapshot.connected service.id).map (fun peer => button peer.name (.selectService peer.id)) ++
    [button "Clear Selection" .clearSelection]

/-! ## Everything -/

namespace Session

/-- All texts of a session. -/
def texts [Scalar κ] (s : Session κ ν) (now : Int64) : List (PanelText κ ν) :=
  headerTexts s now ++
    match s.map.selectedService?, s.map.snapshot with
    | some service, some snapshot => infoTexts snapshot service
    | _, _ => []

/-- The message that pressing the first text with the given wording sends. -/
def pressed? [Scalar κ] (s : Session κ ν) (now : Int64) (wording : String) :
    Option (PanelText κ ν) :=
  (s.texts now).find? (·.text == wording)

end Session

end TrafficMap
