import TrafficMap.Session.State

/-!
# Sessions: What a Message Does

`Session.update` by kinds of message. A message asks for a fetch, ends one, or does neither; the
gate hears of the first two kinds only, and nothing but a granted request launches a fetch. For the
map there are lemmas on what a change leaves in the view and in the snapshot.
-/

namespace TrafficMap

variable {κ ν : Type}

/-! ## Kinds of messages -/

namespace Message

/-- The message asks for a fetch. -/
def asks : Message κ ν → Bool
  | .pollTick | .refreshNow => true
  | _ => false

/-- The message brings the result of a fetch. -/
def isResult : Message κ ν → Bool
  | .fetched _ => true
  | _ => false

end Message

namespace Session

variable [Scalar κ]

/-! ## Asking for a fetch -/

omit [Scalar κ] in
theorem askForFetch_of_idle {s : Session κ ν} (h : s.gate.inFlight = false) :
    s.askForFetch = ({ s with gate := { s.gate with inFlight := true } }, .fetch) := by
  simp [askForFetch, Gate.begin?, h]

omit [Scalar κ] in
theorem askForFetch_of_inFlight {s : Session κ ν} (h : s.gate.inFlight = true) :
    s.askForFetch =
      ({ s with gate := { s.gate with skipped := s.gate.skipped + 1 } }, .nothing) := by
  simp [askForFetch, Gate.begin?, h]

theorem update_of_asks {message : Message κ ν} (h : message.asks = true) (s : Session κ ν)
    (now : Int64) : s.update now message = s.askForFetch := by
  cases message with
  | pollTick => rfl
  | refreshNow => rfl
  | _ => cases h

/-! ## The other messages -/

/-- A message that neither asks for a fetch nor ends one is a matter of the map. -/
theorem update_of_view {message : Message κ ν} (hasks : message.asks = false)
    (hresult : message.isResult = false) (s : Session κ ν) (now : Int64) :
    s.update now message = ({ s with map := updateMap s.map message }, .nothing) := by
  cases message with
  | pollTick => cases hasks
  | refreshNow => cases hasks
  | fetched result => cases hresult
  | _ => rfl

theorem update_success (s : Session κ ν) (now : Int64) (snapshot : Snapshot κ ν) :
    s.update now (.fetched (.ok snapshot)) =
      ({ s with map := s.map.showSnapshot snapshot, gate := s.gate.succeed now }, .nothing) := rfl

/-- A failure is a matter of the gate. -/
theorem update_failure (s : Session κ ν) (now : Int64) (error : String) :
    s.update now (.fetched (.error error)) = ({ s with gate := s.gate.fail error }, .nothing) := rfl

/-- Either result ends the fetch, and asks for nothing. -/
theorem update_result (s : Session κ ν) (now : Int64) (result : Except String (Snapshot κ ν)) :
    (s.update now (.fetched result)).2 = .nothing ∧
      (s.update now (.fetched result)).1.gate.inFlight = false ∧
      (s.update now (.fetched result)).1.gate.skipped = s.gate.skipped := by
  cases result <;> exact ⟨rfl, rfl, rfl⟩

/-! ## The map -/

/-- What a message does to the map is told by the map alone; a request is a matter of the gate. -/
theorem map_update (s : Session κ ν) (now : Int64) (message : Message κ ν) :
    (s.update now message).1.map = updateMap s.map message := by
  cases message with
  | fetched result => cases result <;> rfl
  | _ => rfl

/-! ## Runs of messages -/

/-- The session after messages, each with the time at which it is handled. -/
def handleAll (s : Session κ ν) (messages : List (Int64 × Message κ ν)) : Session κ ν :=
  messages.foldl (fun s e => (s.update e.1 e.2).1) s

@[simp]
theorem handleAll_cons (s : Session κ ν) (e : Int64 × Message κ ν)
    (messages : List (Int64 × Message κ ν)) :
    s.handleAll (e :: messages) = (s.update e.1 e.2).1.handleAll messages := rfl

@[simp]
theorem handleAll_concat (s : Session κ ν) (messages : List (Int64 × Message κ ν))
    (e : Int64 × Message κ ν) :
    s.handleAll (messages ++ [e]) = ((s.handleAll messages).update e.1 e.2).1 := by
  simp [handleAll]

/-! ## The view -/

omit [Scalar κ] in
/-- A step to the present zoom level is no exception. -/
@[simp]
theorem view_zoomTo (m : MapState κ ν) (zoom : Zoom) :
    (m.zoomTo zoom).view = { m.view with zoom } := by
  unfold MapState.zoomTo
  split
  case isTrue h => rw [h]
  case isFalse => rfl

omit [Scalar κ] in
@[simp]
theorem view_select (m : MapState κ ν) (selected : Option String) :
    (m.select selected).view = { m.view with selected } := by
  unfold MapState.select
  split
  case isTrue h => rw [h]
  case isFalse => rfl

/-- The mapping of the view, once it has taken the size over, is the one for that size. -/
theorem click_eq (m : MapState κ ν) (p : Point κ) (size : Size κ) :
    m.click p size = (m.resize size).select ((m.serviceUnder? p size).map (·.id)) := rfl

/-- A click reports the size of the canvas along with the selection. -/
@[simp]
theorem view_click (m : MapState κ ν) (p : Point κ) (size : Size κ) :
    (m.click p size).view =
      { m.view with viewport := size, selected := (m.serviceUnder? p size).map (·.id) } := by
  rw [click_eq, view_select]
  rfl

/-! ## The snapshot -/

omit [Scalar κ] in
@[simp]
theorem snapshot_zoomTo (m : MapState κ ν) (zoom : Zoom) :
    (m.zoomTo zoom).snapshot = m.snapshot := by
  unfold MapState.zoomTo
  split <;> rfl

omit [Scalar κ] in
@[simp]
theorem snapshot_select (m : MapState κ ν) (selected : Option String) :
    (m.select selected).snapshot = m.snapshot := by
  unfold MapState.select
  split <;> rfl

@[simp]
theorem snapshot_click (m : MapState κ ν) (p : Point κ) (size : Size κ) :
    (m.click p size).snapshot = m.snapshot :=
  snapshot_select (m.resize size) _

/-- Only a result changes the snapshot that is shown. -/
theorem snapshot_updateMap {message : Message κ ν} (h : message.isResult = false)
    (m : MapState κ ν) : (updateMap m message).snapshot = m.snapshot := by
  cases message with
  | fetched result => cases h
  | zoomIn => exact snapshot_zoomTo m _
  | zoomOut => exact snapshot_zoomTo m _
  | zoomReset => exact snapshot_zoomTo m _
  | canvasClicked position viewport => exact snapshot_click m position viewport
  | selectService id => exact snapshot_select m _
  | clearSelection => exact snapshot_select m _
  | pollTick => rfl
  | refreshNow => rfl
  | toggleAutoRefresh => rfl
  | viewportResized size => rfl

end Session

end TrafficMap
