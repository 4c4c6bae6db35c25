import Mathlib.Logic.Function.Iterate
import TrafficMap.Proofs.Session.Update

/-!
# Sessions: Independent Parts

A session is several small machines side by side: the zoom level, the switch for periodic polling,
the size of the canvas, the snapshot, and the poll gate. Each hears some of the messages and nothing
else changes it, so after a run its state is told by those messages alone. `handleAll_hears` turns
what a part does at one message into what it does in a run; the rest of the module says for every
part what it hears and what it does then.

The selection is not among the parts, for it depends on all of the others but the gate.
-/

namespace TrafficMap

variable {κ ν : Type}

/-! ## What the parts hear -/

/-- What the user does to the zoom level. -/
inductive ZoomStep where
  | larger
  | smaller
  | reset

/-- The zoom level in tenths after a step: from 5 to 20, wherever the step leads. -/
def ZoomStep.apply (tenths : Nat) : ZoomStep → Nat
  | .larger => max 5 (min (tenths + 1) 20)
  | .smaller => max 5 (min (tenths - 1) 20)
  | .reset => 10

/-- What the poll gate hears of. -/
inductive GateCall where
  | request
  | success
  | failure (error : String)

/-- The gate after a call, as if every success came at time zero. The time of the last success is
left out, since it depends on when a message is handled. -/
def GateCall.apply (g : Gate) : GateCall → Gate
  | .request => g.begin?.2
  | .success => g.succeed 0
  | .failure error => g.fail error

namespace Message

/-- The zoom step that the message asks for. -/
@[simp]
def zoomStep? : Message κ ν → Option ZoomStep
  | .zoomIn => some .larger
  | .zoomOut => some .smaller
  | .zoomReset => some .reset
  | _ => none

@[simp]
def isToggle : Message κ ν → Bool
  | .toggleAutoRefresh => true
  | _ => false

@[simp]
def reportedSize? : Message κ ν → Option (Size κ)
  | .viewportResized size => some size
  | .canvasClicked _ viewport => some viewport
  | _ => none

@[simp]
def snapshot? : Message κ ν → Option (Snapshot κ ν)
  | .fetched (.ok snapshot) => some snapshot
  | _ => none

/-- What the gate hears of the message. -/
@[simp]
def gateCall? : Message κ ν → Option GateCall
  | .pollTick | .refreshNow => some .request
  | .fetched (.ok _) => some .success
  | .fetched (.error error) => some (.failure error)
  | _ => none

/-- The message is a tick or a result, and not something that the user does. -/
def isBackground : Message κ ν → Bool
  | .pollTick | .fetched _ => true
  | _ => false

/-- What the user sets hears of nothing but the user. -/
theorem unheard_of_isBackground {message : Message κ ν} (h : message.isBackground = true) :
    message.zoomStep? = none ∧ message.reportedSize? = none ∧ message.isToggle = false := by
  cases message with
  | pollTick => exact ⟨rfl, rfl, rfl⟩
  | fetched result => exact ⟨rfl, rfl, rfl⟩
  | _ => cases h

end Message

/-- All that a gate knows, with time zero in the place of the time of the last success. -/
def Gate.timeless (g : Gate) : Gate :=
  { g with lastSuccess := g.lastSuccess.map fun _ => 0 }

theorem Zoom.eq_of_tenths {a b : Zoom} (h : a.tenths = b.tenths) : a = b := by
  cases a
  cases b
  cases h
  rfl

/-! ## From one message to a run -/

/-- Where each value replaces the one before, the last one is left. -/
theorem foldl_replace {α β : Type} (f : α → β) (b : β) (xs : List α) :
    xs.foldl (fun _ x => f x) b = (xs.getLast?.map f).getD b := by
  induction xs generalizing b with
  | nil => rfl
  | cons x xs ih =>
    rw [List.foldl_cons, ih, List.getLast?_cons]
    cases xs.getLast? <;> rfl

theorem getD_map_some {α : Type} (o : Option α) : (o.map some).getD none = o := by
  cases o <;> rfl

/-- What is not heard may be left out. -/
theorem filterMap_filter_of_unheard {α ι : Type} {hears : α → Option ι} {p : α → Bool}
    (h : ∀ x, p x = false → hears x = none) (xs : List α) :
    (xs.filter p).filterMap hears = xs.filterMap hears := by
  rw [List.filterMap_filter]
  congr 1
  funext x
  cases hp : p x with
  | false => exact (h x hp).symm
  | true => rfl

namespace Session

variable [Scalar κ]

section Hearing

variable {τ ι : Type} (part : Session κ ν → τ) (hears : Int64 × Message κ ν → Option ι)

/-- A part of a session that answers every message that it hears by `apply`, and is left alone by
every other message, folds what it hears. -/
theorem handleAll_hears (apply : τ → ι → τ)
    (hstep : ∀ s e, part (s.update e.1 e.2).1 = (hears e).elim (part s) (apply (part s)))
    (s : Session κ ν) (messages : List (Int64 × Message κ ν)) :
    part (s.handleAll messages) = (messages.filterMap hears).foldl apply (part s) := by
  induction messages generalizing s with
  | nil => rfl
  | cons e rest ih =>
    rw [handleAll_cons, ih, hstep]
    cases he : hears e with
    | none => rw [List.filterMap_cons_none he, Option.elim_none]
    | some i => rw [List.filterMap_cons_some he, Option.elim_some, List.foldl_cons]

/-- A part that takes over what it hears is left with what it has heard last. -/
theorem handleAll_replaces (value : ι → τ)
    (hstep : ∀ s e, part (s.update e.1 e.2).1 = ((hears e).map value).getD (part s))
    (s : Session κ ν) (messages : List (Int64 × Message κ ν)) :
    part (s.handleAll messages) =
      ((messages.filterMap hears).getLast?.map value).getD (part s) := by
  rw [handleAll_hears part hears (fun _ i => value i), foldl_replace]
  intro s e
  rw [hstep]
  cases hears e <;> rfl

end Hearing

/-! ## The parts of the map -/

/-- What one message does to each part of the map: its own change if the message is meant for it,
and otherwise nothing. -/
theorem parts_updateMap (m : MapState κ ν) (message : Message κ ν) :
    (updateMap m message).view.zoom.tenths =
        message.zoomStep?.elim m.view.zoom.tenths (ZoomStep.apply m.view.zoom.tenths) ∧
      (updateMap m message).view.autoRefresh = (message.isToggle ^^ m.view.autoRefresh) ∧
      (updateMap m message).view.viewport = message.reportedSize?.getD m.view.viewport ∧
      (updateMap m message).snapshot = message.snapshot?.or m.snapshot := by
  -- The one place where every message meets every part; all else about runs goes through it.
  cases message with
  | fetched result => cases result <;> simp [updateMap, MapState.showSnapshot]
  | toggleAutoRefresh => simp [updateMap, MapState.toggleAutoRefresh]
  | zoomIn => simp [updateMap, Zoom.zoomedIn, Zoom.ofTenths, ZoomStep.apply]
  | zoomOut => simp [updateMap, Zoom.zoomedOut, Zoom.ofTenths, ZoomStep.apply]
  | zoomReset => simp [updateMap, Zoom.normal, ZoomStep.apply]
  | viewportResized size => simp [updateMap, MapState.resize]
  | canvasClicked position viewport => simp [updateMap]
  | selectService id => simp [updateMap]
  | clearSelection => simp [updateMap]
  | pollTick => simp [updateMap]
  | refreshNow => simp [updateMap]

/-! ## The gate -/

omit [Scalar κ] in
/-- Whether a request is granted is no matter of time. -/
theorem timeless_begin? (g : Gate) : g.begin?.2.timeless = g.timeless.begin?.2 := by
  cases h : g.inFlight <;> simp [Gate.begin?, Gate.timeless, h]

/-- What one message does to the gate. The time of the message counts for a success only, and then
for nothing but the time of the last success. -/
theorem gate_update (s : Session κ ν) (now : Int64) (message : Message κ ν) :
    (s.update now message).1.gate.timeless =
        message.gateCall?.elim s.gate.timeless (GateCall.apply s.gate.timeless) ∧
      (s.update now message).1.gate.lastSuccess =
        (message.snapshot?.map fun _ => now).or s.gate.lastSuccess := by
  have hask : s.askForFetch.1.gate = s.gate.begin?.2 := rfl
  have hlast : s.gate.begin?.2.lastSuccess = s.gate.lastSuccess := by
    cases h : s.gate.inFlight <;> simp [Gate.begin?, h]
  cases message with
  | pollTick => exact ⟨timeless_begin? s.gate, hlast⟩
  | refreshNow => exact ⟨timeless_begin? s.gate, hlast⟩
  | fetched result => cases result <;> exact ⟨rfl, rfl⟩
  | _ => exact ⟨rfl, rfl⟩

/-! ## Main statement -/

/-- Every part of the session is told by the messages that it hears. Each part has its own fold over
the messages, in which those meant for other parts do not occur. -/
structure IsToldBy (s : Session κ ν) (autoRefresh : Bool) (messages : List (Int64 × Message κ ν)) :
    Prop where
  /-- The zoom steps lead from 100 % to the zoom level. -/
  zoom : s.map.view.zoom.tenths =
    (messages.filterMap fun e => e.2.zoomStep?).foldl ZoomStep.apply 10
  /-- Every toggle turns periodic polling on or off. -/
  autoRefresh : s.map.view.autoRefresh =
    Bool.not^[messages.countP fun e => e.2.isToggle] autoRefresh
  /-- The size of the canvas is the one reported last. -/
  viewport : s.map.view.viewport =
    (messages.filterMap fun e => e.2.reportedSize?).getLast?.getD .zero
  /-- The snapshot is the one that came last, as it came. -/
  snapshot : s.map.snapshot = (messages.filterMap fun e => e.2.snapshot?).getLast?
  /-- The gate has answered the requests and the results, and nothing else. -/
  gate : s.gate.timeless =
    (messages.filterMap fun e => e.2.gateCall?).foldl GateCall.apply .initial
  /-- The last success was when the last snapshot came. -/
  lastSuccess : s.gate.lastSuccess =
    (messages.filterMap fun e => e.2.snapshot?.map fun _ => e.1).getLast?

theorem isToldBy_handleAll (interval : UInt64) (autoRefresh : Bool)
    (messages : List (Int64 × Message κ ν)) :
    ((initial interval autoRefresh).handleAll messages).IsToldBy autoRefresh messages where
  zoom := by
    apply handleAll_hears (·.map.view.zoom.tenths)
    intro s e
    rw [map_update]
    exact (parts_updateMap s.map e.2).1
  autoRefresh := by
    -- To count the toggles and to fold them is the same.
    rw [List.countP_eq_length_filter, ← List.filterMap_eq_filter, ← List.foldl_const]
    apply handleAll_hears (·.map.view.autoRefresh)
    intro s e
    rw [map_update, (parts_updateMap s.map e.2).2.1, Option.guard]
    cases e.2.isToggle <;> simp
  viewport := by
    have h := handleAll_replaces (·.map.view.viewport) (·.2.reportedSize?) id ?_
      (initial interval autoRefresh) messages
    · rwa [Option.map_id] at h
    · intro s e
      rw [map_update, Option.map_id]
      exact (parts_updateMap s.map e.2).2.2.1
  snapshot := by
    rw [handleAll_replaces (·.map.snapshot) (·.2.snapshot?) some]
    · exact getD_map_some _
    · intro s e
      rw [map_update, (parts_updateMap s.map e.2).2.2.2]
      cases e.2.snapshot? <;> rfl
  gate := by
    apply handleAll_hears (·.gate.timeless)
    intro s e
    exact (gate_update s e.1 e.2).1
  lastSuccess := by
    rw [handleAll_replaces (·.gate.lastSuccess) (fun e => e.2.snapshot?.map fun _ => e.1) some]
    · exact getD_map_some _
    · intro s e
      rw [(gate_update s e.1 e.2).2]
      cases e.2.snapshot? <;> rfl

/-- Ticks and results, wherever they come in between, leave alone what the user has set. -/
theorem foreground_handleAll (interval : UInt64) (autoRefresh : Bool)
    (messages : List (Int64 × Message κ ν)) :
    let s : Session κ ν := (initial interval autoRefresh).handleAll messages
    let quiet : Session κ ν := (initial interval autoRefresh).handleAll
      (messages.filter fun e => !e.2.isBackground)
    s.map.view.zoom = quiet.map.view.zoom ∧ s.map.view.viewport = quiet.map.view.viewport ∧
      s.map.view.autoRefresh = quiet.map.view.autoRefresh := by
  intro s quiet
  have hs : s.IsToldBy autoRefresh messages := isToldBy_handleAll interval autoRefresh messages
  have hquiet : quiet.IsToldBy autoRefresh (messages.filter fun e => !e.2.isBackground) :=
    isToldBy_handleAll interval autoRefresh _
  -- Each part hears some messages and is told by those alone, and none of them is in the
  -- background.
  have hunheard (e : Int64 × Message κ ν) (h : (!e.2.isBackground) = false) :
      e.2.zoomStep? = none ∧ e.2.reportedSize? = none ∧ e.2.isToggle = false :=
    Message.unheard_of_isBackground (by simpa using h)
  refine ⟨Zoom.eq_of_tenths ?_, ?_, ?_⟩
  · rw [hs.zoom, hquiet.zoom, filterMap_filter_of_unheard fun e h => (hunheard e h).1]
  · rw [hs.viewport, hquiet.viewport,
      filterMap_filter_of_unheard fun e h => (hunheard e h).2.1]
  · have hkept (e : Int64 × Message κ ν) : (e.2.isToggle && !e.2.isBackground) = e.2.isToggle := by
      cases h : !e.2.isBackground with
      | false => rw [(hunheard e h).2.2, Bool.false_and]
      | true => rw [Bool.and_true]
    simp only [hs.autoRefresh, hquiet.autoRefresh, List.countP_filter, hkept]

/-- **The parts of a session are independent.** After any messages from a fresh session on, the zoom
level, the switch for periodic polling, the size of the canvas, the snapshot and the gate are each
told by the messages that they hear. So ticks and results never touch what the user has set,
whenever they come, and a failed fetch is a matter of the gate alone.

Message by message, `parts_updateMap` and `gate_update` say which parts change and how. Each part is
then a fold of its own, in which the messages that it does not hear may be left out. -/
theorem told_by_messages (interval : UInt64) (autoRefresh : Bool)
    (messages : List (Int64 × Message κ ν)) :
    let s : Session κ ν := (initial interval autoRefresh).handleAll messages
    let quiet : Session κ ν := (initial interval autoRefresh).handleAll
      (messages.filter fun e => !e.2.isBackground)
    s.IsToldBy autoRefresh messages ∧
      (s.map.view.zoom = quiet.map.view.zoom ∧ s.map.view.viewport = quiet.map.view.viewport ∧
        s.map.view.autoRefresh = quiet.map.view.autoRefresh) ∧
      ∀ now error, (s.update now (.fetched (.error error))).1 =
        { s with gate := s.gate.fail error } :=
  ⟨isToldBy_handleAll interval autoRefresh messages,
    foreground_handleAll interval autoRefresh messages,
    fun now error => congrArg Prod.fst (update_failure _ now error)⟩

end Session

end TrafficMap
