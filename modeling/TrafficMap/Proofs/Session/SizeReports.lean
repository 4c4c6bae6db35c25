import Mathlib
import TrafficMap.Proofs.Session.Independence
import TrafficMap.Proofs.Session.Pointer

/-!
# Sessions: Reports of the Canvas Size

The canvas compares its size with the one in the view, which it can change in one way only: by a
message to the session. It sends that message when an event gives it nothing else to say, so a
report never takes the place of what the user has asked for, and it waits where there is more to
say.

This settles. A click brings the size along as a report does, and nothing else changes the size in
the view. So while the canvas keeps its size, there is at most one report, and none after a click.
-/

namespace TrafficMap

open Float.Model (UnpackedFloat)

variable {ν : Type}

/-! ## What events ask for -/

/-- The event asks for the message, on a canvas of the given size and with the given place of the
cursor on it. This is the table of the meanings, one line for each, and no event has two. -/
inductive CanvasEvent.AsksFor :
    CanvasEvent Float32 → Size Float32 → Option (Point Float32) → Message Float32 ν → Prop
  | click (size : Size Float32) (p : Point Float32) :
      AsksFor (.pressed .left) size (some p) (.canvasClicked p size)
  | linesUp (size : Size Float32) (p : Point Float32) {y : Float32} (h : 0.0 < y) :
      AsksFor (.scrolledLines y) size (some p) .zoomIn
  | linesDown (size : Size Float32) (p : Point Float32) {y : Float32} (h : y < 0.0) :
      AsksFor (.scrolledLines y) size (some p) .zoomOut
  | pixelsUp (size : Size Float32) (p : Point Float32) {y : Float32} (h : 0.0 < y / 50.0) :
      AsksFor (.scrolledPixels y) size (some p) .zoomIn
  | pixelsDown (size : Size Float32) (p : Point Float32) {y : Float32} (h : y / 50.0 < 0.0) :
      AsksFor (.scrolledPixels y) size (some p) .zoomOut
  /-- Keys are heard wherever the cursor is. -/
  | plusKey (size : Size Float32) (inside : Option (Point Float32)) {text : String}
      (h : text = "+" ∨ text = "=") :
      AsksFor (.keyPressed (.character text)) size inside .zoomIn
  | minusKey (size : Size Float32) (inside : Option (Point Float32)) :
      AsksFor (.keyPressed (.character "-")) size inside .zoomOut
  | zeroKey (size : Size Float32) (inside : Option (Point Float32)) :
      AsksFor (.keyPressed (.character "0")) size inside .zoomReset
  | escapeKey (size : Size Float32) (inside : Option (Point Float32)) :
      AsksFor (.keyPressed .escape) size inside .clearSelection

/-- What zero is less than is greater than zero. -/
theorem compare_zero_of_zero_lt {s : UnpackedFloat.Sign} {v : UnpackedFloat}
    (h : (UnpackedFloat.zero s).compare v = some .lt) : v.compare (.zero s) = some .gt := by
  -- `compare` decides by constructor and sign, so every case computes or contradicts `h`.
  cases v with
  | infinity t =>
    cases t with
    | positive => rfl
    | negative => cases h
  | finite t m e hm =>
    cases t with
    | positive => rfl
    | negative => cases h
  | zero t => cases h
  | notANumber => cases h

/-- No number is above zero and below it. -/
theorem not_neg_of_pos {y : Float32} (h : 0.0 < y) : ¬ y < 0.0 := by
  have hlt (a b : Float32) : a < b ↔ a.toModel.unpack.compare b.toModel.unpack = some .lt := by
    show decide (UnpackedFloat.lt _ _ = true) = true ↔ _
    rw [decide_eq_true_iff, UnpackedFloat.lt, beq_iff_eq]
  have hgreater : y.toModel.unpack.compare (0.0 : Float32).toModel.unpack = some .gt :=
    compare_zero_of_zero_lt ((hlt _ _).mp h)
  rw [hlt, hgreater]
  decide

theorem CanvasEvent.zoomStep?_eq_some_iff {y : Float32} {message : Message Float32 ν} :
    zoomStep? y = some message ↔ 0.0 < y ∧ message = .zoomIn ∨ y < 0.0 ∧ message = .zoomOut := by
  unfold zoomStep?
  split
  case isTrue hpos =>
    have hneg := not_neg_of_pos hpos
    simp [hpos, hneg, eq_comm]
  case isFalse hpos =>
    split
    case isTrue hneg => simp [hpos, hneg, eq_comm]
    case isFalse hneg => simp [hpos, hneg]

/-- The canvas takes from an event what it asks for, and nothing from the other events. -/
theorem CanvasEvent.meaning?_eq_some_iff {event : CanvasEvent Float32} {size : Size Float32}
    {inside : Option (Point Float32)} {message : Message Float32 ν} :
    event.meaning? size inside = some message ↔ event.AsksFor size inside message := by
  constructor
  · intro h
    cases event with
    | pressed button =>
      cases button with
      | left =>
        obtain ⟨p, rfl, rfl⟩ := Option.map_eq_some_iff.mp h
        exact .click size p
      | _ => cases h
    | scrolledLines y =>
      obtain ⟨p, rfl, hstep⟩ := Option.bind_eq_some_iff.mp h
      obtain ⟨hpos, rfl⟩ | ⟨hneg, rfl⟩ := zoomStep?_eq_some_iff.mp hstep
      · exact .linesUp size p hpos
      · exact .linesDown size p hneg
    | scrolledPixels y =>
      obtain ⟨p, rfl, hstep⟩ := Option.bind_eq_some_iff.mp h
      obtain ⟨hpos, rfl⟩ | ⟨hneg, rfl⟩ := zoomStep?_eq_some_iff.mp hstep
      · exact .pixelsUp size p hpos
      · exact .pixelsDown size p hneg
    | keyPressed key =>
      cases key with
      | character text =>
        rw [meaning?, keyMeaning?] at h
        -- Two texts zoom in, so there the text stays a variable with a disjunction about it.
        split at h
        · cases h
          exact .plusKey size inside ‹_›
        split at h
        · cases h
          subst_vars
          exact .minusKey size inside
        split at h
        · cases h
          subst_vars
          exact .zeroKey size inside
        · cases h
      | escape =>
        cases h
        exact .escapeKey size inside
      | other => cases h
    | _ => cases h
  · intro h
    cases h with
    | click => rfl
    | linesUp size p h => exact zoomStep?_eq_some_iff.mpr (Or.inl ⟨h, rfl⟩)
    | linesDown size p h => exact zoomStep?_eq_some_iff.mpr (Or.inr ⟨h, rfl⟩)
    | pixelsUp size p h => exact zoomStep?_eq_some_iff.mpr (Or.inl ⟨h, rfl⟩)
    | pixelsDown size p h => exact zoomStep?_eq_some_iff.mpr (Or.inr ⟨h, rfl⟩)
    | plusKey size inside h => simp [meaning?, keyMeaning?, h]
    | minusKey => rfl
    | zeroKey => rfl
    | escapeKey => rfl

/-- No event asks for a report of the size. -/
theorem CanvasEvent.AsksFor.isSizeReport {event : CanvasEvent Float32} {size : Size Float32}
    {inside : Option (Point Float32)} {message : Message Float32 ν}
    (h : event.AsksFor size inside message) : message.isSizeReport = false := by
  cases h <;> rfl

/-! ## What the canvas publishes -/

/-- The two sizes compare as equal. On numbers this is equality, but a size that is no number
differs from itself. -/
def Size.IsSame (a b : Size Float32) : Prop :=
  (a.width == b.width) = true ∧ (a.height == b.height) = true

/-- A size that is a number compares as equal with itself. -/
theorem Size.isSame_self {size : Size Float32} (hwidth : size.width.isNaN = false)
    (hheight : size.height.isNaN = false) : size.IsSame size := by
  -- Comparison of floats is reflexive except at the one value that is no number.
  rw [Float32.isNaN_eq_decide_eq_nan, decide_eq_false_iff_not] at hwidth hheight
  exact ⟨Float32.beq_self_iff.mpr hwidth, Float32.beq_self_iff.mpr hheight⟩

namespace MapState

theorem resizeReport?_eq_some_iff {m : MapState Float32 ν} {size : Size Float32}
    {message : Message Float32 ν} :
    m.resizeReport? size = some message ↔
      ¬ size.IsSame m.view.viewport ∧ message = .viewportResized size := by
  have hsame : size.IsSame m.view.viewport ↔
      (size.width == m.view.viewport.width && size.height == m.view.viewport.height) = true := by
    rw [Size.IsSame, Bool.and_eq_true]
  rw [resizeReport?, hsame]
  split
  case isTrue h => simp [h]
  case isFalse h => simp [h, eq_comm]

/-- What an event asks for comes first, and a report of the size only where there is nothing. -/
theorem answer?_eq_some_iff {m : MapState Float32 ν} {event : CanvasEvent Float32}
    {size : Size Float32} {inside : Option (Point Float32)} {message : Message Float32 ν} :
    m.answer? event size inside = some message ↔
      event.AsksFor size inside message ∨
        (∀ asked : Message Float32 ν, ¬ event.AsksFor size inside asked) ∧
          ¬ size.IsSame m.view.viewport ∧ message = .viewportResized size := by
  simp only [← CanvasEvent.meaning?_eq_some_iff, ← resizeReport?_eq_some_iff]
  rw [answer?]
  cases event.meaning? size inside with
  | some asked => simp
  | none => simp

/-- A canvas whose size is already in the view has nothing to report. -/
theorem isSizeReport_of_isSame {m : MapState Float32 ν} {event : CanvasEvent Float32}
    {size : Size Float32} {inside : Option (Point Float32)} {message : Message Float32 ν}
    (hsame : size.IsSame m.view.viewport) (h : m.answer? event size inside = some message) :
    message.isSizeReport = false := by
  rcases answer?_eq_some_iff.mp h with hasks | ⟨-, hdiffers, -⟩
  · exact hasks.isSizeReport
  · exact absurd hsame hdiffers

/-- Whatever the canvas says about its size, by a click or by a report, is its size. -/
theorem eq_of_reportedSize? {m : MapState Float32 ν} {event : CanvasEvent Float32}
    {size reported : Size Float32} {inside : Option (Point Float32)} {message : Message Float32 ν}
    (h : m.answer? event size inside = some message)
    (hreported : message.reportedSize? = some reported) : reported = size := by
  rcases answer?_eq_some_iff.mp h with hasks | ⟨-, -, rfl⟩
  · cases hasks with
    | click size p =>
      cases hreported
      rfl
    | _ => cases hreported
  · cases hreported
    rfl

end MapState

/-! ## Occasions -/

/-- An event on a canvas that keeps its size, and all that the session handles until the next one
besides what the canvas publishes. Those are ticks and results of fetches, or anything else that
does not bring a size along. -/
structure Occasion (ν : Type) where
  event : CanvasEvent Float32
  /-- The upper left corner of the canvas, as a point of the window. -/
  corner : Point Float32
  /-- The cursor, as a point of the window. -/
  cursor : Option (Point Float32)
  earlier : List (Int64 × Message Float32 ν)
  /-- When the session handles what the canvas publishes. -/
  time : Int64
  later : List (Int64 × Message Float32 ν)
  /-- Only the canvas tells its size. -/
  sizeless : ∀ e ∈ earlier ++ later, e.2.reportedSize? = none

namespace Session

/-- What a canvas of the given size publishes on the occasion. -/
def published? (s : Session Float32 ν) (size : Size Float32) (o : Occasion ν) :
    Option (Message Float32 ν) :=
  s.map.publishIn? o.event ⟨o.corner, size⟩ o.cursor

/-- The session when all that belongs to the occasion has been handled. -/
def afterOccasion (s : Session Float32 ν) (size : Size Float32) (o : Occasion ν) :
    Session Float32 ν :=
  s.handleAll (o.earlier ++ (s.published? size o).toList.map (o.time, ·) ++ o.later)

/-- All that a canvas of the given size publishes on one occasion after the other. -/
def publishedAll (s : Session Float32 ν) (size : Size Float32) :
    List (Occasion ν) → List (Message Float32 ν)
  | [] => []
  | o :: rest => (s.published? size o).toList ++ (s.afterOccasion size o).publishedAll size rest

/-! ## One occasion -/

/-- The size in the view is the one that the canvas tells, if it tells one. Everything else that is
handled on the occasion has nothing to say about the size. -/
theorem viewport_afterOccasion (s : Session Float32 ν) (size : Size Float32) (o : Occasion ν) :
    (s.afterOccasion size o).map.view.viewport =
      ((s.published? size o).bind (·.reportedSize?)).getD s.map.view.viewport := by
  have hstep (s : Session Float32 ν) (e : Int64 × Message Float32 ν) :
      (s.update e.1 e.2).1.map.view.viewport =
        (e.2.reportedSize?.map id).getD s.map.view.viewport := by
    rw [map_update, Option.map_id]
    exact (parts_updateMap s.map e.2).2.2.1
  have hquiet {messages : List (Int64 × Message Float32 ν)}
      (h : ∀ e ∈ messages, e.2.reportedSize? = none) :
      messages.filterMap (·.2.reportedSize?) = [] := List.filterMap_eq_nil_iff.mpr h
  have hearlier := hquiet fun e he => o.sizeless e (List.mem_append_left o.later he)
  have hlater := hquiet fun e he => o.sizeless e (List.mem_append_right o.earlier he)
  rw [afterOccasion, handleAll_replaces (·.map.view.viewport) (·.2.reportedSize?) id hstep,
    List.filterMap_append, List.filterMap_append, hearlier, hlater, List.nil_append,
    List.append_nil, Option.map_id]
  -- What is left is the one message of the canvas.
  cases s.published? size o with
  | none => rfl
  | some message => cases message <;> rfl

/-- The size of the canvas is in the view. From then on the canvas has nothing to report as long as
it keeps the size. -/
def IsSettled (s : Session Float32 ν) (size : Size Float32) : Prop :=
  size.IsSame s.map.view.viewport

variable {size : Size Float32}

/-- Once the size is in the view, it stays there. This is the step; all occasions follow from it by
induction. -/
theorem IsSettled.afterOccasion (hsize : size.IsSame size) {s : Session Float32 ν}
    (h : s.IsSettled size) (o : Occasion ν) : (s.afterOccasion size o).IsSettled size := by
  rw [IsSettled, viewport_afterOccasion]
  cases hreported : (s.published? size o).bind (·.reportedSize?) with
  | none => exact h
  | some reported =>
    obtain ⟨message, hmessage, hreported⟩ := Option.bind_eq_some_iff.mp hreported
    rw [Option.getD_some, MapState.eq_of_reportedSize? hmessage hreported]
    exact hsize

/-- The size gets into the view with a report and with a click. -/
theorem isSettled_of_reportedSize? (hsize : size.IsSame size) {s : Session Float32 ν}
    {o : Occasion ν} {message : Message Float32 ν} (hmessage : s.published? size o = some message)
    (hreports : message.reportedSize? ≠ none) : (s.afterOccasion size o).IsSettled size := by
  obtain ⟨reported, hreported⟩ := Option.ne_none_iff_exists'.mp hreports
  -- A click reports the size as well, so both messages leave the same size behind.
  rw [IsSettled, viewport_afterOccasion, hmessage, Option.bind_some, hreported, Option.getD_some,
    MapState.eq_of_reportedSize? hmessage hreported]
  exact hsize

/-! ## All occasions -/

/-- Once the size is in the view, no report comes any more. -/
theorem IsSettled.publishedAll (hsize : size.IsSame size) {s : Session Float32 ν}
    (h : s.IsSettled size) (occasions : List (Occasion ν)) :
    ∀ message ∈ s.publishedAll size occasions, message.isSizeReport = false := by
  induction occasions generalizing s with
  | nil => simp [Session.publishedAll]
  | cons o rest ih =>
    intro message hmem
    rw [Session.publishedAll, List.mem_append] at hmem
    rcases hmem with hhead | hrest
    · exact MapState.isSizeReport_of_isSame h (Option.mem_toList.mp hhead)
    · exact ih (h.afterOccasion hsize o) message hrest

/-- No report follows a message that brings the size along. Reports and clicks both bring it
along. -/
theorem pairwise_publishedAll (hsize : size.IsSame size) (s : Session Float32 ν)
    (occasions : List (Occasion ν)) :
    (s.publishedAll size occasions).Pairwise fun earlier later =>
      earlier.reportedSize? ≠ none → later.isSizeReport = false := by
  induction occasions generalizing s with
  | nil => exact List.Pairwise.nil
  | cons o rest ih =>
    rw [publishedAll]
    cases hmessage : s.published? size o with
    | none => exact ih (s.afterOccasion size o)
    | some message =>
      rw [Option.toList_some, List.singleton_append, List.pairwise_cons]
      refine ⟨?_, ih (s.afterOccasion size o)⟩
      intro later hlater hreports
      -- The first message settles the size, and after that no report comes on any occasion.
      exact (isSettled_of_reportedSize? hsize hmessage hreports).publishedAll hsize rest later hlater

/-- Where no report follows another one, there is at most one. -/
theorem countP_isSizeReport_le_one {messages : List (Message Float32 ν)}
    (h : messages.Pairwise fun earlier later =>
      earlier.reportedSize? ≠ none → later.isSizeReport = false) :
    messages.countP (·.isSizeReport) ≤ 1 := by
  induction messages with
  | nil => exact Nat.zero_le 1
  | cons message rest ih =>
    rw [List.pairwise_cons] at h
    rw [List.countP_cons]
    cases hreport : message.isSizeReport with
    | false => simpa using ih h.2
    | true =>
      -- A report brings the size along, so the rest has none.
      have hreports : message.reportedSize? ≠ none := by
        cases message with
        | viewportResized size => simp
        | _ => cases hreport
      have hnone : rest.countP (·.isSizeReport) = 0 := by
        rw [List.countP_eq_zero]
        intro later hlater
        simp [h.1 later hlater hreports]
      simp [hnone]

/-! ## Main statement -/

/-- **Reports of the size settle, and take nothing away.** What the canvas publishes for an event is
what the event asks for. If it asks for nothing, the canvas reports its size exactly when that
differs from the one in the view. As long as a canvas keeps its size, it reports it once at most, on
whatever occasions, and no more after a click.

Once the size is in the view it stays there (`IsSettled`), as only the canvas tells its size. A size
that is no number would never settle: it differs from itself. -/
theorem size_reports_settle (size : Size Float32) (hwidth : size.width.isNaN = false)
    (hheight : size.height.isNaN = false) (s : Session Float32 ν) :
    (∀ event corner cursor message,
      s.map.publishIn? event ⟨corner, size⟩ cursor = some message ↔
        event.AsksFor size ((Bounds.mk corner size).inside? cursor) message ∨
          (∀ asked : Message Float32 ν,
            ¬ event.AsksFor size ((Bounds.mk corner size).inside? cursor) asked) ∧
          ¬ size.IsSame s.map.view.viewport ∧ message = .viewportResized size) ∧
      (∀ event cursor message,
        s.map.publish? event size cursor = some message ↔
          event.AsksFor size (cursor.filter size.covers) message ∨
            (∀ asked : Message Float32 ν,
              ¬ event.AsksFor size (cursor.filter size.covers) asked) ∧
            ¬ size.IsSame s.map.view.viewport ∧ message = .viewportResized size) ∧
      ∀ occasions : List (Occasion ν),
        (s.publishedAll size occasions).countP (·.isSizeReport) ≤ 1 ∧
          ∀ before p clicked after,
            s.publishedAll size occasions = before ++ .canvasClicked p clicked :: after →
            ∀ message ∈ after, message.isSizeReport = false := by
  have hsize := Size.isSame_self hwidth hheight
  refine ⟨?_, ?_, ?_⟩
  · intro event corner cursor message
    exact MapState.answer?_eq_some_iff
  · intro event cursor message
    exact MapState.answer?_eq_some_iff
  · intro occasions
    have hpairwise := pairwise_publishedAll hsize s occasions
    refine ⟨countP_isSizeReport_le_one hpairwise, ?_⟩
    intro before p clicked after hall message hmessage
    -- A click brings the size along, so what holds after a report holds after it.
    rw [hall, List.pairwise_append, List.pairwise_cons] at hpairwise
    exact hpairwise.2.1.1 message hmessage (by simp)

/-- The first of three events gets the size reported, the second one is a click, and for the third
one there is nothing left to say. -/
theorem size_reports_settle_of_click :
    ((800.0 : Float32).isNaN = false ∧ (600.0 : Float32).isNaN = false) ∧
      let s : Session Float32 Float := .initial 2000 true
      let size : Size Float32 := ⟨800.0, 600.0⟩
      let cursor : Option (Point Float32) := some ⟨10.0, 10.0⟩
      let occasions : List (Occasion Float) :=
        [⟨.redraw, .origin, cursor, [], 0, [(1, .pollTick)], by simp⟩,
          ⟨.pressed .left, .origin, cursor, [(2, .fetched (.error "refused"))], 3, [], by simp⟩,
          ⟨.redraw, .origin, cursor, [], 4, [], by simp⟩]
      (s.publishedAll size occasions).map (·.isSizeReport) = [true, false] ∧
        (s.publishedAll size occasions).countP (·.isSizeReport) ≤ 1 := by
  have hnumbers : (800.0 : Float32).isNaN = false ∧ (600.0 : Float32).isNaN = false := by decide
  refine ⟨hnumbers, ?_⟩
  intro s size cursor occasions
  refine ⟨by decide +kernel, ?_⟩
  -- The count is not read off the run of these three, but taken from the statement on all runs.
  exact ((size_reports_settle size hnumbers.1 hnumbers.2 s).2.2 occasions).1

end Session

end TrafficMap
