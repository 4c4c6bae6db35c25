import Mathlib.Data.List.Forall2
import TrafficMap.Proofs.Number.Packing
import TrafficMap.Proofs.Report.NormalForm
import TrafficMap.Proofs.Topology.Neighbours
import TrafficMap.View.Frame

/-!
# Views: What a Frame Consists Of

A frame is a list of marks. The inductive predicates say which marks make up the picture of a band,
of a link, of a service and of a whole snapshot, and in which order. How thick marks are is left
open, and where they stand too, except that everything round about a service has the place of the
service as its center. Every frame is made of such pictures, and only those of services hold
anything round.

The main statement adds what follows for normal snapshots: no link is left out, and at most one
service is ringed.
-/

namespace TrafficMap

variable {κ ν : Type}

/-! ## Pictures -/

/-- A band is a line and then the title of its layer. -/
inductive BandPicture (layer : Layer) : List (Mark κ) → Prop where
  | mk {start finish : Point κ} {color : Color κ} {width : κ} {title : Label κ}
      (htitle : title.content = layer.title) :
      BandPicture layer [.line start finish color width, .label title]

/-- A link is a curve, an arrowhead of the same color, and above a volume of 50 the rate. -/
inductive LinkPicture [Scalar ν] (e : Link ν) : List (Mark κ) → Prop where
  | plain {curve : Curve κ} {arrow : Arrow κ} {color : Color κ} {width : κ}
      (hquiet : ¬ (50.0 : ν) < e.volume) :
      LinkPicture e [.curve curve color width, .arrow arrow color]
  | labelled {curve : Curve κ} {arrow : Arrow κ} {color : Color κ} {width : κ} {rate : Label κ}
      (hbusy : (50.0 : ν) < e.volume) (hrate : rate.content = rateText e.volume) :
      LinkPicture e [.curve curve color width, .arrow arrow color, .label rate]

section

variable [Scalar κ] (p : Projection κ)

/-- The ring for the health, the disc, its rim, and the lines of the name. -/
inductive BodyPicture (service : Service κ) : List (Mark κ) → Prop where
  | mk {ringRadius ringWidth rimWidth : κ} {lines : List (Label κ)}
      (hlines : lines.map (·.content) = shortenedWords service.name) :
      BodyPicture service
        (.circle (p.toScreen service.position) ringRadius (Palette.health service.health)
            ringWidth ::
          .disc (p.toScreen service.position) (p.scale discRadius) (Palette.layer service.layer)
            Palette.background ::
          .circle (p.toScreen service.position) (p.scale discRadius) (Palette.layer service.layer)
            rimWidth ::
          lines.map .label)

/-- The selected service has one more ring, behind everything else. The marks of one service stand
together, so a later one covers an earlier one as a whole. -/
inductive ServicePicture (selected : Option String) (service : Service κ) :
    List (Mark κ) → Prop where
  | plain {body : List (Mark κ)} (hother : selected ≠ some service.id)
      (hbody : BodyPicture p service body) : ServicePicture selected service body
  | ringed {radius width : κ} {body : List (Mark κ)} (hselected : selected = some service.id)
      (hbody : BodyPicture p service body) :
      ServicePicture selected service
        (.circle (p.toScreen service.position) radius Palette.selection width :: body)

/-- What stands between the bands and the zoom level: a note as long as there is no snapshot, and
then the links that join two services, in order, and the services, in order. Links lie below the
services, so that no disc is crossed by a curve. -/
inductive ContentPicture [Scalar ν] (selected : Option String) :
    Option (Snapshot κ ν) → List (Mark κ) → Prop where
  | waiting {note : Label κ} (hnote : note.content = "Waiting for topology snapshot...") :
      ContentPicture selected none [.label note]
  | shown {s : Snapshot κ ν} {links services : List (List (Mark κ))}
      (hlinks : List.Forall₂ LinkPicture
        (s.links.filter (·.joins (s.services.map (·.id)))) links)
      (hservices : List.Forall₂ (ServicePicture p selected) s.services services) :
      ContentPicture selected (some s) (links.flatten ++ services.flatten)

/-! ## Every frame is made of pictures -/

theorem exists_bandPictures :
    ∃ bands, allBandMarks p = bands.flatten ∧
      List.Forall₂ BandPicture [.frontend, .gateway, .platform, .business, .infrastructure]
        bands := by
  refine ⟨Layer.banded.zipIdx.map fun band => bandMarks p band.2 band.1, rfl, ?_⟩
  exact .cons (.mk rfl) (.cons (.mk rfl) (.cons (.mk rfl) (.cons (.mk rfl) (.cons (.mk rfl) .nil))))

/-- The lines of a name are labels, and they say what the lines say. -/
theorem exists_labels_nameMarks (center : Point κ) (name : String) :
    ∃ lines : List (Label κ), nameMarks p center name = lines.map .label ∧
      lines.map (·.content) = shortenedWords name := by
  refine ⟨(shortenedWords name).zipIdx.map fun line => .centered line.1
    ⟨center.x, center.y + p.scale (lineOffset (shortenedWords name).length line.2)⟩ Palette.text
    (p.scale 9.0), ?_, ?_⟩
  · rw [List.map_map]
    rfl
  · rw [List.map_map]
    exact List.zipIdx_map_fst 0 (shortenedWords name)

theorem servicePicture_serviceMarks (selected : Option String) (service : Service κ) :
    ServicePicture p selected service (serviceMarks p service (selected == some service.id)) := by
  obtain ⟨lines, hlabels, hlines⟩ :=
    exists_labels_nameMarks p (p.toScreen service.position) service.name
  simp only [serviceMarks, selectionMarks, hlabels]
  cases hselected : selected == some service.id with
  | true => exact .ringed (eq_of_beq hselected) (.mk hlines)
  | false => exact .plain (ne_of_beq_false hselected) (.mk hlines)

variable [Scalar ν] [Narrowing ν κ]

theorem linkPicture_linkMarksBetween (e : Link ν) (source target : Service κ) :
    LinkPicture e (linkMarksBetween p e source target) := by
  unfold linkMarksBetween
  split
  case isTrue h => exact .labelled h rfl
  case isFalse h => exact .plain h

variable {s : Snapshot κ ν} {e : Link ν}

/-- A link that joins two services has its picture. -/
theorem linkPicture_of_joins (h : e.joins (s.services.map (·.id)) = true) :
    LinkPicture e (linkMarks p s e) := by
  rw [Link.joins_ids, Bool.and_eq_true] at h
  obtain ⟨source, hsource⟩ := Option.isSome_iff_exists.mp h.1
  obtain ⟨target, htarget⟩ := Option.isSome_iff_exists.mp h.2
  rw [linkMarks, hsource, htarget]
  exact linkPicture_linkMarksBetween p e source target

/-- A link that leads elsewhere has none. -/
theorem linkMarks_of_not_joins (h : e.joins (s.services.map (·.id)) = false) :
    linkMarks p s e = [] := by
  rw [Link.joins_ids, Snapshot.contains, Snapshot.contains] at h
  unfold linkMarks
  split
  case h_1 source target hsource htarget =>
    rw [hsource, htarget] at h
    cases h
  case h_2 => rfl

theorem exists_linkPictures (s : Snapshot κ ν) (links : List (Link ν)) :
    ∃ pictures, links.flatMap (linkMarks p s) = pictures.flatten ∧
      List.Forall₂ LinkPicture (links.filter (·.joins (s.services.map (·.id)))) pictures := by
  induction links with
  | nil => exact ⟨[], rfl, .nil⟩
  | cons e rest ih =>
    obtain ⟨pictures, hflatten, hpictures⟩ := ih
    rw [List.flatMap_cons, hflatten, List.filter_cons]
    cases hjoins : e.joins (s.services.map (·.id)) with
    | true =>
      exact ⟨linkMarks p s e :: pictures, rfl, .cons (linkPicture_of_joins p hjoins) hpictures⟩
    | false =>
      -- What leads elsewhere is filtered out and draws nothing, so the two lists stay in step.
      rw [linkMarks_of_not_joins p hjoins, List.nil_append]
      exact ⟨pictures, rfl, hpictures⟩

theorem contentPicture_snapshotMarks (s : Snapshot κ ν) (selected : Option String) :
    ContentPicture p selected (some s) (snapshotMarks p s selected) := by
  obtain ⟨links, hflatten, hlinks⟩ := exists_linkPictures p s s.links
  rw [snapshotMarks, hflatten]
  refine .shown hlinks (List.forall₂_map_right_iff.mpr (List.forall₂_same.mpr ?_))
  exact fun service _ => servicePicture_serviceMarks p selected service

end

section

variable [Scalar κ] [Scalar ν] [Narrowing ν κ] {size : Size κ}

theorem frame_of_no_extent (snapshot : Option (Snapshot κ ν)) (zoom : Zoom)
    (selected : Option String) (h : ¬ (0.0 < size.width ∧ 0.0 < size.height)) :
    frame snapshot zoom selected size = [] := by
  have hextent : (Projection.of zoom size).hasExtent = false := by
    rwa [Projection.hasExtent, Bool.eq_false_iff, ne_eq, Bool.and_eq_true, decide_eq_true_eq,
      decide_eq_true_eq]
  simp [frame, hextent]

/-- The background, the bands, the content and the zoom level make up a frame, from back to
front. -/
theorem exists_pictures_frame (snapshot : Option (Snapshot κ ν)) (zoom : Zoom)
    (selected : Option String) (h : 0.0 < size.width ∧ 0.0 < size.height) :
    ∃ (bands : List (List (Mark κ))) (content : List (Mark κ)),
      frame snapshot zoom selected size =
        .clear Palette.background :: bands.flatten ++ content ++ [zoomMark (.of zoom size)] ∧
      List.Forall₂ BandPicture [.frontend, .gateway, .platform, .business, .infrastructure]
        bands ∧
      ContentPicture (.of zoom size) selected snapshot content := by
  have hextent : (Projection.of zoom size).hasExtent = true := by
    rwa [Projection.hasExtent, Bool.and_eq_true, decide_eq_true_eq, decide_eq_true_eq]
  obtain ⟨bands, hflatten, hbands⟩ := exists_bandPictures (Projection.of zoom size)
  unfold frame
  simp only [hextent, hflatten]
  -- The bands and the zoom level are there with and without a snapshot.
  cases snapshot with
  | none => exact ⟨bands, _, rfl, hbands, .waiting rfl⟩
  | some s => exact ⟨bands, _, rfl, hbands, contentPicture_snapshotMarks _ s selected⟩

end

/-! ## What is round -/

/-- A circle or a disc. -/
def Mark.isRound : Mark κ → Bool
  | .circle .. | .disc .. => true
  | _ => false

theorem BandPicture.isRound_eq_false {layer : Layer} {marks : List (Mark κ)}
    (h : BandPicture layer marks) : ∀ mark ∈ marks, mark.isRound = false := by
  cases h
  simp [Mark.isRound]

theorem LinkPicture.isRound_eq_false [Scalar ν] {e : Link ν} {marks : List (Mark κ)}
    (h : LinkPicture e marks) : ∀ mark ∈ marks, mark.isRound = false := by
  cases h <;> simp [Mark.isRound]

section Pieces

variable {α β γ : Type} {R : α → List β → Prop} {f : β → Option γ} {xs : List α}
  {pieces : List (List β)}

/-- What is picked from every piece is picked from the whole. -/
theorem filterMap_flatten_of_forall₂ {g : α → List γ}
    (h : ∀ x piece, R x piece → piece.filterMap f = g x) (hpieces : List.Forall₂ R xs pieces) :
    pieces.flatten.filterMap f = xs.flatMap g := by
  induction hpieces with
  | nil => rfl
  | cons hx _ ih => rw [List.flatten_cons, List.filterMap_append, h _ _ hx, ih, List.flatMap_cons]

/-- Where no piece has anything to pick, the whole has nothing. -/
theorem filterMap_flatten_eq_nil (h : ∀ x piece, R x piece → ∀ y ∈ piece, f y = none)
    (hpieces : List.Forall₂ R xs pieces) : pieces.flatten.filterMap f = [] := by
  rw [filterMap_flatten_of_forall₂ (fun x piece hx => List.filterMap_eq_nil_iff.mpr (h x piece hx))
    hpieces]
  exact List.flatMap_eq_nil_iff.mpr fun _ _ => rfl

/-- What some elements give is what the elements that are singled out give. -/
theorem flatMap_ite_singleton (p : α → Prop) [DecidablePred p] (f : α → β) (xs : List α) :
    (xs.flatMap fun x => if p x then [f x] else []) = (xs.filter fun x => p x).map f := by
  induction xs with
  | nil => rfl
  | cons x xs ih => by_cases h : p x <;> simp [h, ih]

end Pieces

/-- Only services have anything round, so what is picked from the round marks of a frame is picked
from the pictures of its services. -/
theorem filterMap_frame_of_round [Scalar κ] [Scalar ν] [Narrowing ν κ] {γ : Type}
    {f : Mark κ → Option γ} {g : Service κ → List γ} (s : Snapshot κ ν) (zoom : Zoom)
    (selected : Option String) {size : Size κ} (hextent : 0.0 < size.width ∧ 0.0 < size.height)
    (hround : ∀ mark, mark.isRound = false → f mark = none)
    (hservice : ∀ service marks, ServicePicture (.of zoom size) selected service marks →
      marks.filterMap f = g service) :
    (frame (some s) zoom selected size).filterMap f = s.services.flatMap g := by
  obtain ⟨bands, content, hframe, hbands, hcontent⟩ :=
    exists_pictures_frame (some s) zoom selected hextent
  have hzoom : f (zoomMark (.of zoom size)) = none := hround _ rfl
  have hband : bands.flatten.filterMap f = [] :=
    filterMap_flatten_eq_nil (fun _ _ h mark hmark => hround mark (h.isRound_eq_false mark hmark))
      hbands
  cases hcontent with
  | shown hlinks hservices =>
    -- Of the five pieces of the frame, only the last but one has anything to pick from.
    have hlink : List.filterMap f (List.flatten _) = [] :=
      filterMap_flatten_eq_nil (fun _ _ h mark hmark => hround mark (h.isRound_eq_false mark hmark))
        hlinks
    rw [hframe, List.cons_append, List.cons_append, List.filterMap_cons_none (hround _ rfl),
      List.filterMap_append, List.filterMap_append, List.filterMap_append, hband, hlink,
      filterMap_flatten_of_forall₂ hservice hservices, List.filterMap_cons_none hzoom]
    simp

/-! ## Selection rings -/

/-- The center of a ring in the color of the selection. -/
def Mark.selectionRing? [Scalar κ] : Mark κ → Option (Point κ)
  | .circle center _ color _ => if color == Palette.selection then some center else none
  | _ => none

theorem Mark.selectionRing?_eq_none [Scalar κ] {mark : Mark κ} (h : mark.isRound = false) :
    mark.selectionRing? = none := by
  cases mark with
  | circle => cases h
  | disc => cases h
  | _ => rfl

/-- No health looks like a selection. -/
theorem Palette.health_ne_selection (h : Health) :
    ((Palette.health h : Color Float32) == Palette.selection) = false := by
  cases h <;> decide +kernel

/-- No layer looks like a selection. -/
theorem Palette.layer_ne_selection (l : Layer) :
    ((Palette.layer l : Color Float32) == Palette.selection) = false := by
  cases l <;> decide +kernel

theorem BodyPicture.selectionRings {p : Projection Float32} {service : Service Float32}
    {marks : List (Mark Float32)} (h : BodyPicture p service marks) :
    marks.filterMap (·.selectionRing?) = [] := by
  cases h
  simp [Mark.selectionRing?, Palette.health_ne_selection, Palette.layer_ne_selection]

/-- A service has a ring in the color of the selection exactly if it is selected. -/
theorem ServicePicture.selectionRings {p : Projection Float32} {selected : Option String}
    {service : Service Float32} {marks : List (Mark Float32)}
    (h : ServicePicture p selected service marks) :
    marks.filterMap (·.selectionRing?) =
      if selected = some service.id then [p.toScreen service.position] else [] := by
  cases h with
  | plain hother hbody => rw [hbody.selectionRings, if_neg hother]
  | ringed hselected hbody =>
    have hcolor : ((Palette.selection : Color Float32) == Palette.selection) = true := by
      decide +kernel
    rw [if_pos hselected, List.filterMap_cons, hbody.selectionRings, Mark.selectionRing?, hcolor]
    rfl

/-- In a normal snapshot an id selects one service or none. -/
theorem length_filter_selected {services : List (Service κ)} (h : (services.map (·.id)).Nodup)
    (selected : Option String) :
    (services.filter fun service => selected = some service.id).length =
      if ∃ service ∈ services, selected = some service.id then 1 else 0 := by
  cases selected with
  | none => simp
  | some id =>
    -- The services with an id are as many as the places at which the id stands among the ids.
    have hcount : (services.filter fun service => some id = some service.id).length =
        (services.map (·.id)).count id := by
      rw [List.count, List.countP_map, List.countP_eq_length_filter]
      refine congrArg List.length (List.filter_congr fun service _ => ?_)
      rw [Function.comp_apply, Bool.eq_iff_iff, decide_eq_true_eq, beq_iff_eq, Option.some.injEq,
        eq_comm]
    rw [hcount, h.count]
    simp [eq_comm]

section Frames

variable [Scalar ν] [Narrowing ν Float32] {size : Size Float32}

theorem length_selectionRings_frame {s : Snapshot Float32 ν} (h : s.IsNormal) (zoom : Zoom)
    (selected : Option String) (hextent : 0.0 < size.width ∧ 0.0 < size.height) :
    ((frame (some s) zoom selected size).filterMap (·.selectionRing?)).length =
      if ∃ service ∈ s.services, selected = some service.id then 1 else 0 := by
  rw [filterMap_frame_of_round s zoom selected hextent (fun _ => Mark.selectionRing?_eq_none)
    fun _ _ h => h.selectionRings, flatMap_ite_singleton, List.length_map]
  exact length_filter_selected h.nodup selected

/-! ## Main statement -/

/-- The label in the corner tells the zoom level in whole percent. -/
theorem exists_zoomLabel (zoom : Zoom) (size : Size Float32) :
    ∃ label, zoomMark (.of zoom size) = .label label ∧
      label.content = s!"Zoom: {zoom.percent}%" := by
  refine ⟨_, rfl, ?_⟩
  -- A percentage is rounded to a whole number, and there are sixteen of them.
  have hlevels : ∀ n ≤ 20, 5 ≤ n →
      (Scalar.rounded 0 ((Scalar.ofCount n / 10.0 : Float32) * 100.0)).text =
        toString (n * 10) := by
    decide +kernel
  have htext : (Scalar.rounded 0 ((zoom.factor : Float32) * 100.0)).text = toString zoom.percent :=
    hlevels zoom.tenths zoom.high zoom.low
  show "Zoom: " ++ (Scalar.rounded 0 ((zoom.factor : Float32) * 100.0)).text ++ "%" = _
  rw [htext]
  rfl

/-- **What a frame consists of.** On a canvas with an extent a frame has the background, the five
bands, the links that join services, the services, or a note in their place, and the zoom level, in
this order and nothing else; without an extent, or if it is not even known, there is nothing at all.
Of a normal snapshot every link is drawn, and exactly the selected service is ringed, if there is
one.

Each group of marks has its own picture, an inductive relation that fixes kinds, order and colors
and leaves widths and places open. Rings are counted picture by picture: no other mark has the color
of the selection. -/
theorem frame_consists_of_pictures (snapshot : Option (Snapshot Float32 ν)) (zoom : Zoom)
    (selected : Option String) (size : Size Float32) :
    (0.0 < size.width ∧ 0.0 < size.height →
      ∃ (bands : List (List (Mark Float32))) (content : List (Mark Float32)) (note : Label Float32),
        frame snapshot zoom selected size =
          .clear Palette.background :: bands.flatten ++ content ++ [.label note] ∧
        List.Forall₂ BandPicture [.frontend, .gateway, .platform, .business, .infrastructure]
          bands ∧
        ContentPicture (.of zoom size) selected snapshot content ∧
        note.content = s!"Zoom: {zoom.percent}%") ∧
      (¬ (0.0 < size.width ∧ 0.0 < size.height) → frame snapshot zoom selected size = []) ∧
      (size.width.isNaN = true ∨ size.height.isNaN = true →
        ¬ (0.0 < size.width ∧ 0.0 < size.height)) ∧
      ∀ (report : Report Float32 ν) (registry : Registry Float32) (fetchedAt : Int64),
        let s := report.normalize registry fetchedAt
        let rings := (frame (some s) zoom selected size).filterMap (·.selectionRing?)
        s.links.filter (·.joins (s.services.map (·.id))) = s.links ∧ rings.length ≤ 1 ∧
          (0.0 < size.width ∧ 0.0 < size.height →
            (rings.length = 1 ↔ ∃ service ∈ s.services, selected = some service.id)) := by
  refine ⟨fun hextent => ?_, frame_of_no_extent snapshot zoom selected, ?_, ?_⟩
  · obtain ⟨bands, content, hframe, hbands, hcontent⟩ :=
      exists_pictures_frame snapshot zoom selected hextent
    obtain ⟨note, hnote, htext⟩ := exists_zoomLabel zoom size
    exact ⟨bands, content, note, hnote ▸ hframe, hbands, hcontent, htext⟩
  · rintro (hwidth | hheight) hextent
    · exact not_pos_of_isNaN hwidth hextent.1
    · exact not_pos_of_isNaN hheight hextent.2
  · intro report registry fetchedAt s rings
    have hnormal : s.IsNormal := report.isNormal_normalize registry fetchedAt
    -- On a surface without extent there is no ring, so the count is stated for the others only.
    have hlength (hextent : 0.0 < size.width ∧ 0.0 < size.height) :
        rings.length = if ∃ service ∈ s.services, selected = some service.id then 1 else 0 :=
      length_selectionRings_frame hnormal zoom selected hextent
    refine ⟨List.filter_eq_self.mpr hnormal.joined, ?_, fun hextent => ?_⟩
    · by_cases hextent : 0.0 < size.width ∧ 0.0 < size.height
      · rw [hlength hextent]
        split <;> simp
      · simp [rings, frame_of_no_extent (some s) zoom selected hextent]
    · rw [hlength hextent]
      split <;> simp [*]

end Frames

end TrafficMap
