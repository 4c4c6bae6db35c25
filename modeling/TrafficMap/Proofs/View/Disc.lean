import TrafficMap.Proofs.Session.Update
import TrafficMap.Proofs.View.Picture
import TrafficMap.Proofs.View.Similarity

/-!
# Views: Discs and Clicks

Drawing goes from the logical canvas to the screen, a click the other way. Computed exactly, the two
agree: a click hits a service exactly if it lies within the disc that a frame has for the service,
the rim not included.
-/

namespace TrafficMap

variable {κ ν : Type}

/-! ## The discs of a frame -/

/-- A disc on the screen. -/
structure Disc (κ : Type) where
  center : Point κ
  radius : κ

/-- The disc of a mark, whatever its colors. -/
def Mark.disc? : Mark κ → Option (Disc κ)
  | .disc center radius _ _ => some ⟨center, radius⟩
  | _ => none

theorem Mark.disc?_eq_none {mark : Mark κ} (h : mark.isRound = false) : mark.disc? = none := by
  cases mark with
  | disc => cases h
  | _ => rfl

section

variable [Scalar κ]

/-- The disc of a service on the screen. -/
def Service.disc (service : Service κ) (p : Projection κ) : Disc κ :=
  ⟨p.toScreen service.position, p.scale discRadius⟩

/-- The lines of the name are no discs, and neither are the rings. -/
theorem BodyPicture.discs {p : Projection κ} {service : Service κ} {marks : List (Mark κ)}
    (h : BodyPicture p service marks) : marks.filterMap (·.disc?) = [service.disc p] := by
  cases h
  simp [Mark.disc?, Service.disc]

theorem ServicePicture.discs {p : Projection κ} {selected : Option String} {service : Service κ}
    {marks : List (Mark κ)} (h : ServicePicture p selected service marks) :
    marks.filterMap (·.disc?) = [service.disc p] := by
  cases h with
  | plain _ hbody => exact hbody.discs
  | ringed _ hbody => rw [List.filterMap_cons_none rfl, hbody.discs]

/-- A frame has one disc for each service, in the order of the services. -/
theorem discs_frame [Scalar ν] [Narrowing ν κ] (s : Snapshot κ ν) (zoom : Zoom)
    (selected : Option String) {size : Size κ} (hextent : 0.0 < size.width ∧ 0.0 < size.height) :
    (frame (some s) zoom selected size).filterMap (·.disc?) =
      s.services.map (·.disc (.of zoom size)) := by
  rw [filterMap_frame_of_round s zoom selected hextent (fun _ => Mark.disc?_eq_none)
    fun _ _ h => h.discs]
  exact List.map_eq_flatMap.symm

end

/-! ## Hits -/

/-- The point lies within the disc. -/
def Disc.Holds (d : Disc ℚ) (q : Point ℚ) : Prop := d.center.exactDistance q < d.radius

/-- The way back to the logical canvas shrinks both sides of the comparison alike. -/
theorem isWithin_toCanvas_iff {p : Projection ℚ} (h : 0 < p.zoom) (service : Service ℚ)
    (q : Point ℚ) :
    service.position.isWithin (p.toCanvas q) discRadius = true ↔ (service.disc p).Holds q := by
  have hzoom : (0 : ℝ) < p.zoom := by exact_mod_cast h
  have hdistance : (p.toScreen service.position).exactDistance q =
      p.zoom * service.position.exactDistance (p.toCanvas q) := by
    rw [← Projection.exactDistance_toScreen h.le, Projection.toScreen_toCanvas h.ne']
  have hradius : ((p.scale discRadius : ℚ) : ℝ) = p.zoom * (discRadius : ℚ) := by
    rw [mul_comm]
    exact Rat.cast_mul _ _
  -- Both the distance and the radius have the zoom as a factor, which is above zero.
  rw [Position.isWithin_iff, Disc.Holds, Service.disc, hdistance, hradius,
    mul_lt_mul_iff_right₀ hzoom]

/-- The first service whose disc holds the point. -/
def Snapshot.IsFirstAt (s : Snapshot ℚ ν) (p : Projection ℚ) (q : Point ℚ)
    (service : Service ℚ) : Prop :=
  ∃ before after, s.services = before ++ service :: after ∧ (service.disc p).Holds q ∧
    ∀ other ∈ before, ¬ (other.disc p).Holds q

theorem Snapshot.serviceAt?_toCanvas_eq_some {s : Snapshot ℚ ν} {p : Projection ℚ} (h : 0 < p.zoom)
    (q : Point ℚ) (service : Service ℚ) :
    s.serviceAt? (p.toCanvas q) = some service ↔ s.IsFirstAt p q service := by
  rw [Snapshot.serviceAt?, List.find?_eq_some_iff_append]
  simp only [isWithin_toCanvas_iff h, Bool.not_eq_true', ← Bool.not_eq_true, IsFirstAt]
  constructor
  · rintro ⟨hholds, before, after, hservices, hbefore⟩
    exact ⟨before, after, hservices, hholds, hbefore⟩
  · rintro ⟨before, after, hservices, hholds, hbefore⟩
    exact ⟨hholds, before, after, hservices, hbefore⟩

theorem Snapshot.serviceAt?_toCanvas_eq_none {s : Snapshot ℚ ν} {p : Projection ℚ} (h : 0 < p.zoom)
    (q : Point ℚ) :
    s.serviceAt? (p.toCanvas q) = none ↔ ∀ service ∈ s.services, ¬ (service.disc p).Holds q := by
  simp only [Snapshot.serviceAt?, List.find?_eq_none, isWithin_toCanvas_iff h]

/-! ## Clicks -/

section

variable (m : MapState ℚ ν) (q : Point ℚ) (size : Size ℚ)

theorem selected_click_eq_some (id : String) :
    (m.click q size).view.selected = some id ↔ ∃ s service, m.snapshot = some s ∧
      s.IsFirstAt (.of m.view.zoom size) q service ∧ service.id = id := by
  have hzoom : 0 < (Projection.of m.view.zoom size).zoom := m.view.zoom.factor_pos
  rw [Session.view_click]
  simp only [MapState.serviceUnder?, Option.map_eq_some_iff, Option.bind_eq_some_iff,
    Snapshot.serviceAt?_toCanvas_eq_some hzoom]
  constructor
  · rintro ⟨service, ⟨s, hs, hfirst⟩, hid⟩
    exact ⟨s, service, hs, hfirst, hid⟩
  · rintro ⟨s, service, hs, hfirst, hid⟩
    exact ⟨service, ⟨s, hs, hfirst⟩, hid⟩

theorem selected_click_eq_none :
    (m.click q size).view.selected = none ↔ ∀ s, m.snapshot = some s →
      ∀ service ∈ s.services, ¬ (service.disc (.of m.view.zoom size)).Holds q := by
  have hzoom : 0 < (Projection.of m.view.zoom size).zoom := m.view.zoom.factor_pos
  rw [Session.view_click]
  simp only [MapState.serviceUnder?, Option.map_eq_none_iff, Option.bind_eq_none_iff,
    Snapshot.serviceAt?_toCanvas_eq_none hzoom]

end

/-- A point that the canvas reports lies on it, so there is something to draw on. -/
theorem Size.pos_of_covers {size : Size ℚ} {q : Point ℚ} (h : size.covers q = true) :
    0.0 < size.width ∧ 0.0 < size.height := by
  simp only [Size.covers, Bool.and_eq_true, decide_eq_true_eq] at h
  obtain ⟨⟨⟨hx, hy⟩, hwidth⟩, hheight⟩ := h
  exact ⟨lt_of_le_of_lt hx hwidth, lt_of_le_of_lt hy hheight⟩

/-! ## Main statement -/

/-- **A click hits the discs that are drawn.** It selects the first service whose disc holds the
point, and clears the selection if there is none. These are the discs that a frame of the same size
has, whatever is selected in it; without an extent a frame has none, but then no point of the canvas
can be clicked either.

The mapping is undone by the way back, and a distance on the screen is the distance on the logical
canvas times the zoom factor. -/
theorem selected_click_iff_holds [Scalar ν] [Narrowing ν ℚ] (m : MapState ℚ ν) (q : Point ℚ)
    (size : Size ℚ) :
    let p := Projection.of m.view.zoom size
    (∀ id, (m.click q size).view.selected = some id ↔
      ∃ s service, m.snapshot = some s ∧ s.IsFirstAt p q service ∧ service.id = id) ∧
      ((m.click q size).view.selected = none ↔
        ∀ s, m.snapshot = some s → ∀ service ∈ s.services, ¬ (service.disc p).Holds q) ∧
      (∀ (s : Snapshot ℚ ν) selected, 0.0 < size.width ∧ 0.0 < size.height →
        (frame (some s) m.view.zoom selected size).filterMap (·.disc?) =
          s.services.map (·.disc p)) ∧
      (size.covers q = true → 0.0 < size.width ∧ 0.0 < size.height) ∧
      (∀ a, p.toCanvas (p.toScreen a) = a) ∧ (∀ b, p.toScreen (p.toCanvas b) = b) ∧
      (∀ a b, (p.toScreen a).exactDistance (p.toScreen b) = p.zoom * a.exactDistance b) ∧
      p.zoom = m.view.zoom.tenths / 10 := by
  intro p
  -- Zoom levels are above zero, which is all that undoing the mapping needs.
  have hzoom : 0 < p.zoom := m.view.zoom.factor_pos
  exact ⟨selected_click_eq_some m q size, selected_click_eq_none m q size,
    fun s selected => discs_frame s m.view.zoom selected, Size.pos_of_covers,
    Projection.toCanvas_toScreen hzoom.ne', Projection.toScreen_toCanvas hzoom.ne',
    Projection.exactDistance_toScreen hzoom.le, m.view.zoom.factor_eq⟩

end TrafficMap
