import Mathlib.Tactic.Linarith
import Mathlib.Tactic.Ring
import TrafficMap.Proofs.View.Similarity
import TrafficMap.View.Frame

/-!
# Views: Curves and Arrows of Links

A link is drawn from points of the screen. Computed exactly, its curve is the picture of a curve on
the logical canvas: the mapping between the two keeps whatever lies a part of the way between two
points, and a point of the curve is reached from its three points by going the same part of the way
three times.

The arrowhead points along the curve. Its direction depends on the zoom factor and on where the two
services stand, but not on the viewport.
-/

namespace TrafficMap

/-! ## Part of the way -/

/-- What lies a part `t` of the way from one position to another. -/
def Position.towards (a b : Position ℚ) (t : ℚ) : Position ℚ :=
  ⟨a.x + t * (b.x - a.x), a.y + t * (b.y - a.y)⟩

/-- What lies a part `t` of the way from one point to another. -/
def Point.towards (a b : Point ℚ) (t : ℚ) : Point ℚ :=
  ⟨a.x + t * (b.x - a.x), a.y + t * (b.y - a.y)⟩

/-- The mapping to the screen keeps ratios. -/
theorem Projection.toScreen_towards (p : Projection ℚ) (a b : Position ℚ) (t : ℚ) :
    p.toScreen (a.towards b t) = (p.toScreen a).towards (p.toScreen b) t := by
  have hx : p.leftMargin + (a.x + t * (b.x - a.x)) * p.zoom = p.leftMargin + a.x * p.zoom +
      t * (p.leftMargin + b.x * p.zoom - (p.leftMargin + a.x * p.zoom)) := by
    ring
  have hy : topMargin + (a.y + t * (b.y - a.y)) * p.zoom = topMargin + a.y * p.zoom +
      t * (topMargin + b.y * p.zoom - (topMargin + a.y * p.zoom)) := by
    ring
  exact congrArg₂ Point.mk hx hy

/-! ## Points of the curve -/

/-- The curve of a link on the logical canvas: a part of the way from source to control point, the
same part of the way from control point to target, and the same part of the way between these. On
the screen the same construction is applied to the images of the three points, and it comes to the
same. -/
def curvePosition (source target : Position ℚ) (t : ℚ) : Position ℚ :=
  (source.towards (controlPoint source target) t).towards
    ((controlPoint source target).towards target t) t

theorem Curve.point_eq_towards (c : Curve ℚ) (t : ℚ) :
    c.point t = (c.start.towards c.control t).towards (c.control.towards c.finish t) t := by
  have hcoordinate (a b c : ℚ) :
      (1.0 - t) * (1.0 - t) * a + 2.0 * (1.0 - t) * t * b + t * t * c =
        a + t * (b - a) + t * (b + t * (c - b) - (a + t * (b - a))) := by
    norm_num
    ring
  exact congrArg₂ Point.mk (hcoordinate _ _ _) (hcoordinate _ _ _)

/-- **The curve on the screen is the picture of the curve on the logical canvas.** The mapping
scales and moves, so it keeps what lies a part of the way between two points. -/
theorem point_projectedCurve (p : Projection ℚ) (source target : Position ℚ) (t : ℚ) :
    (projectedCurve p source target).point t = p.toScreen (curvePosition source target t) := by
  rw [Curve.point_eq_towards, curvePosition, p.toScreen_towards, p.toScreen_towards,
    p.toScreen_towards]
  rfl

/-- The control point lies above the middle of the ends, on the screen too. -/
theorem control_projectedCurve (p : Projection ℚ) (source target : Position ℚ) :
    (projectedCurve p source target).control =
      ⟨((p.toScreen source).x + (p.toScreen target).x) / 2,
        ((p.toScreen source).y + (p.toScreen target).y) / 2 - p.scale 20⟩ := by
  have hx : p.leftMargin + (source.x + target.x) / (2.0 : ℚ) * p.zoom =
      (p.leftMargin + source.x * p.zoom + (p.leftMargin + target.x * p.zoom)) / 2 := by
    norm_num
    ring
  have hy : topMargin + ((source.y + target.y) / (2.0 : ℚ) - (20.0 : ℚ)) * p.zoom =
      (topMargin + source.y * p.zoom + (topMargin + target.y * p.zoom)) / 2 - 20 * p.zoom := by
    norm_num
    ring
  exact congrArg₂ Point.mk hx hy

/-! ## Directions -/

/-- The direction of the curve is its derivative: what a step along the curve differs from a step in
this direction is of the second order. -/
theorem Curve.point_add (c : Curve ℚ) (t h : ℚ) :
    c.point (t + h) =
      ⟨(c.point t).x + h * (c.tangent t).x +
          h ^ 2 * (c.start.x - 2 * c.control.x + c.finish.x),
        (c.point t).y + h * (c.tangent t).y +
          h ^ 2 * (c.start.y - 2 * c.control.y + c.finish.y)⟩ := by
  -- The same identity for both coordinates; the literals are those of the program.
  have hcoordinate (a b c : ℚ) :
      (1.0 - (t + h)) * (1.0 - (t + h)) * a + 2.0 * (1.0 - (t + h)) * (t + h) * b +
          (t + h) * (t + h) * c =
        (1.0 - t) * (1.0 - t) * a + 2.0 * (1.0 - t) * t * b + t * t * c +
          h * (2.0 * (1.0 - t) * (b - a) + 2.0 * t * (c - b)) + h ^ 2 * (a - 2 * b + c) := by
    norm_num
    ring
  exact congrArg₂ Point.mk (hcoordinate _ _ _) (hcoordinate _ _ _)

/-- The margins cancel out. The lift of the control point turns the curve upwards before its middle
and downwards behind it. -/
theorem tangent_projectedCurve (p : Projection ℚ) (source target : Position ℚ) (t : ℚ) :
    (projectedCurve p source target).tangent t =
      ⟨p.zoom * (target.x - source.x), p.zoom * (target.y - source.y + (80 * t - 40))⟩ := by
  have hx : (2.0 : ℚ) * ((1.0 : ℚ) - t) *
        (p.leftMargin + (source.x + target.x) / (2.0 : ℚ) * p.zoom -
          (p.leftMargin + source.x * p.zoom)) +
      (2.0 : ℚ) * t *
        (p.leftMargin + target.x * p.zoom -
          (p.leftMargin + (source.x + target.x) / (2.0 : ℚ) * p.zoom)) =
      p.zoom * (target.x - source.x) := by
    norm_num
    ring
  have hy : (2.0 : ℚ) * ((1.0 : ℚ) - t) *
        (topMargin + ((source.y + target.y) / (2.0 : ℚ) - (20.0 : ℚ)) * p.zoom -
          (topMargin + source.y * p.zoom)) +
      (2.0 : ℚ) * t *
        (topMargin + target.y * p.zoom -
          (topMargin + ((source.y + target.y) / (2.0 : ℚ) - (20.0 : ℚ)) * p.zoom)) =
      p.zoom * (target.y - source.y + (80 * t - 40)) := by
    norm_num
    ring
  -- Both equations spell out what `tangent` and `projectedCurve` compute, literals included, so
  -- that this is all that is left.
  exact congrArg₂ Displacement.mk hx hy

/-! ## Arrows -/

/-- Where the arrowhead points for two positions, in pixels. -/
theorem arrowDirection_eq (p : Projection ℚ) (source target : Position ℚ) :
    (projectedCurve p source target).tangent (7 / 10) =
      ⟨p.zoom * (target.x - source.x), p.zoom * (target.y - source.y + 16)⟩ := by
  have hlift : (80 * (7 / 10) - 40 : ℚ) = 16 := by norm_num
  rw [tangent_projectedCurve, hlift]

/-- The curve has a direction at the arrowhead, unless its target is right above its source. -/
theorem arrowDirection_eq_zero_iff {p : Projection ℚ} (h : p.zoom ≠ 0)
    (source target : Position ℚ) :
    (projectedCurve p source target).tangent (7 / 10) = ⟨0, 0⟩ ↔
      target.x = source.x ∧ target.y = source.y - 16 := by
  rw [arrowDirection_eq, Displacement.mk.injEq, mul_eq_zero_iff_left h, mul_eq_zero_iff_left h,
    sub_eq_zero]
  exact and_congr_right fun _ => ⟨fun hy => by linarith, fun hy => by linarith⟩

/-- The marks of a link: its curve, an arrowhead with the tip on the curve, and the rate, if it is
shown, a little above the middle of the curve. -/
theorem linkMarksBetween_eq {ν : Type} [Scalar ν] [Narrowing ν ℚ] (p : Projection ℚ) (e : Link ν)
    (source target : Service ℚ) :
    ∃ size color width rate,
      let curve := projectedCurve p source.position target.position
      linkMarksBetween p e source target =
          .curve curve color width ::
            .arrow ⟨curve.point (7 / 10), curve.tangent (7 / 10), size⟩ color :: rate ∧
        ∀ mark ∈ rate, ∃ label, mark = .label label ∧
          label.position = ⟨(curve.point (1 / 2)).x, (curve.point (1 / 2)).y - p.scale 8⟩ := by
  have harrow : (arrowParameter : ℚ) = 7 / 10 := by
    show (0.7 : ℚ) = 7 / 10
    norm_num
  have hmiddle : (0.5 : ℚ) = 1 / 2 := by norm_num
  have hgap : (8.0 : ℚ) = 8 := by norm_num
  rw [linkMarksBetween, harrow]
  -- Size, colors and width are left to unification: nothing is claimed of them.
  refine ⟨_, _, _, _, rfl, fun mark hmark => ?_⟩
  split at hmark
  case isTrue =>
    obtain rfl := List.mem_singleton.mp hmark
    refine ⟨_, rfl, ?_⟩
    rw [← hmiddle, ← hgap]
    rfl
  case isFalse => cases hmark

/-! ## Main statement -/

/-- **Arrowheads sit on the curve and have a direction.** All that is drawn of a link is the picture
of a curve on the logical canvas: the ends, the control point, the tip of the arrowhead, and the
middle, above which the rate is written. The arrowhead points along the curve, which rises by its
lift and comes down again; it has no direction only if the target lies 16 units above the source,
and on a loop it points straight down.

The program takes a point of the curve by a polynomial in its parameter. On the logical canvas it is
found by going part of the way three times, which the mapping to the screen keeps. -/
theorem arrow_on_projected_curve {ν : Type} [Scalar ν] [Narrowing ν ℚ] (e : Link ν)
    (source target : Service ℚ) (zoom : Zoom) (size : Size ℚ) :
    let p := Projection.of zoom size
    let s := source.position
    let t := target.position
    let middle := p.toScreen (curvePosition s t (1 / 2))
    ∃ curve arrow color width rate,
      linkMarksBetween p e source target = .curve curve color width :: .arrow arrow color :: rate ∧
        curve.start = p.toScreen s ∧ curve.finish = p.toScreen t ∧
        curve.control = p.toScreen (controlPoint s t) ∧
        curve.control = ⟨(curve.start.x + curve.finish.x) / 2,
          (curve.start.y + curve.finish.y) / 2 - p.scale 20⟩ ∧
        (∀ u, curve.point u = p.toScreen (curvePosition s t u)) ∧
        arrow.tip = curve.point (7 / 10) ∧
        (∀ mark ∈ rate, ∃ label, mark = .label label ∧
          label.position = ⟨middle.x, middle.y - p.scale 8⟩) ∧
        arrow.direction = ⟨p.zoom * (t.x - s.x), p.zoom * (t.y - s.y + 16)⟩ ∧
        (∀ h, curve.point (7 / 10 + h) =
          ⟨arrow.tip.x + h * arrow.direction.x +
              h ^ 2 * (curve.start.x - 2 * curve.control.x + curve.finish.x),
            arrow.tip.y + h * arrow.direction.y +
              h ^ 2 * (curve.start.y - 2 * curve.control.y + curve.finish.y)⟩) ∧
        (arrow.direction = ⟨0, 0⟩ ↔ t.x = s.x ∧ t.y = s.y - 16) ∧
        (s = t → arrow.direction.x = 0 ∧ 0 < arrow.direction.y) := by
  intro p s t middle
  have hzoom : 0 < p.zoom := zoom.factor_pos
  obtain ⟨arrowSize, color, width, rate, hmarks, hrate⟩ := linkMarksBetween_eq p e source target
  have hdirection := arrowDirection_eq p s t
  -- The curve and the arrowhead are those of `hmarks`; each part of the statement is a lemma on
  -- them.
  refine ⟨_, _, color, width, rate, hmarks, rfl, rfl, rfl, control_projectedCurve p s t,
    point_projectedCurve p s t, rfl, ?_, hdirection, Curve.point_add _ _,
    arrowDirection_eq_zero_iff hzoom.ne' s t, ?_⟩
  · intro mark hmark
    obtain ⟨label, hlabel, hposition⟩ := hrate mark hmark
    rw [point_projectedCurve] at hposition
    exact ⟨label, hlabel, hposition⟩
  · intro hloop
    show (Curve.tangent _ _).x = 0 ∧ 0 < (Curve.tangent _ _).y
    -- With both ends equal only the lift of 16 is left, and the zoom is positive.
    rw [hdirection, hloop]
    constructor
    · ring
    · linarith

end TrafficMap
