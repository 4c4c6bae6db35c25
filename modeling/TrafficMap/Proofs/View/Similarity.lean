import Mathlib.Analysis.Real.Sqrt
import Mathlib.Tactic.Linarith
import Mathlib.Tactic.Ring
import TrafficMap.View.Projection

/-!
# Views: The Projection as a Similarity

What the mapping between the logical canvas and the screen does when it is computed exactly. The way
there and the way back undo each other, and a distance on the screen is the distance on the canvas
times the zoom factor.

A vector with rational components can have an irrational length, so distances are real numbers. The
test for lying within a distance compares squares, and means the same.
-/

namespace TrafficMap

/-! ## Lengths -/

noncomputable def vectorLength (x y : ℚ) : ℝ := √((x : ℝ) ^ 2 + (y : ℝ) ^ 2)

theorem vectorLength_mul {zoom : ℚ} (h : 0 ≤ zoom) (x y : ℚ) :
    vectorLength (x * zoom) (y * zoom) = zoom * vectorLength x y := by
  have hzoom : (0 : ℝ) ≤ zoom := by exact_mod_cast h
  calc vectorLength (x * zoom) (y * zoom)
    _ = √((zoom : ℝ) ^ 2 * ((x : ℝ) ^ 2 + (y : ℝ) ^ 2)) := by
      rw [vectorLength]
      push_cast
      ring_nf
    _ = √((zoom : ℝ) ^ 2) * vectorLength x y := Real.sqrt_mul (sq_nonneg _) _
    _ = zoom * vectorLength x y := by rw [Real.sqrt_sq hzoom]

/-- The test for being shorter compares squares, and nothing is shorter than a length that is not
above zero. -/
theorem shorter_iff (x y r : ℚ) : Scalar.shorter x y r = true ↔ vectorLength x y < r := by
  have hshorter : Scalar.shorter x y r = true ↔ 0 < r ∧ x * x + y * y < r * r := by
    show (decide (0 < r) && decide (x * x + y * y < r * r)) = true ↔ _
    rw [Bool.and_eq_true, decide_eq_true_eq, decide_eq_true_eq]
  rw [hshorter, vectorLength]
  -- Squares decide between numbers that are not below zero, so `r` has to be above zero.
  constructor
  · rintro ⟨hpos, hsquare⟩
    have hpos' : (0 : ℝ) < r := by exact_mod_cast hpos
    rw [Real.sqrt_lt' hpos']
    have hsquare' : (x * x + y * y : ℝ) < r * r := by exact_mod_cast hsquare
    linarith [sq (x : ℝ), sq (y : ℝ), sq (r : ℝ)]
  · intro h
    have hpos' : (0 : ℝ) < r := (Real.sqrt_nonneg _).trans_lt h
    rw [Real.sqrt_lt' hpos', sq, sq, sq] at h
    exact ⟨by exact_mod_cast hpos', by exact_mod_cast h⟩

noncomputable def Point.exactDistance (a b : Point ℚ) : ℝ := vectorLength (a.x - b.x) (a.y - b.y)

noncomputable def Position.exactDistance (a b : Position ℚ) : ℝ :=
  vectorLength (a.x - b.x) (a.y - b.y)

theorem Position.isWithin_iff (a b : Position ℚ) (r : ℚ) :
    a.isWithin b r = true ↔ a.exactDistance b < r :=
  shorter_iff (a.x - b.x) (a.y - b.y) r

/-! ## The zoom factor -/

theorem Zoom.factor_eq (z : Zoom) : (z.factor : ℚ) = z.tenths / 10 := by
  have hten : (10.0 : ℚ) = 10 := by norm_num
  rw [← hten]
  rfl

theorem Zoom.factor_pos (z : Zoom) : (0 : ℚ) < z.factor := by
  have htenths : (0 : ℚ) < z.tenths := by exact_mod_cast (by decide : 0 < 5).trans_le z.low
  rw [z.factor_eq]
  linarith

/-! ## There and back -/

namespace Projection

variable {p : Projection ℚ}

theorem toCanvas_toScreen (h : p.zoom ≠ 0) (a : Position ℚ) : p.toCanvas (p.toScreen a) = a := by
  have hx : (p.leftMargin + a.x * p.zoom - p.leftMargin) / p.zoom = a.x := by
    rw [add_sub_cancel_left, mul_div_cancel_right₀ _ h]
  have hy : (topMargin + a.y * p.zoom - topMargin) / p.zoom = a.y := by
    rw [add_sub_cancel_left, mul_div_cancel_right₀ _ h]
  exact congrArg₂ Position.mk hx hy

theorem toScreen_toCanvas (h : p.zoom ≠ 0) (q : Point ℚ) : p.toScreen (p.toCanvas q) = q := by
  have hx : p.leftMargin + (q.x - p.leftMargin) / p.zoom * p.zoom = q.x := by
    rw [div_mul_cancel₀ _ h, add_sub_cancel]
  have hy : topMargin + (q.y - topMargin) / p.zoom * p.zoom = q.y := by
    rw [div_mul_cancel₀ _ h, add_sub_cancel]
  exact congrArg₂ Point.mk hx hy

/-- The margins cancel out, the zoom factor does not. -/
theorem exactDistance_toScreen (h : 0 ≤ p.zoom) (a b : Position ℚ) :
    (p.toScreen a).exactDistance (p.toScreen b) = p.zoom * a.exactDistance b := by
  have hx : p.leftMargin + a.x * p.zoom - (p.leftMargin + b.x * p.zoom) = (a.x - b.x) * p.zoom := by
    ring
  have hy : topMargin + a.y * p.zoom - (topMargin + b.y * p.zoom) = (a.y - b.y) * p.zoom := by
    ring
  calc (p.toScreen a).exactDistance (p.toScreen b)
    _ = vectorLength ((a.x - b.x) * p.zoom) ((a.y - b.y) * p.zoom) := congrArg₂ vectorLength hx hy
    _ = p.zoom * a.exactDistance b := vectorLength_mul h _ _

end Projection

end TrafficMap
