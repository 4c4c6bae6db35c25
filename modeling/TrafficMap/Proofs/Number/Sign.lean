import TrafficMap.Number.Scalar

/-!
# Numbers: Signs of Floats

What it means for a 64-bit float to be above zero, read off the number behind it. A float that is
finite and above zero is nothing but a positive number; in particular it is not the negative zero,
which compares with zero as equal.
-/

namespace TrafficMap

open Float.Model (UnpackedFloat)

/-! ## Comparison with zero -/

theorem unpack_zero : (0.0 : Float).toModel.unpack = .zero .positive := rfl

theorem float_lt_iff (a b : Float) :
    a < b ↔ a.toModel.unpack.compare b.toModel.unpack = some .lt := by
  show decide (UnpackedFloat.lt _ _ = true) = true ↔ _
  rw [decide_eq_true_iff, UnpackedFloat.lt, beq_iff_eq]

/-- Above zero are the positive numbers and the positive infinity. -/
theorem zero_lt_float_iff (v : Float) :
    (0.0 : Float) < v ↔ v.toModel.unpack = .infinity .positive ∨
      ∃ m e h, v.toModel.unpack = .finite .positive m e h := by
  -- The comparison of unpacked floats computes once the constructor and the sign are known.
  rw [float_lt_iff, unpack_zero]
  constructor
  · intro h
    cases hv : v.toModel.unpack with
    | infinity s =>
      cases s with
      | positive => exact Or.inl rfl
      | negative =>
        rw [hv] at h
        cases h
    | finite s m e hm =>
      cases s with
      | positive => exact Or.inr ⟨m, e, hm, rfl⟩
      | negative =>
        rw [hv] at h
        cases h
    | _ =>
      rw [hv] at h
      cases h
  · rintro (h | ⟨m, e, hm, h⟩)
    · rw [h]
      rfl
    · rw [h]
      rfl

/-! ## Volumes -/

/-- A float that can stand for a rate: a number, finite, not below zero, and of the two zeros only
the positive one. -/
structure IsRate (v : Float) : Prop where
  number : v.isNaN = false
  bounded : v.isInf = false
  nonnegative : ¬ v < 0.0
  unsigned : v ≠ -0.0

theorem isRate_zero : IsRate 0.0 where
  number := by decide
  bounded := by decide
  nonnegative := by decide
  unsigned := by decide

theorem IsRate.isFinite {v : Float} (h : IsRate v) : v.isFinite = true := by
  have hnumber : UnpackedFloat.isNaN v.toModel.unpack = false := h.number
  have hbounded : UnpackedFloat.isInf v.toModel.unpack = false := h.bounded
  show UnpackedFloat.isFinite v.toModel.unpack = true
  cases hv : v.toModel.unpack with
  | finite s m e hm => rfl
  | zero s => rfl
  | infinity s =>
    rw [hv] at hbounded
    cases hbounded
  | notANumber =>
    rw [hv] at hnumber
    cases hnumber

theorem isRate_of_finite_of_pos {v : Float} (hfinite : v.isFinite = true)
    (hpos : (0.0 : Float) < v) : IsRate v := by
  -- Finite and above zero leaves one constructor, with the positive sign.
  obtain hinf | ⟨m, e, hm, hv⟩ := (zero_lt_float_iff v).mp hpos
  · have hcontra : UnpackedFloat.isFinite v.toModel.unpack = true := hfinite
    rw [hinf] at hcontra
    cases hcontra
  · exact {
      number := by
        show UnpackedFloat.isNaN v.toModel.unpack = false
        rw [hv]
        rfl
      bounded := by
        show UnpackedFloat.isInf v.toModel.unpack = false
        rw [hv]
        rfl
      nonnegative := by
        rw [float_lt_iff, unpack_zero, hv]
        intro h
        cases h
      unsigned := by
        rintro rfl
        exact absurd hpos (by decide) }

end TrafficMap
