import TrafficMap.Proofs.View.RateReading

/-!
# Rates as They Are Read

How close a label comes to its volume when volumes are divided exactly. What is printed is the
volume in whole steps of the last digit, so it is off by half a step at most. A larger volume is
never read as a smaller rate, not even where the unit changes: the volumes at which it does are
whole steps of both units, and rounding does not pass them.
-/

namespace TrafficMap

/-! ## Steps -/

/-- What one more in the last printed digit counts. -/
def RateUnit.step : RateUnit → ℚ
  | .one => 1
  | .thousand => 100
  | .million => 100000

theorem RateUnit.step_pos (u : RateUnit) : 0 < u.step := by
  cases u <;> norm_num [RateUnit.step]

theorem RateUnit.factor_one : (RateUnit.one.factor : ℚ) = 1 := by
  show (1.0 : ℚ) = 1
  norm_num

/-- A unit is as many steps as its decimal places hold. -/
theorem RateUnit.factor_eq (u : RateUnit) : (u.factor : ℚ) = u.step * tenTo u.places := by
  cases u with
  | one =>
    rw [RateUnit.factor_one]
    norm_num [RateUnit.step, RateUnit.places, tenTo]
  | thousand =>
    show (1000.0 : ℚ) = _
    norm_num [RateUnit.step, RateUnit.places, tenTo]
  | million =>
    show (1000000.0 : ℚ) = _
    norm_num [RateUnit.step, RateUnit.places, tenTo]

/-- The rate that a label says. -/
def RateReading.rate (r : RateReading) : ℚ := r.number * r.unit.factor

/-- The label says the volume in the unit for it, rounded to a whole number of steps. Order and
accuracy of labels follow from this alone. -/
structure RateReading.IsOf (r : RateReading) (a : ℚ) : Prop where
  unit : r.unit = RateLabel.unitOf a
  rounded : ∃ units : ℕ, IsNearestEven (a / r.unit.step) units ∧ r.rate = units * r.unit.step

/-- The volume in the largest unit that it reaches is what is rounded. -/
theorem ofVolume_eq (a : ℚ) :
    RateLabel.ofVolume a =
      ⟨Scalar.rounded (RateLabel.unitOf a).places (a / (RateLabel.unitOf a).factor),
        RateLabel.unitOf a⟩ := by
  unfold RateLabel.ofVolume
  cases RateLabel.unitOf a with
  | one => rw [RateUnit.factor_one, div_one]
  | thousand => rfl
  | million => rfl

/-- Every label of a volume can be read. -/
theorem exists_isOf {a : ℚ} (ha : 0 ≤ a) : ∃ r, readRate? (rateText a) = some r ∧ r.IsOf a := by
  obtain ⟨u, hu⟩ : ∃ u, RateLabel.unitOf a = u := ⟨_, rfl⟩
  have hstep := u.step_pos
  have htenTo : (0 : ℚ) < tenTo u.places := Nat.cast_pos.mpr (Nat.pow_pos (by decide))
  have hnonneg : 0 ≤ a / u.factor := by
    rw [u.factor_eq]
    positivity
  obtain ⟨units, hnearest, hread, -⟩ := exists_reading (rounds_rounded_rat hnonneg u.places)
  rw [rateText, ofVolume_eq, hu]
  -- Units of the last digit are steps: the factor of the unit and its places in one.
  refine ⟨_, hread, hu.symm, units, ?_, ?_⟩
  · have hscale : a / u.factor * tenTo u.places = a / u.step := by
      rw [u.factor_eq]
      field_simp
    rwa [hscale] at hnearest
  · rw [RateReading.rate, u.factor_eq]
    field_simp

namespace RateReading.IsOf

variable {x y : RateReading} {a b : ℚ}

/-- **A label is off by half a step at most.** The step is that of the unit in the label, which is
larger for larger volumes. -/
theorem abs_sub_le (h : x.IsOf a) : |x.rate - a| ≤ x.unit.step / 2 := by
  obtain ⟨units, hnearest, hrate⟩ := h.rounded
  have hstep := x.unit.step_pos
  have hsplit : x.rate - a = (units - a / x.unit.step) * x.unit.step := by
    rw [hrate]
    field_simp
  calc |x.rate - a| = |(units : ℚ) - a / x.unit.step| * x.unit.step := by
        rw [hsplit, abs_mul, abs_of_pos hstep]
    _ ≤ 1 / 2 * x.unit.step := mul_le_mul_of_nonneg_right hnearest.near hstep.le
    _ = x.unit.step / 2 := by ring

/-- Rounding does not pass whole steps, neither upwards … -/
theorem rate_le (h : x.IsOf a) {k : ℕ} (hk : a ≤ k * x.unit.step) :
    x.rate ≤ k * x.unit.step := by
  obtain ⟨units, hnearest, hrate⟩ := h.rounded
  have hle : units ≤ k := hnearest.le_natCast ((div_le_iff₀ x.unit.step_pos).mpr hk)
  rw [hrate]
  exact mul_le_mul_of_nonneg_right (Nat.cast_le.mpr hle) x.unit.step_pos.le

/-- … nor downwards. -/
theorem le_rate (h : x.IsOf a) {k : ℕ} (hk : k * x.unit.step ≤ a) :
    k * x.unit.step ≤ x.rate := by
  obtain ⟨units, hnearest, hrate⟩ := h.rounded
  have hle : k ≤ units := hnearest.natCast_le ((le_div_iff₀ x.unit.step_pos).mpr hk)
  rw [hrate]
  exact mul_le_mul_of_nonneg_right (Nat.cast_le.mpr hle) x.unit.step_pos.le

end RateReading.IsOf

/-! ## Where the unit changes -/

theorem unitOf_rat_cases (a : ℚ) :
    RateLabel.unitOf a = .one ∧ a < 1000 ∨
      RateLabel.unitOf a = .thousand ∧ 1000 ≤ a ∧ a < 1000000 ∨
      RateLabel.unitOf a = .million ∧ 1000000 ≤ a := by
  apply unitOf_cases
  · show (1000.0 : ℚ) ≤ a ↔ 1000 ≤ a
    norm_num
  · show (1000000.0 : ℚ) ≤ a ↔ 1000000 ≤ a
    norm_num

/-- Two volumes with different units have a volume between them, or at one of them, that is a whole
number of steps in both units. -/
theorem exists_threshold {a b : ℚ} (h : a ≤ b)
    (hunits : RateLabel.unitOf a ≠ RateLabel.unitOf b) :
    ∃ j k : ℕ, a ≤ j * (RateLabel.unitOf a).step ∧
      (j : ℚ) * (RateLabel.unitOf a).step = k * (RateLabel.unitOf b).step ∧
      k * (RateLabel.unitOf b).step ≤ b := by
  obtain ⟨ha, hhigh⟩ | ⟨ha, hlow, hhigh⟩ | ⟨ha, hlow⟩ := unitOf_rat_cases a
  · -- From no unit to thousands or millions, with the first volume that has the larger unit.
    obtain ⟨hb, -⟩ | ⟨hb, hreached, -⟩ | ⟨hb, hreached⟩ := unitOf_rat_cases b
    · exact absurd (ha.trans hb.symm) hunits
    · rw [ha, hb]
      refine ⟨1000, 10, ?_⟩
      simp only [RateUnit.step, Nat.cast_ofNat]
      exact ⟨by linarith, by norm_num, by linarith⟩
    · rw [ha, hb]
      refine ⟨1000000, 10, ?_⟩
      simp only [RateUnit.step, Nat.cast_ofNat]
      exact ⟨by linarith, by norm_num, by linarith⟩
  · -- From thousands to millions.
    obtain ⟨-, hshort⟩ | ⟨hb, -⟩ | ⟨hb, hreached⟩ := unitOf_rat_cases b
    · linarith
    · exact absurd (ha.trans hb.symm) hunits
    · rw [ha, hb]
      refine ⟨10000, 10, ?_⟩
      simp only [RateUnit.step, Nat.cast_ofNat]
      exact ⟨by linarith, by norm_num, by linarith⟩
  · obtain ⟨-, hshort⟩ | ⟨-, -, hshort⟩ | ⟨hb, -⟩ := unitOf_rat_cases b
    · linarith
    · linarith
    · exact absurd (ha.trans hb.symm) hunits

theorem RateReading.IsOf.rate_le_rate {x y : RateReading} {a b : ℚ} (hx : x.IsOf a) (hy : y.IsOf b)
    (h : a ≤ b) : x.rate ≤ y.rate := by
  -- In one unit rounding keeps the order; between two units lies the threshold, which both can
  -- print.
  by_cases hunits : x.unit = y.unit
  · obtain ⟨r, hr, hxrate⟩ := hx.rounded
    obtain ⟨s, hs, hyrate⟩ := hy.rounded
    have hstep := x.unit.step_pos
    rw [← hunits] at hs hyrate
    have hle : r ≤ s := hr.le_of_le hs (div_le_div_of_nonneg_right h hstep.le)
    rw [hxrate, hyrate]
    exact mul_le_mul_of_nonneg_right (Nat.cast_le.mpr hle) hstep.le
  · have hne := hunits
    rw [hx.unit, hy.unit] at hne
    obtain ⟨j, k, hbelow, hthreshold, habove⟩ := exists_threshold h hne
    rw [← hx.unit] at hbelow hthreshold
    rw [← hy.unit] at hthreshold habove
    calc x.rate ≤ j * x.unit.step := hx.rate_le hbelow
      _ = k * y.unit.step := hthreshold
      _ ≤ y.rate := hy.le_rate habove

/-- **Labels keep the order of the volumes, and come close to them.** Volumes are any numbers from
zero on, divided without rounding; what is read is rounded to half a step of its own unit.

In one unit rounding keeps the order. Between two units there is a threshold that both print
exactly, so the one below it rounds to it at most, and the one above it at least. -/
theorem rates_read_in_order {a b : ℚ} (ha : 0 ≤ a) (h : a ≤ b) :
    ∃ x y, readRate? (rateText a) = some x ∧ readRate? (rateText b) = some y ∧
      x.rate ≤ y.rate ∧ |x.rate - a| ≤ x.unit.step / 2 ∧ |y.rate - b| ≤ y.unit.step / 2 := by
  obtain ⟨x, hreadx, hx⟩ := exists_isOf ha
  obtain ⟨y, hready, hy⟩ := exists_isOf (ha.trans h)
  exact ⟨x, y, hreadx, hready, hx.rate_le_rate hy h, hx.abs_sub_le, hy.abs_sub_le⟩

/-- On the two sides of a change of the unit the labels differ, but say the same. -/
theorem rates_read_in_order_at_thousand :
    (0 : ℚ) ≤ 4998 / 5 ∧ (4998 / 5 : ℚ) ≤ 1000 ∧
      rateText (4998 / 5 : ℚ) = "1000/s" ∧ rateText (1000 : ℚ) = "1.0k/s" ∧
      ∃ x y, readRate? (rateText (4998 / 5 : ℚ)) = some x ∧
        readRate? (rateText (1000 : ℚ)) = some y ∧ x.rate ≤ y.rate ∧
        |x.rate - 4998 / 5| ≤ x.unit.step / 2 ∧ |y.rate - 1000| ≤ y.unit.step / 2 := by
  refine ⟨by norm_num, by norm_num, by decide +kernel, by decide +kernel, ?_⟩
  exact rates_read_in_order (by norm_num) (by norm_num)

end TrafficMap
