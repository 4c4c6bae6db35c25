import TrafficMap.Proofs.Number.Comparison
import TrafficMap.Proofs.View.RateReading

/-!
# Rates Just Below a Unit

The unit of a label is chosen by the volume, and only then the number is rounded. So there are
volumes that do not reach a unit, but whose numbers are rounded up to it: from 999.5 on a rate is
printed as `1000/s`, and from 999950 on as `1000.0k/s`. These are the only labels of that kind, and
all other numbers in front of the smaller units are below a thousand:
`thousand_in_smaller_unit_iff`.

The second of the two bounds takes some care, as the volume is divided before it is rounded, and the
quotient of floats is rounded itself. At 999950 the exact quotient lies so close to the middle
between two decimals that only the binary places of both decide on which side the float is.
-/

namespace TrafficMap

/-! ## Constants -/

theorem isExactly_thousand : IsExactly 1000.0 1000 :=
  isExactly_of_unpack (m := 1000 * 2 ^ 43) (e := -43) rfl (by norm_num [dyadic])

theorem isExactly_million : IsExactly 1000000.0 1000000 :=
  isExactly_of_unpack (m := 1000000 * 2 ^ 33) (e := -33) rfl (by norm_num [dyadic])

theorem isExactly_first_bound : IsExactly 999.5 (1999 / 2) :=
  isExactly_of_unpack (m := 1999 * 2 ^ 42) (e := -43) rfl (by norm_num [dyadic])

theorem isExactly_second_bound : IsExactly 999950.0 999950 :=
  isExactly_of_unpack (m := 999950 * 2 ^ 33) (e := -33) rfl (by norm_num [dyadic])

/-! ## Quotients -/

/-- A number lies between two powers of two that follow each other, and not beyond others that it
lies between. -/
theorem exists_binade {x : ℚ} {j k : ℤ} (hlow : 2 ^ j ≤ x) (hhigh : x < 2 ^ k) :
    ∃ n : ℤ, j < n ∧ n ≤ k ∧ 2 ^ (n - 1) ≤ x ∧ x < 2 ^ n := by
  have hpos : 0 < x := lt_of_lt_of_le (by positivity) hlow
  obtain ⟨n, hbelow, habove⟩ := exists_mem_Ico_zpow hpos (one_lt_two (α := ℚ))
  have hj : j < n + 1 :=
    (zpow_lt_zpow_iff_right₀ (one_lt_two (α := ℚ))).mp (hlow.trans_lt habove)
  have hk : n < k := (zpow_lt_zpow_iff_right₀ (one_lt_two (α := ℚ))).mp (hbelow.trans_lt hhigh)
  refine ⟨n + 1, hj, hk, ?_, habove⟩
  rwa [add_sub_cancel_right]

/-- From a million on, there is a float for the number of millions. -/
theorem exists_millions {v : Float} {p : ℚ} (h : IsExactly v p) (hp : 1000000 ≤ p) :
    ∃ x, 0 ≤ x ∧ IsExactly (v / 1000000.0) x := by
  have hpos : 0 < p := by linarith
  have hlow : (2 : ℚ) ^ (0 : ℤ) ≤ p / 1000000 := by
    rw [zpow_zero, le_div_iff₀ (by norm_num)]
    linarith
  -- Dividing by a million leaves room below the limit, so the quotient cannot overflow.
  have hhigh : p / 1000000 < (2 : ℚ) ^ (1023 : ℤ) := by
    have htop : (2 : ℚ) ^ (1024 : ℤ) = 2 ^ (1023 : ℤ) * 2 := by
      rw [← zpow_add_one₀ two_ne_zero]
      congr 1
    rw [div_lt_iff₀ (by norm_num)]
    calc p < 2 ^ (1023 : ℤ) * 2 := htop ▸ h.lt_two_pow hpos
      _ ≤ 2 ^ (1023 : ℤ) * 1000000 := by
        apply mul_le_mul_of_nonneg_left _ (zpow_nonneg zero_le_two _)
        norm_num
  obtain ⟨n, hn, hmax, hbelow, habove⟩ := exists_binade hlow hhigh
  obtain ⟨r, -, hquotient⟩ :=
    exists_isExactly_div h isExactly_million hpos (by norm_num) hbelow habove (by omega) hmax
  exact ⟨_, mul_nonneg r.cast_nonneg (zpow_nonneg zero_le_two _), hquotient⟩

/-- The number of thousands of a rate that is not close to a million. -/
theorem exists_thousands_of_lt {v : Float} {p : ℚ} (h : IsExactly v p) (hp : 1000 ≤ p)
    (hlt : p < 524288) : ∃ x, IsExactly (v / 1000.0) x ∧ 0 ≤ x ∧ x < 600 := by
  have hlow : (2 : ℚ) ^ (0 : ℤ) ≤ p / 1000 := by
    rw [zpow_zero]
    linarith
  have hhigh : p / 1000 < (2 : ℚ) ^ (10 : ℤ) := by
    norm_num
    linarith
  -- Division is exact up to half a place, and in this range a place is at most one.
  obtain ⟨n, hn, hmax, hbelow, habove⟩ := exists_binade hlow hhigh
  obtain ⟨r, hnearest, hquotient⟩ := exists_isExactly_div h isExactly_thousand (by linarith)
    (by norm_num) hbelow habove (by omega) (by omega)
  refine ⟨_, hquotient, by positivity, ?_⟩
  have hplace : (0 : ℚ) < 2 ^ (n - 53) := by positivity
  have hsmall : (2 : ℚ) ^ (n - 53) ≤ 1 := by
    rw [← zpow_zero (2 : ℚ)]
    exact zpow_le_zpow_right₀ one_le_two (by omega)
  calc (r : ℚ) * 2 ^ (n - 53) ≤ (p / 1000 / 2 ^ (n - 53) + 1 / 2) * 2 ^ (n - 53) :=
        mul_le_mul_of_nonneg_right hnearest.le_add_half hplace.le
    _ = p / 1000 + 1 / 2 * 2 ^ (n - 53) := by field_simp
    _ < 600 := by linarith

/-- The number of thousands of a rate that is close to a million. Rates of this size are multiples
of `2 ^ -33`, and their quotients are rounded to multiples of `2 ^ -43`. -/
theorem exists_thousands_of_le {v : Float} {p : ℚ} (h : IsExactly v p) (hlow : 524288 ≤ p)
    (hhigh : p < 1000000) :
    ∃ x, IsExactly (v / 1000.0) x ∧ 0 ≤ x ∧ x ≤ 1000 ∧ (x < 19999 / 20 ↔ p < 999950) := by
  obtain ⟨n, hn⟩ := h.exists_multiple (k := 19) (by norm_num; linarith)
  obtain ⟨r, hnearest, hquotient⟩ := exists_isExactly_div (n := 10) h isExactly_thousand
    (by linarith) (by norm_num) (by norm_num; linarith) (by norm_num; linarith) (by norm_num)
    (by norm_num)
  have hsmallest : (2 : ℚ) ^ (19 - 52 : ℤ) = 1 / 2 ^ 33 := by norm_num
  have hplace : (2 : ℚ) ^ (10 - 53 : ℤ) = 1 / 2 ^ 43 := by norm_num
  have hscale : p / 1000 / (1 / 2 ^ 43) = p * 2 ^ 43 / 1000 := by ring
  rw [hsmallest] at hn
  rw [hplace] at hquotient
  rw [hplace, hscale] at hnearest
  refine ⟨_, hquotient, by positivity, ?_, ?_⟩
  · have hle : r ≤ 1000 * 2 ^ 43 := by
      apply hnearest.le_natCast
      push_cast
      linarith
    have hcast : (r : ℚ) ≤ 1000 * 2 ^ 43 := by exact_mod_cast hle
    linarith
  constructor
  · -- From the bound on, even a quotient rounded down is a multiple of the place beyond the middle.
    intro hbelow
    by_contra hreached
    have hround := hnearest.sub_half_le
    have hclose : (19999 * 2 ^ 43 : ℚ) ≤ 20 * r + 10 := by linarith
    have hcloseNat : 19999 * 2 ^ 43 ≤ 20 * r + 10 := by exact_mod_cast hclose
    have hshort : (20 * r : ℚ) < 19999 * 2 ^ 43 := by linarith
    have hshortNat : 20 * r < 19999 * 2 ^ 43 := by exact_mod_cast hshort
    omega
  · -- The last rate before it is so far from it that its quotient is not rounded up to the middle.
    intro hbelow
    have hlast : n + 1 ≤ 999950 * 2 ^ 33 := by
      have hcast : (n : ℚ) < 999950 * 2 ^ 33 := by linarith
      exact_mod_cast hcast
    have hlastcast : (n : ℚ) + 1 ≤ 999950 * 2 ^ 33 := by exact_mod_cast hlast
    have hround := hnearest.le_add_half
    linarith

/-- The number of thousands of a rate below a million. It is above the middle between the last two
decimals before a thousand exactly if the rate reaches the second bound. -/
theorem exists_thousands {v : Float} {p : ℚ} (h : IsExactly v p) (hlow : 1000 ≤ p)
    (hhigh : p < 1000000) :
    ∃ x, IsExactly (v / 1000.0) x ∧ 0 ≤ x ∧ x ≤ 1000 ∧ (x < 19999 / 20 ↔ p < 999950) := by
  obtain hsmall | hlarge := lt_or_ge p 524288
  · obtain ⟨x, hquotient, hx, hlt⟩ := exists_thousands_of_lt h hlow hsmall
    refine ⟨x, hquotient, hx, by linarith, ?_⟩
    exact iff_of_true (by linarith) (by linarith)
  · exact exists_thousands_of_le h hlarge hhigh

/-! ## Labels of each unit -/

/-- A number up to a thousand is printed as a thousand if it is not below it by more than half of
the last place, and otherwise as less. -/
theorem exists_reading_up_to_thousand {x : ℚ} {d : FixedDecimal} {u : RateUnit}
    (h : FixedDecimal.Rounds u.places x d) (hx : x ≤ 1000) :
    ∃ q, readRate? (RateLabel.text ⟨d, u⟩) = some ⟨q, u⟩ ∧
      (q < 1000 ↔ x < 1000 - 1 / (2 * tenTo u.places)) ∧
      (RateLabel.text ⟨d, u⟩ =
          FixedDecimal.magnitudeText (1000 * tenTo u.places) u.places ++ u.suffix ↔
        1000 - 1 / (2 * tenTo u.places) ≤ x) := by
  obtain ⟨units, hnearest, hread, htext⟩ := exists_reading h
  have hpos : 0 < tenTo u.places := Nat.pow_pos (by decide)
  have hcast : (0 : ℚ) < tenTo u.places := Nat.cast_pos.mpr hpos
  -- A thousand is an even number of last places, so the middle below it goes to it.
  have heven : Even (1000 * tenTo u.places) := Even.mul_right (by decide) _
  have hmiddle : units < 1000 * tenTo u.places ↔ x < 1000 - 1 / (2 * tenTo u.places) := by
    have hscale : x * tenTo u.places < ((1000 * tenTo u.places : ℕ) : ℚ) - 1 / 2 ↔
        x < 1000 - 1 / (2 * tenTo u.places) := by
      rw [← mul_lt_mul_iff_of_pos_right hcast]
      push_cast
      field_simp
    rw [hnearest.lt_iff_of_even heven, hscale]
  have hbelow : (units : ℚ) / tenTo u.places < 1000 ↔ x < 1000 - 1 / (2 * tenTo u.places) := by
    rw [← hmiddle, div_lt_iff₀ hcast]
    exact_mod_cast Iff.rfl
  refine ⟨_, hread, hbelow, ?_⟩
  rw [← not_lt, ← hbelow]
  constructor
  · -- The text of a thousand is read as a thousand.
    intro htop
    rw [htop, readRate?_magnitudeText, Option.some.injEq, RateReading.mk.injEq] at hread
    rw [← hread.1]
    push_cast
    rw [mul_div_assoc, div_self hcast.ne', mul_one]
    exact lt_irrefl 1000
  · intro hreached
    rw [hbelow, ← hmiddle] at hreached
    have hle : units ≤ 1000 * tenTo u.places := by
      apply hnearest.le_natCast
      push_cast
      exact mul_le_mul_of_nonneg_right hx hcast.le
    obtain rfl : units = 1000 * tenTo u.places := by omega
    exact htext (by omega)

/-- Without a unit a thousand is printed from the first bound on. -/
theorem exists_reading_one {v : Float} {p : ℚ} (h : IsExactly v p) (hp : 0 ≤ p) (hlt : p < 1000)
    (hunit : RateLabel.unitOf v = .one) :
    ∃ q, readRate? (rateText v) = some ⟨q, .one⟩ ∧ (q < 1000 ↔ p < 1999 / 2) ∧
      (rateText v = "1000/s" ↔ 1999 / 2 ≤ p) := by
  have hlabel : RateLabel.ofVolume v = ⟨Scalar.rounded RateUnit.one.places v, .one⟩ := by
    rw [RateLabel.ofVolume, hunit]
  have hbound : (1000 : ℚ) - 1 / (2 * tenTo RateUnit.one.places) = 1999 / 2 := by
    norm_num [RateUnit.places, tenTo]
  have hreading := exists_reading_up_to_thousand (h.rounds_rounded hp RateUnit.one.places) hlt.le
  rw [hbound] at hreading
  rw [rateText, hlabel]
  exact hreading

/-- With thousands a thousand is printed from the second bound on. -/
theorem exists_reading_thousand {v : Float} {p : ℚ} (h : IsExactly v p) (hlow : 1000 ≤ p)
    (hhigh : p < 1000000) (hunit : RateLabel.unitOf v = .thousand) :
    ∃ q, readRate? (rateText v) = some ⟨q, .thousand⟩ ∧ (q < 1000 ↔ p < 999950) ∧
      (rateText v = "1000.0k/s" ↔ 999950 ≤ p) := by
  have hlabel : RateLabel.ofVolume v =
      ⟨Scalar.rounded RateUnit.thousand.places (v / 1000.0), .thousand⟩ := by
    rw [RateLabel.ofVolume, hunit]
    rfl
  have hbound : (1000 : ℚ) - 1 / (2 * tenTo RateUnit.thousand.places) = 19999 / 20 := by
    norm_num [RateUnit.places, tenTo]
  obtain ⟨x, hquotient, hx, hle, hmiddle⟩ := exists_thousands h hlow hhigh
  have hreading :=
    exists_reading_up_to_thousand (hquotient.rounds_rounded hx RateUnit.thousand.places) hle
  -- The bound is stated for the quotient; `hmiddle` takes it back to the rate, before rounding the
  -- division.
  rw [hbound, hmiddle, ← not_lt, hmiddle, not_lt] at hreading
  rw [rateText, hlabel]
  exact hreading

/-- There are labels in millions, however large the volume. -/
theorem exists_reading_million {v : Float} {p : ℚ} (h : IsExactly v p) (hp : 1000000 ≤ p)
    (hunit : RateLabel.unitOf v = .million) :
    ∃ q, readRate? (rateText v) = some ⟨q, .million⟩ := by
  have hlabel : RateLabel.ofVolume v =
      ⟨Scalar.rounded RateUnit.million.places (v / 1000000.0), .million⟩ := by
    rw [RateLabel.ofVolume, hunit]
    rfl
  obtain ⟨x, hx, hquotient⟩ := exists_millions h hp
  obtain ⟨units, -, hread, -⟩ :=
    exists_reading (hquotient.rounds_rounded hx RateUnit.million.places)
  rw [rateText, hlabel]
  exact ⟨_, hread⟩

/-! ## All labels -/

theorem unitOf_float_cases {v : Float} {p : ℚ} (h : IsExactly v p) :
    RateLabel.unitOf v = .one ∧ p < 1000 ∨
      RateLabel.unitOf v = .thousand ∧ 1000 ≤ p ∧ p < 1000000 ∨
      RateLabel.unitOf v = .million ∧ 1000000 ≤ p :=
  unitOf_cases (isExactly_thousand.le_iff h) (isExactly_million.le_iff h)

/-- A text says in which unit it is. -/
theorem rateText_ne {v : Float} {q : ℚ} {u w : RateUnit}
    (hread : readRate? (rateText v) = some ⟨q, u⟩) (hne : w ≠ u) (units : ℕ) :
    rateText v ≠ FixedDecimal.magnitudeText units w.places ++ w.suffix := by
  intro heq
  rw [heq, readRate?_magnitudeText, Option.some.injEq, RateReading.mk.injEq] at hread
  exact hne hread.2

/-- **A thousand stands in front of a smaller unit exactly from half a step below the next unit
on.** Every volume has a label that can be read, with the unit that the volume reaches.

The unit is chosen by the volume, and the number is rounded after that. Dividing by a thousand
rounds as well, but close to the bound floats lie far enough apart that no quotient gets to the
other side of the middle between two labels. -/
theorem thousand_in_smaller_unit_iff (v : Float) (hfinite : v.isFinite = true) (hv : 0.0 ≤ v) :
    ∃ r, readRate? (rateText v) = some r ∧ r.unit = RateLabel.unitOf v ∧
      (r.unit ≠ .million →
        (r.number < 1000 ↔ ¬ (999.5 ≤ v ∧ v < 1000.0) ∧ ¬ (999950.0 ≤ v ∧ v < 1000000.0))) ∧
      (rateText v = "1000/s" ↔ 999.5 ≤ v ∧ v < 1000.0) ∧
      (rateText v = "1000.0k/s" ↔ 999950.0 ≤ v ∧ v < 1000000.0) := by
  obtain ⟨p, h⟩ := exists_isExactly hfinite
  have hp : 0 ≤ p := (isExactly_zero.le_iff h).mp hv
  -- From here on it is about the number behind the float.
  rw [isExactly_first_bound.le_iff h, h.lt_iff isExactly_thousand,
    isExactly_second_bound.le_iff h, h.lt_iff isExactly_million]
  obtain ⟨hunit, hhigh⟩ | ⟨hunit, hlow, hhigh⟩ | ⟨hunit, hlow⟩ := unitOf_float_cases h
  · obtain ⟨q, hread, hless, htext⟩ := exists_reading_one h hp hhigh hunit
    have hsecond : ¬ (999950 ≤ p ∧ p < 1000000) := by
      rintro ⟨hreached, -⟩
      linarith
    refine ⟨⟨q, .one⟩, hread, hunit.symm, ?_, ?_, ?_⟩
    · intro _
      simp only [hless, hhigh, hsecond, and_true, not_le, not_false_eq_true]
    · simp only [htext, hhigh, and_true]
    · exact iff_of_false (rateText_ne (w := .thousand) hread (by decide) 10000) hsecond
  · obtain ⟨q, hread, hless, htext⟩ := exists_reading_thousand h hlow hhigh hunit
    have hfirst : ¬ (1999 / 2 ≤ p ∧ p < 1000) := by
      rintro ⟨-, hshort⟩
      linarith
    refine ⟨⟨q, .thousand⟩, hread, hunit.symm, ?_, ?_, ?_⟩
    · intro _
      simp only [hless, hhigh, hfirst, and_true, true_and, not_le, not_false_eq_true]
    · exact iff_of_false (rateText_ne (w := .one) hread (by decide) 1000) hfirst
    · simp only [htext, hhigh, and_true]
  · -- Millions are beyond both ranges.
    obtain ⟨q, hread⟩ := exists_reading_million h hlow hunit
    have hfirst : ¬ (1999 / 2 ≤ p ∧ p < 1000) := by
      rintro ⟨-, hshort⟩
      linarith
    have hsecond : ¬ (999950 ≤ p ∧ p < 1000000) := by
      rintro ⟨-, hshort⟩
      linarith
    refine ⟨⟨q, .million⟩, hread, hunit.symm, ?_, ?_, ?_⟩
    · intro hne
      exact absurd rfl hne
    · exact iff_of_false (rateText_ne (w := .one) hread (by decide) 1000) hfirst
    · exact iff_of_false (rateText_ne (w := .thousand) hread (by decide) 10000) hsecond

/-- Just below the second bound the number stays below a thousand. -/
theorem thousand_in_smaller_unit_iff_of_close_below :
    (999949.9 : Float).isFinite = true ∧ (0.0 : Float) ≤ 999949.9 ∧
      rateText (999949.9 : Float) = "999.9k/s" ∧
      ∃ r, readRate? (rateText (999949.9 : Float)) = some r ∧
        r.unit = RateLabel.unitOf (999949.9 : Float) ∧
        (r.unit ≠ .million →
          (r.number < 1000 ↔ ¬ ((999.5 : Float) ≤ 999949.9 ∧ (999949.9 : Float) < 1000.0) ∧
            ¬ ((999950.0 : Float) ≤ 999949.9 ∧ (999949.9 : Float) < 1000000.0))) ∧
        (rateText (999949.9 : Float) = "1000/s" ↔
          (999.5 : Float) ≤ 999949.9 ∧ (999949.9 : Float) < 1000.0) ∧
        (rateText (999949.9 : Float) = "1000.0k/s" ↔
          (999950.0 : Float) ≤ 999949.9 ∧ (999949.9 : Float) < 1000000.0) := by
  refine ⟨by decide, by decide, by decide +kernel, ?_⟩
  exact thousand_in_smaller_unit_iff 999949.9 (by decide) (by decide)

/-- At the bounds themselves a thousand is printed, although the next unit is only reached later. -/
theorem exists_thousand_in_smaller_unit :
    ((999.5 : Float).isFinite = true ∧ (0.0 : Float) ≤ 999.5 ∧
        rateText (999.5 : Float) = "1000/s" ∧
        readRate? (rateText (999.5 : Float)) = some ⟨1000, .one⟩) ∧
      (999950.0 : Float).isFinite = true ∧ (0.0 : Float) ≤ 999950.0 ∧
        rateText (999950.0 : Float) = "1000.0k/s" ∧
        readRate? (rateText (999950.0 : Float)) = some ⟨1000, .thousand⟩ := by
  decide +kernel

end TrafficMap
