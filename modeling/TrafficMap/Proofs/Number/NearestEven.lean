import Mathlib
import TrafficMap.Number.Binary

/-!
# Numbers: The Nearest Whole Number

What rounding to a whole number does, without saying how. A whole number is nearest to `x` if it is
not farther from it than a half, and of two nearest ones the even one counts. This leaves no choice,
and it keeps the order of what is rounded: `IsNearestEven.le_of_le`.

Decimals with a fixed number of places are rounded this way, and so are the mantissas of floats.
-/

namespace TrafficMap

/-- The whole number is nearest to `x`, and even if `x` is halfway between two whole numbers. These
two properties determine it, and they are all that is used of rounding when labels are compared. -/
structure IsNearestEven (x : ℚ) (r : ℕ) : Prop where
  near : |(r : ℚ) - x| ≤ 1 / 2
  even : |(r : ℚ) - x| = 1 / 2 → Even r

namespace IsNearestEven

variable {x y : ℚ} {r s k : ℕ}

/-- Whole numbers are nearest to themselves. -/
theorem natCast (k : ℕ) : IsNearestEven k k where
  near := by simp
  even h := by simp at h

theorem le_add_half (h : IsNearestEven x r) : (r : ℚ) ≤ x + 1 / 2 := by
  have := (abs_le.mp h.near).2
  linarith

theorem sub_half_le (h : IsNearestEven x r) : x - 1 / 2 ≤ r := by
  have := (abs_le.mp h.near).1
  linarith

/-- **Rounding keeps the order.** It follows from the two properties of the relation, without a look
at how rounding is done. -/
theorem le_of_le (hx : IsNearestEven x r) (hy : IsNearestEven y s) (h : x ≤ y) : r ≤ s := by
  by_contra hlt
  have hstep : (s : ℚ) + 1 ≤ r := by exact_mod_cast (by omega : s + 1 ≤ r)
  have hr := hx.le_add_half
  have hs := hy.sub_half_le
  -- Between `s` and `r` there is room for one number only, the one halfway between them.
  have hrx : (r : ℚ) - x = 1 / 2 := by linarith
  have hsy : (s : ℚ) - y = -(1 / 2) := by linarith
  have hnext : r = s + 1 := by
    have hcast : (r : ℚ) = ((s + 1 : ℕ) : ℚ) := by
      push_cast
      linarith
    exact_mod_cast hcast
  have hreven : Even r := hx.even (by rw [hrx, abs_of_pos one_half_pos])
  have hseven : Even s := hy.even (by rw [hsy, abs_neg, abs_of_pos one_half_pos])
  rw [hnext] at hreven
  exact (Nat.even_add_one.mp hreven) hseven

/-- What is not below a whole number is not rounded below it. -/
theorem natCast_le (h : IsNearestEven x r) (hk : (k : ℚ) ≤ x) : k ≤ r :=
  (natCast k).le_of_le h hk

/-- What is not above a whole number is not rounded above it. -/
theorem le_natCast (h : IsNearestEven x r) (hk : x ≤ k) : r ≤ k :=
  h.le_of_le (natCast k) hk

/-- Half a unit below an even number begins what is rounded to it. -/
theorem lt_iff_of_even (h : IsNearestEven x r) (hk : Even k) : r < k ↔ x < k - 1 / 2 := by
  constructor
  · intro hlt
    have hstep : (r : ℚ) + 1 ≤ k := by exact_mod_cast hlt
    have hx := h.sub_half_le
    apply lt_of_le_of_ne
    · linarith
    · -- The number halfway is rounded to the even one, and that is `k`.
      intro hhalf
      have hrx : (r : ℚ) - x = -(1 / 2) := by linarith
      have hnext : k = r + 1 := by
        have hcast : (k : ℚ) = ((r + 1 : ℕ) : ℚ) := by
          push_cast
          linarith
        exact_mod_cast hcast
      have hreven : Even r := h.even (by rw [hrx, abs_neg, abs_of_pos one_half_pos])
      rw [hnext] at hk
      exact (Nat.even_add_one.mp hk) hreven
  · intro hlt
    have hr := h.le_add_half
    have hcast : (r : ℚ) < k := by linarith
    exact_mod_cast hcast

/-! ### By the fraction -/

/-- Less than a half is dropped. -/
theorem add_of_lt_half (q : ℕ) {f : ℚ} (hf : 0 ≤ f) (hlt : f < 1 / 2) :
    IsNearestEven (q + f) q := by
  have hdistance : |(q : ℚ) - (q + f)| = f := by
    rw [sub_add_cancel_left, abs_neg, abs_of_nonneg hf]
  constructor
  · rw [hdistance]
    exact hlt.le
  · rw [hdistance]
    intro h
    exact absurd h hlt.ne

/-- A half goes to the even neighbour. -/
theorem add_half (q : ℕ) : IsNearestEven (q + 1 / 2) (q + q % 2) := by
  have hdistance : |((q + q % 2 : ℕ) : ℚ) - (q + 1 / 2)| = 1 / 2 := by
    -- Down from an even number and up from an odd one; the distance is a half both times.
    obtain hbit | hbit := Nat.mod_two_eq_zero_or_one q
    · rw [hbit, Nat.add_zero, sub_add_cancel_left, abs_neg, abs_of_pos one_half_pos]
    · rw [hbit]
      push_cast
      rw [add_sub_add_left_eq_sub]
      norm_num
  refine ⟨hdistance.le, ?_⟩
  intro _
  rw [Nat.even_iff]
  omega

/-- More than a half counts as one. -/
theorem add_of_half_lt (q : ℕ) {f : ℚ} (hlt : 1 / 2 < f) (hf : f < 1) :
    IsNearestEven (q + f) (q + 1) := by
  have hdistance : |((q + 1 : ℕ) : ℚ) - (q + f)| = 1 - f := by
    push_cast
    rw [add_sub_add_left_eq_sub, abs_of_pos (sub_pos.mpr hf)]
  constructor
  · rw [hdistance]
    linarith
  · rw [hdistance]
    intro h
    linarith

end IsNearestEven

/-! ## Rounding a quotient -/

/-- Division with a rest, as a quotient of rational numbers. -/
theorem cast_div_eq (n : ℕ) {d : ℕ} (hd : 0 < d) :
    (n : ℚ) / d = ((n / d : ℕ) : ℚ) + ((n % d : ℕ) : ℚ) / d := by
  have hpos : (d : ℚ) ≠ 0 := by positivity
  have hsum : (n : ℚ) = d * ((n / d : ℕ) : ℚ) + ((n % d : ℕ) : ℚ) := by
    exact_mod_cast (Nat.div_add_mod n d).symm
  rw [div_eq_iff hpos, add_mul, div_mul_cancel₀ _ hpos]
  linarith

/-- A part of the divisor compares with a half of it as twice the part with all of it. -/
theorem compare_two_mul_div (r : ℕ) {d : ℕ} (hd : 0 < d) :
    compare (2 * r) d = compare ((r : ℚ) / d) (1 / 2) := by
  have hpos : (0 : ℚ) < d := by exact_mod_cast hd
  -- `compare` is known for each of the three relations, and each is carried over by a cast.
  obtain hlt | heq | hgt := lt_trichotomy (2 * r) d
  · have hcast : 2 * (r : ℚ) < d := by exact_mod_cast hlt
    rw [compare_lt_iff_lt.mpr hlt, eq_comm, compare_lt_iff_lt, div_lt_div_iff₀ hpos two_pos]
    linarith
  · have hcast : 2 * (r : ℚ) = d := by exact_mod_cast heq
    rw [compare_eq_iff_eq.mpr heq, eq_comm, compare_eq_iff_eq, div_eq_div_iff hpos.ne' two_ne_zero]
    linarith
  · have hcast : (d : ℚ) < 2 * r := by exact_mod_cast hgt
    rw [compare_gt_iff_gt.mpr hgt, eq_comm, compare_gt_iff_gt, div_lt_div_iff₀ two_pos hpos]
    linarith

theorem isNearestEven_roundHalfEven (n : ℕ) {d : ℕ} (hd : 0 < d) :
    IsNearestEven ((n : ℚ) / d) (roundHalfEven n d) := by
  have hpos : (0 : ℚ) < d := by exact_mod_cast hd
  have hrest : 0 ≤ ((n % d : ℕ) : ℚ) / d := by positivity
  have hbelow : ((n % d : ℕ) : ℚ) / d < 1 := by
    rw [div_lt_one hpos]
    exact_mod_cast Nat.mod_lt n hd
  have hcompare := compare_two_mul_div (n % d) hd
  rw [cast_div_eq n hd]
  unfold roundHalfEven
  simp only []
  -- The program compares whole numbers, the statement rationals; `hcompare` takes one for the
  -- other.
  obtain hlt | heq | hgt := lt_trichotomy (2 * (n % d)) d
  · rw [compare_lt_iff_lt.mpr hlt, eq_comm, compare_lt_iff_lt] at hcompare
    rw [if_pos hlt]
    exact .add_of_lt_half _ hrest hcompare
  · rw [compare_eq_iff_eq.mpr heq, eq_comm, compare_eq_iff_eq] at hcompare
    rw [if_neg (by omega), if_neg (by omega), hcompare]
    exact .add_half _
  · rw [compare_gt_iff_gt.mpr hgt, eq_comm, compare_gt_iff_gt] at hcompare
    rw [if_neg (by omega), if_pos hgt]
    exact .add_of_half_lt _ hcompare hbelow

theorem exists_isNearestEven {x : ℚ} (hx : 0 ≤ x) : ∃ r, IsNearestEven x r := by
  have hnum : ((x.num.natAbs : ℕ) : ℚ) = x.num := by
    rw [Nat.cast_natAbs, abs_of_nonneg (Rat.num_nonneg.mpr hx)]
  have h := isNearestEven_roundHalfEven x.num.natAbs x.den_pos
  rw [hnum, Rat.num_div_den] at h
  exact ⟨_, h⟩

end TrafficMap
