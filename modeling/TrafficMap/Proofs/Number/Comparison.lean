import TrafficMap.Proofs.Number.Magnitude

/-!
# Numbers: Comparison and Division of Floats

Floats are compared by exponent and mantissa, and that is the order of the numbers that they stand
for: the mantissa has 53 binary digits, or the exponent is the least of all, so a larger exponent
cannot be made up for by the mantissa. The two zeros stand for the same number.

The quotient of two floats above zero is the exact quotient, rounded to 53 digits, as long as it is
in the range where the format has all of them.
-/

namespace TrafficMap

open Float.Model (UnpackedFloat Format)
open Float.Model.UnpackedFloat (Sign)

/-! ## The number behind a float -/

/-- The float is finite, and stands for exactly this number. Arithmetic on floats is compared with
that on the rational numbers that they stand for. -/
def IsExactly (v : Float) (p : ℚ) : Prop := (Binary.ofFloat v).toRat? = some p

/-- Finite floats stand for numbers. -/
theorem exists_isExactly {v : Float} (h : v.isFinite = true) : ∃ p, IsExactly v p := by
  have hfinite : UnpackedFloat.isFinite v.toModel.unpack = true := h
  unfold IsExactly Binary.ofFloat
  cases hv : v.toModel.unpack with
  | zero s => exact ⟨_, toRat?_finite (isMinus s) 0 0⟩
  | finite s m e hm => exact ⟨_, toRat?_finite (isMinus s) m e⟩
  | infinity s =>
    rw [hv] at hfinite
    cases hfinite
  | notANumber =>
    rw [hv] at hfinite
    cases hfinite

/-- With its sign, a number of an exponent and a mantissa. -/
def signed (s : Sign) (q : ℚ) : ℚ := if isMinus s then -q else q

@[simp]
theorem signed_positive (q : ℚ) : signed .positive q = q := rfl

@[simp]
theorem signed_negative (q : ℚ) : signed .negative q = -q := rfl

/-- What a float that stands for a number is: a zero, or digits and an exponent. -/
theorem IsExactly.unpack {v : Float} {p : ℚ} (h : IsExactly v p) :
    (∃ s, v.toModel.unpack = .zero s ∧ p = 0) ∨
      ∃ s m e hm, v.toModel.unpack = .finite s m e hm ∧ p = signed s (dyadic m e) := by
  unfold IsExactly Binary.ofFloat at h
  -- An infinity, or what is no number, stands for no rational.
  cases hv : v.toModel.unpack with
  | zero s =>
    rw [hv, Binary.ofUnpacked, toRat?_finite, Option.some.injEq, dyadic, Nat.cast_zero, zero_mul,
      neg_zero, ite_self] at h
    exact .inl ⟨s, rfl, h.symm⟩
  | finite s m e hm =>
    rw [hv, Binary.ofUnpacked, toRat?_finite, Option.some.injEq] at h
    exact .inr ⟨s, m, e, hm, rfl, h.symm⟩
  | infinity s =>
    rw [hv] at h
    cases h
  | notANumber =>
    rw [hv] at h
    cases h

/-- What has been rounded and is finite stands for the nearest number. -/
theorem IsRounding.exists_toRat? {spec : Format} {s : Sign} {q : ℚ} {v : UnpackedFloat}
    (h : IsRounding spec s q v) (hv : v.isFinite = true) :
    ∃ p, IsRounded spec q p ∧ (Binary.ofUnpacked v).toRat? = some (signed s p) := by
  cases h with
  | zero hq =>
    refine ⟨0, hq, ?_⟩
    rw [Binary.ofUnpacked, toRat?_finite, dyadic, Nat.cast_zero, zero_mul]
    rfl
  | finite haligned hle hq => exact ⟨_, hq, toRat?_finite _ _ _⟩
  | infinity => cases hv

/-- Floats above zero have a mantissa and the plus sign. -/
theorem IsExactly.unpack_of_pos {v : Float} {p : ℚ} (h : IsExactly v p) (hp : 0 < p) :
    ∃ m e hm, v.toModel.unpack = .finite .positive m e hm ∧ p = dyadic m e := by
  obtain ⟨s, hv, rfl⟩ | ⟨s, m, e, hm, hv, rfl⟩ := h.unpack
  · exact absurd hp (lt_irrefl 0)
  · cases s with
    | positive => exact ⟨m, e, hm, hv, rfl⟩
    | negative =>
      have hpos := dyadic_pos hm e
      rw [signed_negative] at hp
      linarith

/-- A mantissa and an exponent are the number that they denote. -/
theorem isExactly_of_unpack {v : Float} {m : ℕ} {e : ℤ} {hm : 0 < m} {p : ℚ}
    (h : v.toModel.unpack = .finite .positive m e hm) (hp : dyadic m e = p) : IsExactly v p := by
  rw [IsExactly, Binary.ofFloat, h, Binary.ofUnpacked, toRat?_finite, ← hp]
  rfl

theorem isExactly_zero : IsExactly 0.0 0 := by
  rw [IsExactly, Binary.ofFloat, unpack_zero, Binary.ofUnpacked, toRat?_finite, dyadic]
  simp

/-! ## Range -/

/-- A 64-bit float has 53 binary digits or the least exponent, and never a greater exponent than its
format allows. -/
theorem range_of_unpack {b : BitVec Format.binary64.numBits} {s : Sign} {m : ℕ} {e : ℤ}
    {hm : 0 < m} (h : UnpackedFloat.unpack Format.binary64 b = .finite s m e hm) :
    (2 ^ 52 ≤ m ∨ e = -1074) ∧ e ≤ 971 := by
  obtain ⟨haligned, hle⟩ := aligned_of_unpack (by decide) h
  obtain ⟨-, -, -, hdigits⟩ := isAligned_iff.mp haligned
  refine ⟨hdigits.imp_left fun hfull => ?_, hle⟩
  exact (Nat.le_log2 hm.ne').mp (Nat.le_of_succ_le_succ hfull.ge)

/-- Every float is below the power of two that its format ends with. -/
theorem IsExactly.lt_two_pow {v : Float} {p : ℚ} (h : IsExactly v p) (hp : 0 < p) :
    p < 2 ^ (1024 : ℤ) := by
  obtain ⟨m, e, hm, hv, rfl⟩ := h.unpack_of_pos hp
  obtain ⟨hdigits, -⟩ := digits_of_unpack hv
  have hmcast : (m : ℚ) < 2 ^ 53 := by exact_mod_cast hdigits
  -- Digits and exponent at most, which together are 1024.
  calc dyadic m e < 2 ^ 53 * 2 ^ e := mul_lt_mul_of_pos_right hmcast (by positivity)
    _ ≤ 2 ^ 53 * 2 ^ (971 : ℤ) := by
      apply mul_le_mul_of_nonneg_left _ (by positivity)
      exact zpow_le_zpow_right₀ one_le_two (range_of_unpack hv).2
    _ = 2 ^ (1024 : ℤ) := by
      rw [← zpow_natCast, ← zpow_add₀ two_ne_zero]
      congr 1

/-- From a power of two on, floats are whole multiples of the place of its 53rd digit. -/
theorem IsExactly.exists_multiple {v : Float} {p : ℚ} {k : ℤ} (h : IsExactly v p)
    (hk : 2 ^ k ≤ p) : ∃ n : ℕ, p = n * 2 ^ (k - 52) := by
  obtain ⟨m, e, hm, hv, rfl⟩ := h.unpack_of_pos (lt_of_lt_of_le (by positivity) hk)
  obtain ⟨hdigits, -⟩ := digits_of_unpack hv
  have hmcast : (m : ℚ) < 2 ^ 53 := by exact_mod_cast hdigits
  -- The exponent is at least that of the place in question, and the rest goes into the mantissa.
  have hexponent : k < 53 + e := by
    rw [← zpow_lt_zpow_iff_right₀ (one_lt_two (α := ℚ)), zpow_add₀ two_ne_zero]
    exact hk.trans_lt (mul_lt_mul_of_pos_right hmcast (by positivity))
  obtain ⟨j, hj⟩ : ∃ j : ℕ, e - (k - 52) = j := Int.eq_ofNat_of_zero_le (by omega)
  refine ⟨m * 2 ^ j, ?_⟩
  have hsplit : (2 : ℚ) ^ e = 2 ^ j * 2 ^ (k - 52) := by
    rw [← zpow_natCast, ← zpow_add₀ two_ne_zero]
    congr 1
    omega
  rw [dyadic, hsplit]
  push_cast
  ring

/-! ## Order -/

/-- The larger exponent decides. -/
theorem dyadic_lt_of_exponent_lt {m n : ℕ} {d e : ℤ} (hm : m < 2 ^ 53) (hn : 2 ^ 52 ≤ n)
    (h : d < e) : dyadic m d < dyadic n e := by
  have hmcast : (m : ℚ) < 2 ^ 53 := by exact_mod_cast hm
  have hncast : (2 : ℚ) ^ 52 ≤ n := by exact_mod_cast hn
  -- One more in the exponent outweighs the digits: a full mantissa is less than twice a least one.
  calc dyadic m d < 2 ^ 53 * 2 ^ d := mul_lt_mul_of_pos_right hmcast (by positivity)
    _ = 2 ^ 52 * 2 ^ (d + 1) := by
      rw [zpow_add_one₀ two_ne_zero]
      ring
    _ ≤ 2 ^ 52 * 2 ^ e := by
      apply mul_le_mul_of_nonneg_left _ (by positivity)
      exact zpow_le_zpow_right₀ one_le_two h
    _ ≤ dyadic n e := mul_le_mul_of_nonneg_right hncast (by positivity)

/-- Two mantissas at the exponents that the format gives them. -/
theorem compare_dyadic {m n : ℕ} {d e : ℤ} (hm : m < 2 ^ 53) (hn : n < 2 ^ 53)
    (hd : 2 ^ 52 ≤ m ∨ d = -1074) (he : 2 ^ 52 ≤ n ∨ e = -1074) (hdlow : -1074 ≤ d)
    (helow : -1074 ≤ e) :
    (compare d e).then (compare m n) = compare (dyadic m d) (dyadic n e) := by
  -- Mantissas are as long as the format allows, so the exponents decide first.
  obtain hlt | rfl | hgt := lt_trichotomy d e
  · rw [Int.compare_eq_lt.mpr hlt, Ordering.lt_then, eq_comm, compare_lt_iff_lt]
    exact dyadic_lt_of_exponent_lt hm (by omega) hlt
  · have hpos : (0 : ℚ) < 2 ^ d := by positivity
    rw [Int.compare_eq_eq.mpr rfl, Ordering.eq_then]
    obtain hless | rfl | hmore := lt_trichotomy m n
    · rw [compare_lt_iff_lt.mpr hless, eq_comm, compare_lt_iff_lt]
      exact mul_lt_mul_of_pos_right (Nat.cast_lt.mpr hless) hpos
    · rw [compare_eq_iff_eq.mpr rfl, compare_eq_iff_eq.mpr rfl]
    · rw [compare_gt_iff_gt.mpr hmore, eq_comm, compare_gt_iff_gt]
      exact mul_lt_mul_of_pos_right (Nat.cast_lt.mpr hmore) hpos
  · rw [Int.compare_eq_gt.mpr hgt, Ordering.gt_then, eq_comm, compare_gt_iff_gt]
    exact dyadic_lt_of_exponent_lt hn (by omega) hgt

/-- **Floats compare as the numbers that they stand for.** Both zeros stand for the same number, and
compare as equal. -/
theorem IsExactly.compare {a b : Float} {p q : ℚ} (ha : IsExactly a p) (hb : IsExactly b q) :
    a.toModel.unpack.compare b.toModel.unpack = some (Ord.compare p q) := by
  obtain ⟨s, hx, rfl⟩ | ⟨s, m, d, hm, hx, rfl⟩ := ha.unpack
  · obtain ⟨t, hy, rfl⟩ | ⟨t, n, e, hn, hy, rfl⟩ := hb.unpack
    · rw [hx, hy, compare_eq_iff_eq.mpr rfl]
      rfl
    · have hpos := dyadic_pos hn e
      rw [hx, hy]
      cases t with
      | positive =>
        rw [signed_positive, compare_lt_iff_lt.mpr hpos]
        rfl
      | negative =>
        rw [signed_negative, compare_gt_iff_gt.mpr (neg_lt_zero.mpr hpos)]
        rfl
  · have hmpos := dyadic_pos hm d
    obtain ⟨t, hy, rfl⟩ | ⟨t, n, e, hn, hy, rfl⟩ := hb.unpack
    · rw [hx, hy]
      cases s with
      | positive =>
        rw [signed_positive, compare_gt_iff_gt.mpr hmpos]
        rfl
      | negative =>
        rw [signed_negative, compare_lt_iff_lt.mpr (neg_lt_zero.mpr hmpos)]
        rfl
    · have hnpos := dyadic_pos hn e
      obtain ⟨hmdigits, hdlow⟩ := digits_of_unpack hx
      obtain ⟨hndigits, helow⟩ := digits_of_unpack hy
      have hmagnitudes := compare_dyadic hmdigits hndigits (range_of_unpack hx).1
        (range_of_unpack hy).1 hdlow helow
      rw [hx, hy]
      -- Only where the signs are the same the magnitudes are looked at.
      cases s <;> cases t
      case positive.positive => exact congrArg some hmagnitudes
      case positive.negative =>
        rw [signed_positive, signed_negative, compare_gt_iff_gt.mpr (by linarith)]
        rfl
      case negative.positive =>
        rw [signed_positive, signed_negative, compare_lt_iff_lt.mpr (by linarith)]
        rfl
      case negative.negative =>
        have hswap : Ord.compare (-dyadic m d) (-dyadic n e) =
            (Ord.compare (dyadic m d) (dyadic n e)).swap := by
          obtain hlt | heq | hgt := lt_trichotomy (dyadic m d) (dyadic n e)
          · rw [compare_lt_iff_lt.mpr hlt, compare_gt_iff_gt.mpr (neg_lt_neg hlt)]
            rfl
          · rw [heq, compare_eq_iff_eq.mpr rfl, compare_eq_iff_eq.mpr rfl]
            rfl
          · rw [compare_gt_iff_gt.mpr hgt, compare_lt_iff_lt.mpr (neg_lt_neg hgt)]
            rfl
        rw [signed_negative, signed_negative, hswap, ← hmagnitudes]
        rfl

theorem IsExactly.le_iff {a b : Float} {p q : ℚ} (ha : IsExactly a p) (hb : IsExactly b q) :
    a ≤ b ↔ p ≤ q := by
  rw [float_le_iff, ha.compare hb, Option.any_some, Ordering.isLE_iff_ne_gt, compare_gt_iff_gt,
    not_lt]

theorem IsExactly.lt_iff {a b : Float} {p q : ℚ} (ha : IsExactly a p) (hb : IsExactly b q) :
    a < b ↔ p < q := by
  rw [float_lt_iff, ha.compare hb, Option.some.injEq, compare_lt_iff_lt]

/-! ## Division

The statement is about positive quotients that are not subnormal; all rates beyond a thousand are
such quotients.
-/

/-- **The quotient of two floats** above zero is the exact quotient, rounded to 53 digits. -/
theorem exists_isExactly_div {a b : Float} {p q : ℚ} {n : ℤ} (ha : IsExactly a p)
    (hb : IsExactly b q) (hp : 0 < p) (hq : 0 < q) (hlow : (2 : ℚ) ^ (n - 1) ≤ p / q)
    (hhigh : p / q < 2 ^ n) (hn : -1021 ≤ n) (hmax : n ≤ 1023) :
    ∃ r : ℕ, IsNearestEven (p / q / 2 ^ (n - 53)) r ∧ IsExactly (a / b) (r * 2 ^ (n - 53)) := by
  obtain ⟨m₁, e₁, hm₁, hx, rfl⟩ := ha.unpack_of_pos hp
  obtain ⟨m₂, e₂, hm₂, hy, rfl⟩ := hb.unpack_of_pos hq
  have hrounding : IsRounding Format.binary64 .positive (dyadic m₁ e₁ / dyadic m₂ e₂)
      (a / b).toModel.unpack := by
    have h : IsRounding Format.binary64 .positive (dyadic m₁ e₁ / dyadic m₂ e₂) _ :=
      isRounding_div (by decide) .positive .positive hm₁ hm₂
    rwa [← hx, ← hy] at h
  have hfinite : (a / b).isFinite = true := by
    refine (hrounding.isFinite_iff (by decide)).mpr (hhigh.trans_le ?_)
    have hhalf : (2 : ℚ) ^ (970 : ℤ) ≤ 2 ^ (1023 : ℤ) :=
      zpow_le_zpow_right₀ one_le_two (by decide)
    have hdouble : (2 : ℚ) ^ 2 ^ 10 = 2 * 2 ^ (1023 : ℤ) := pow_succ' 2 1023
    calc (2 : ℚ) ^ n ≤ 2 ^ (1023 : ℤ) := zpow_le_zpow_right₀ one_le_two hmax
      _ ≤ 2 ^ 2 ^ 10 - 2 ^ (970 : ℤ) := by
        rw [hdouble, two_mul, le_sub_iff_add_le]
        exact add_le_add_right hhalf _
  -- The place of the quotient is that of its 53rd digit.
  have hplace : IsPlace Format.binary64 (dyadic m₁ e₁ / dyadic m₂ e₂) (n - 53) := by
    refine ⟨?_, ?_, .inr ?_⟩
    · show -1074 ≤ n - 53
      omega
    · show _ < (2 : ℚ) ^ (n - 53 + 53)
      rwa [sub_add_cancel]
    · show (2 : ℚ) ^ (n - 53 + 53 - 1) ≤ _
      rwa [sub_add_cancel]
  obtain ⟨_, ⟨e, r, he, hr, rfl⟩, hexactly⟩ := hrounding.exists_toRat? hfinite
  obtain rfl := he.unique hplace
  exact ⟨r, hr, hexactly⟩

end TrafficMap
