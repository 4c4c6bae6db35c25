import Mathlib
import TrafficMap.Proofs.Number.Comparison

/-!
# Numbers: Floats and Decimals

Between floats and the numbers that people write. The float that is made of a whole number times a
power of ten is the float nearest to it, however long the number and however great the power: what
is beyond all floats becomes an infinity, and what is too small for any of them zero. In the other
direction, the word that is made of a float is its whole part, as far as words reach.
-/

namespace TrafficMap

open Float.Model (UnpackedFloat Format)
open Float.Model.UnpackedFloat (ExtendedMantissa Sign)

/-! ## From decimals -/

/-- **The float of a decimal is the float nearest to it.** A power of ten is multiplied with or
divided by exactly, and only the result is rounded. Very great and very small powers are not even
computed, and there the result is the same. -/
theorem isRounding_ofScientific (n : ℕ) (power : ℤ) :
    IsRounding Format.binary64 .positive (n * 10 ^ power)
      (UnpackedFloat.unpack Format.binary64 (UnpackedFloat.pack Format.binary64
        (UnpackedFloat.ofScientific Format.binary64 n power))) := by
  have hten : (2 : ℚ) ≤ 10 := by norm_num
  have hbits : ((2 : ℤ) ^ Format.binary64.exponentBits) = 2048 := rfl
  unfold UnpackedFloat.ofScientific
  split_ifs with hzero hlarge hsmall hnonneg
  · rw [hzero, Nat.cast_zero, zero_mul, unpack_pack_of_special (by simp)]
    exact .zero (isRounded_zero le_rfl (by positivity))
  · -- So great a power alone is beyond all floats.
    have hn : (1 : ℚ) ≤ n := by exact_mod_cast Nat.pos_of_ne_zero hzero
    have hpower : ((2 ^ 10 : ℕ) : ℤ) ≤ power := by omega
    rw [unpack_pack_of_special (by simp)]
    apply isRounding_infinity (by decide)
    calc (2 : ℚ) ^ 2 ^ 10 = 2 ^ ((2 ^ 10 : ℕ) : ℤ) := (zpow_natCast _ _).symm
      _ ≤ 2 ^ power := zpow_le_zpow_right₀ one_le_two hpower
      _ ≤ 10 ^ power := zpow_le_zpow_left₀ (by omega) two_pos.le hten
      _ ≤ n * 10 ^ power := le_mul_of_one_le_left (by positivity) hn
  · -- So small a power leaves less than half of the least float, whatever the digits are.
    have hn : (n : ℚ) < 2 ^ (n.log2 + 1 : ℤ) := by
      have hlog : n < 2 ^ (n.log2 + 1) := Nat.lt_log2_self
      exact_mod_cast hlog
    have hpower : (10 : ℚ) ^ power ≤ 2 ^ power := by
      rw [← neg_neg power, zpow_neg, zpow_neg (2 : ℚ)]
      exact inv_anti₀ (by positivity) (zpow_le_zpow_left₀ (by omega) two_pos.le hten)
    rw [unpack_pack_of_special (by simp)]
    refine .zero (isRounded_zero (by positivity) ?_)
    calc (n : ℚ) * 10 ^ power < 2 ^ (n.log2 + 1 : ℤ) * 10 ^ power :=
          mul_lt_mul_of_pos_right hn (by positivity)
      _ ≤ 2 ^ (n.log2 + 1 : ℤ) * 2 ^ power := mul_le_mul_of_nonneg_left hpower (by positivity)
      _ = 2 ^ (n.log2 + 1 + power) := (zpow_add₀ two_ne_zero _ _).symm
      _ ≤ 2 ^ (Format.binary64.minExponent - 1) := by
          apply zpow_le_zpow_right₀ one_le_two
          show _ ≤ (-1074 - 1 : ℤ)
          omega
  · -- The factor is a whole number, so the product is one, with zeros behind it to begin with.
    obtain ⟨k, rfl⟩ := Int.eq_ofNat_of_zero_le hnonneg
    obtain ⟨e, hplace⟩ := exists_isPlace Format.binary64 ((n : ℚ) * 10 ^ (k : ℤ))
    have hvalue : ((n <<< 53 * 10 ^ k : ℕ) : ℚ) * 2 ^ (-53 + 0 : ℤ) = n * 10 ^ (k : ℤ) := by
      rw [Nat.shiftLeft_eq, zpow_natCast]
      push_cast
      norm_num
      ring
    have hle : (-53 + 0 : ℤ) ≤ e := by
      have hone : (2 : ℚ) ^ (0 : ℤ) ≤ n * 10 ^ (k : ℤ) := by
        have hn : (1 : ℚ) ≤ n := by exact_mod_cast Nat.pos_of_ne_zero hzero
        rw [zpow_zero, zpow_natCast]
        exact one_le_mul_of_one_le_of_one_le hn (one_le_pow₀ (by norm_num))
      have hlt := zpow_two_lt_iff.mp (hone.trans_lt hplace.lt)
      have hdigits : (Format.binary64.mantissaBits : ℤ) = 53 := rfl
      omega
    rw [← hvalue] at hplace ⊢
    exact isRounding_roundWithAccuracy (by decide) .positive (.whole _) hplace hle
  · -- The divisor is a whole number, so the decimal is a quotient.
    obtain ⟨k, hk⟩ : ∃ k : ℕ, (-power).toNat = k := ⟨_, rfl⟩
    have hvalue : dyadic n 0 / dyadic (10 ^ k) 0 = n * 10 ^ power := by
      have hpower : power = -(k : ℤ) := by omega
      rw [dyadic, dyadic, hpower, zpow_neg, zpow_natCast]
      push_cast
      simp [div_eq_mul_inv]
    rw [← hvalue]
    simp only [hk]
    exact isRounding_div (by decide) .positive .positive (Nat.pos_of_ne_zero hzero) (by positivity)

/-- A word is made the nearest float in the same way. -/
theorem isRounding_toFloat (n : UInt64) :
    IsRounding Format.binary64 .positive n.toNat n.toFloat.toModel.unpack := by
  have hmodel : n.toFloat.toModel.unpack = UnpackedFloat.unpack Format.binary64
      (UnpackedFloat.pack Format.binary64
        (UnpackedFloat.normalize Format.binary64 n.toNat 0 .positive)) := rfl
  rw [hmodel]
  unfold UnpackedFloat.normalize
  split
  -- The library's normalization is for integers; a word is never negative.
  case h_1 hneg =>
    rw [Int.compare_eq_lt] at hneg
    omega
  case h_2 hzero =>
    rw [Int.compare_eq_eq] at hzero
    have hnone : n.toNat = 0 := by omega
    rw [hnone, Nat.cast_zero, unpack_pack_of_special (by simp)]
    exact .zero (isRounded_zero le_rfl (by positivity))
  case h_3 hpos =>
    rw [Int.compare_eq_gt] at hpos
    have hround : IsRounding Format.binary64 .positive (dyadic n.toNat 0) _ :=
      isRounding_round (by decide) .positive (show 0 < n.toNat by omega) 0
    rwa [dyadic, zpow_zero, mul_one] at hround

/-- Whole numbers of 53 binary digits are floats, so rounding leaves them as they are. -/
theorem isRounded_natural {n : ℕ} (hn : n < 2 ^ 53) : IsRounded Format.binary64 n n := by
  have hcast : (n : ℚ) < 2 ^ (53 : ℤ) := by exact_mod_cast hn
  obtain ⟨e, hplace⟩ := exists_isPlace Format.binary64 n
  have hleast : Format.binary64.minExponent = -1074 := rfl
  have hdigits : (Format.binary64.mantissaBits : ℤ) = 53 := rfl
  -- The last digit is at or behind the point.
  have hle : e ≤ 0 := by
    obtain h | h := hplace.le
    · omega
    · have hlt := zpow_two_lt_iff.mp (h.trans_lt hcast)
      omega
  obtain ⟨k, rfl⟩ : ∃ k : ℕ, e = -k := ⟨e.natAbs, by omega⟩
  have hunit : (2 : ℚ) ^ k ≠ 0 := by positivity
  refine ⟨-k, n * 2 ^ k, hplace, ?_, ?_⟩
  · rw [zpow_neg, zpow_natCast, div_inv_eq_mul]
    exact_mod_cast IsNearestEven.natCast (n * 2 ^ k)
  · rw [dyadic, zpow_neg, zpow_natCast]
    push_cast
    rw [mul_inv_cancel_right₀ hunit]

/-- The minus sign that stands before a decimal is that of the float. -/
theorem IsRounding.neg {x : Float} {q : ℚ} {s : Sign}
    (h : IsRounding Format.binary64 s q x.toModel.unpack) :
    IsRounding Format.binary64 (-s) q (-x).toModel.unpack := by
  have hmodel : (-x).toModel.unpack = UnpackedFloat.unpack Format.binary64
      (UnpackedFloat.pack Format.binary64 x.toModel.unpack.neg) := rfl
  -- Negation packs its result, so packing has to be undone for each kind of rounding.
  rw [hmodel]
  generalize x.toModel.unpack = v at h
  cases h with
  | zero hq =>
    rw [UnpackedFloat.neg, unpack_pack_of_special (by simp)]
    exact .zero hq
  | finite haligned hle hq =>
    rw [UnpackedFloat.neg, unpack_pack_of_aligned (by decide) haligned, if_pos hle]
    exact .finite haligned hle hq
  | infinity hp hq =>
    rw [UnpackedFloat.neg, unpack_pack_of_special (by simp)]
    exact .infinity hp hq

/-! ## To words -/

/-- The word is the whole part of the float, as far as words reach: nothing below zero, and not more
than the greatest word. What is no number counts as nothing. -/
inductive IsWholePart (x : Float) : UInt64 → Prop
  | number {p : ℚ} {n : UInt64} (hx : IsExactly x p)
      (hn : n.toNat = min ⌊p⌋₊ (UInt64.size - 1)) : IsWholePart x n
  | infinite {negative : Bool} (hx : Binary.ofFloat x = .infinite negative) :
      IsWholePart x (if negative then 0 else .ofNat (UInt64.size - 1))
  | notANumber (hx : Binary.ofFloat x = .notANumber) : IsWholePart x 0

theorem toNat_ofNatClamp (n : ℕ) : (UInt64.ofNatClamp n).toNat = min n (UInt64.size - 1) := by
  unfold UInt64.ofNatClamp
  split
  case isTrue h =>
    show n = _
    omega
  case isFalse h =>
    show UInt64.size - 1 = _
    omega

/-- Whole numbers of 53 binary digits are their own whole part. -/
theorem isWholePart_toFloat {n : UInt64} (hn : n.toNat < 2 ^ 53) :
    n.toFloat.isFinite = true ∧ IsWholePart n.toFloat n := by
  have hround := isRounding_toFloat n
  -- Far below the limit; the large power stays a variable, since nothing should compute it.
  have hlimit : (n.toNat : ℚ) < formatLimit Format.binary64 := by
    have hsplit : formatLimit Format.binary64 = 2 ^ 54 * 2 ^ 970 - 2 ^ 970 := by
      rw [← pow_add]
      rfl
    have hpower : (2 : ℚ) ^ 53 ≤ 2 ^ 970 := pow_le_pow_right₀ one_le_two (by norm_num)
    have hcast : (n.toNat : ℚ) < 2 ^ 53 := by exact_mod_cast hn
    rw [hsplit]
    generalize (2 : ℚ) ^ 970 = unit at hpower ⊢
    linarith
  have hfinite := (hround.isFinite_iff (by decide)).mpr hlimit
  obtain ⟨p, hp, hexact⟩ := hround.exists_toRat? hfinite
  -- A number that has its place in the format is rounded to itself.
  obtain rfl := hp.unique (isRounded_natural hn)
  refine ⟨hfinite, .number (p := n.toNat) hexact ?_⟩
  rw [Nat.floor_natCast]
  have hsize : UInt64.size = 18446744073709551616 := rfl
  omega

/-- The digits before the binary point are the whole part. -/
theorem roundToInt_eq (s : Sign) (m : ℕ) (e : ℤ) :
    UnpackedFloat.roundToInt s m e = s.apply ⌊dyadic m e⌋₊ := by
  have hmantissa : ((⟨m <<< e.toNat, false, false⟩ : ExtendedMantissa) >>>
      (0 - (e - e.toNat)).toNat).mantissa = ⌊dyadic m e⌋₊ := by
    rw [mantissa_shiftRight]
    obtain hnonneg | hneg := le_or_gt 0 e
    · -- Nothing is shifted out.
      obtain ⟨k, rfl⟩ := Int.eq_ofNat_of_zero_le hnonneg
      have hcount : (0 - ((k : ℤ) - (k : ℤ).toNat)).toNat = 0 := by omega
      rw [hcount, pow_zero, Nat.div_one, Int.toNat_natCast, Nat.shiftLeft_eq, dyadic, zpow_natCast]
      exact_mod_cast (Nat.floor_natCast _).symm
    · -- What is shifted out is the rest of a division by a power of two.
      obtain ⟨k, rfl⟩ : ∃ k : ℕ, e = -k := ⟨(-e).toNat, by omega⟩
      have hcount : (0 - (-(k : ℤ) - (-(k : ℤ)).toNat)).toNat = k := by omega
      have hzero : (-(k : ℤ)).toNat = 0 := by omega
      rw [hcount, hzero, Nat.shiftLeft_zero, dyadic, zpow_neg, zpow_natCast, ← div_eq_mul_inv,
        ← Nat.floor_div_eq_div (K := ℚ)]
      push_cast
      rfl
  have hzero : e - 0 = e := sub_zero e
  simp only [UnpackedFloat.roundToInt, UnpackedFloat.decreaseExponent,
    UnpackedFloat.shiftToExponent, hzero]
  exact congrArg (fun n : ℕ => s.apply n) hmantissa

/-- **The word of a float is its whole part.** Nothing is said of rounding here: the word cuts off
what stands behind the point. -/
theorem IsWholePart.toUInt64_eq {x : Float} {n : UInt64} (h : IsWholePart x n) :
    x.toUInt64 = n := by
  have hmodel : x.toUInt64 =
      UInt64.ofNatClamp (x.toModel.unpack.toInt 0 (UInt64.size - 1)).toNat := rfl
  rw [hmodel]
  cases h with
  | number hx hn =>
    rw [← UInt64.toNat_inj, toNat_ofNatClamp, hn]
    obtain ⟨s, hv, rfl⟩ | ⟨s, m, e, hm, hv, rfl⟩ := hx.unpack
    · rw [hv]
      rfl
    · rw [hv, UnpackedFloat.toInt, roundToInt_eq]
      have hpos := dyadic_pos hm e
      -- Both sides are zero for a negative number: the floor of a negative rational, and a negative
      -- integer clamped.
      cases s with
      | positive => rfl
      | negative =>
        have hnone : ⌊signed .negative (dyadic m e)⌋₊ = 0 := by
          rw [signed_negative]
          exact Nat.floor_of_nonpos (by linarith)
        have hbelow : (Sign.negative.apply (⌊dyadic m e⌋₊ : ℤ)).toNat = 0 := by
          rw [Sign.apply]
          omega
        rw [hnone, hbelow]
  | infinite hx =>
    rw [Binary.ofFloat] at hx
    cases hv : x.toModel.unpack with
    | infinity s =>
      rw [hv] at hx
      cases hx
      cases s <;> rfl
    | _ =>
      rw [hv] at hx
      cases hx
  | notANumber hx =>
    rw [Binary.ofFloat] at hx
    cases hv : x.toModel.unpack with
    | notANumber => rfl
    | _ =>
      rw [hv] at hx
      cases hx

end TrafficMap
