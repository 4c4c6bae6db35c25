import TrafficMap.Proofs.Number.Overflow
import TrafficMap.Proofs.Number.Sign

/-!
# Numbers: Sizes of Floats

How large the results of 64-bit arithmetic can get. A float fits in `k` binary digits when it is a
number below `2 ^ k`, whatever its sign; only its exponent is looked at. Rounding may carry into one
more digit, so a product fits in one digit more than its factors together, and a sum in two more
than the larger summand. A float that fits in any number of digits is finite.
-/

namespace TrafficMap

open Float.Model (UnpackedFloat Format totalExponent)
open Float.Model.UnpackedFloat (ExtendedMantissa Accuracy Sign)

/-! ## Exponents -/

/-- The number is zero, or its exponent is at most `b` and not below those of 64-bit floats. -/
def ExponentUpTo (b : Int) : UnpackedFloat → Prop
  | .zero _ => True
  | .finite _ _ e _ => -1074 ≤ e ∧ e ≤ b
  | _ => False

instance (b : Int) (v : UnpackedFloat) : Decidable (ExponentUpTo b v) :=
  match v with
  | .zero _ => .isTrue trivial
  | .finite _ _ e _ => inferInstanceAs (Decidable (-1074 ≤ e ∧ e ≤ b))
  | .infinity _ => .isFalse id
  | .notANumber => .isFalse id

theorem ExponentUpTo.mono {b c : Int} {v : UnpackedFloat} (h : ExponentUpTo b v) (hle : b ≤ c) :
    ExponentUpTo c v := by
  cases v with
  | finite s m e hm => exact ⟨h.1, h.2.trans hle⟩
  | zero s => trivial
  | infinity s => exact h.elim
  | notANumber => exact h.elim

/-- A 64-bit float has at most 53 binary digits, and an exponent of its format. -/
theorem digits_of_unpack {b : BitVec Format.binary64.numBits} {s : Sign} {m : Nat} {e : Int}
    {hm : 0 < m} (h : UnpackedFloat.unpack Format.binary64 b = .finite s m e hm) :
    m < 2 ^ 53 ∧ -1074 ≤ e := by
  obtain ⟨-, hdigits, hleast, -⟩ := isAligned_iff.mp (aligned_of_unpack (by decide) h).1
  exact ⟨(Nat.log2_lt hm.ne').mp hdigits, hleast⟩

/-- Putting a number together and taking it apart again does not raise its exponent. -/
theorem exponentUpTo_unpack_pack {b : Int} {v : UnpackedFloat} (h : ExponentUpTo b v)
    (hb : b ≤ 971) :
    ExponentUpTo b
      (UnpackedFloat.unpack Format.binary64 (UnpackedFloat.pack Format.binary64 v)) := by
  cases v with
  | infinity s => exact h.elim
  | notANumber => exact h.elim
  | zero s => cases s <;> trivial
  | finite s m e hm =>
    obtain ⟨hlow, hhigh⟩ := h
    by_cases hlog : m.log2 = 52
    · rw [unpack_pack_of_log2 hm hlog hlow (by omega)]
      exact ⟨hlow, hhigh⟩
    · -- Fewer digits are put together without an exponent, as a subnormal float or zero.
      have hpack : UnpackedFloat.pack Format.binary64 (.finite s m e hm) =
          UnpackedFloat.packComponents Format.binary64 s 0#11 (BitVec.ofNat 52 m) := by
        have hbiased : (e + (Format.binary64.exponentBias : Int) + (52 : Nat)).toNat =
            (e + 1075).toNat := by
          show (e + 1023 + 52).toNat = (e + 1075).toNat
          omega
        simp only [UnpackedFloat.pack, hbiased]
        have hshort : m.log2 + 1 ≠ Format.binary64.mantissaBits := by
          show m.log2 + 1 ≠ 53
          omega
        rw [if_neg (by omega), if_neg hshort]
      have hspecial : (0#11) ≠ -1#11 := by decide
      rw [hpack]
      simp only [UnpackedFloat.unpack, UnpackedFloat.unpackMantissa_packComponents,
        UnpackedFloat.unpackExponent_packComponents, hspecial, if_false, if_true]
      split
      · trivial
      · exact ⟨le_refl (-1074), hlow.trans hhigh⟩

/-! ## Rounding -/

theorem roundedMantissa_le (em : ExtendedMantissa) : em.roundedMantissa ≤ em.mantissa + 1 := by
  obtain ⟨m, r, s⟩ := em
  cases r <;> cases s <;>
    simp only [ExtendedMantissa.roundedMantissa, ExtendedMantissa.accuracy,
      Accuracy.roundToNearestEven] <;> omega

theorem log2_le_of_le_two_pow {r j : Nat} (h : r ≤ 2 ^ j) : r.log2 ≤ j := by
  by_cases hzero : r = 0
  · rw [hzero]
    exact Nat.zero_le j
  · have hlt : r < 2 ^ (j + 1) := by
      rw [Nat.pow_succ]
      omega
    exact Nat.lt_succ_iff.mp ((Nat.log2_lt hzero).mpr hlt)

/-- Of a number that loses `k` digits, rounding leaves one more digit than are left, at most. -/
theorem log2_roundedMantissa_shiftRight (m k : Nat) :
    ((⟨m, false, false⟩ : ExtendedMantissa) >>> k).roundedMantissa.log2 ≤ m.log2 + 1 - k := by
  have hlt : m / 2 ^ k < 2 ^ (m.log2 + 1 - k) := by
    rw [Nat.div_lt_iff_lt_mul (by positivity), ← Nat.pow_add]
    calc m < 2 ^ (m.log2 + 1) := Nat.lt_log2_self
      _ ≤ 2 ^ (m.log2 + 1 - k + k) := Nat.pow_le_pow_right (by decide) (by omega)
  have hrounded := roundedMantissa_le ((⟨m, false, false⟩ : ExtendedMantissa) >>> k)
  rw [mantissa_shiftRight] at hrounded
  exact log2_le_of_le_two_pow (hrounded.trans hlt)

/-- Rounding gives a number an exponent of at most `b` if it has no greater one and no more than 52
digits beyond that place: one is left for a carry. -/
theorem exponentUpTo_roundWithAccuracy {s : Sign} {m : Nat} {e b : Int} (he : e ≤ b)
    (htotal : totalExponent m e ≤ b + 52) (hb : -1074 ≤ b) :
    ExponentUpTo b (UnpackedFloat.roundWithAccuracy Format.binary64 s m e .exact) := by
  have htarget (m : Nat) (e : Int) : Format.binary64.targetExponent (totalExponent m e) =
      max (m.log2 + 1 + e - 53) (-1074) := rfl
  obtain ⟨k, hk⟩ : ∃ k, (max (m.log2 + 1 + e - 53) (-1074) - e).toNat = k := ⟨_, rfl⟩
  -- Rounding up may add a digit, for which `htotal` has left a place.
  have hlog := log2_roundedMantissa_shiftRight m k
  rw [totalExponent] at htotal
  simp only [UnpackedFloat.roundWithAccuracy, UnpackedFloat.shiftToTargetExponent,
    UnpackedFloat.shiftToExponent, htarget, hk, ExtendedMantissa.ofMantissaAndAccuracy]
  split
  · trivial
  · constructor <;> omega

theorem exponentUpTo_round {s : Sign} {m : Nat} {e b : Int} (hm : 0 < m)
    (htotal : totalExponent m e ≤ b + 52) (hb : -1074 ≤ b) :
    ExponentUpTo b (UnpackedFloat.round Format.binary64 s m e) := by
  have htarget : Format.binary64.targetExponent (totalExponent m e) =
      max (totalExponent m e - 53) (-1074) := rfl
  obtain ⟨k, hk⟩ : ∃ k, (e - max (totalExponent m e - 53) (-1074)).toNat = k := ⟨_, rfl⟩
  simp only [UnpackedFloat.round, UnpackedFloat.decreaseExponent, htarget, hk]
  refine exponentUpTo_roundWithAccuracy (by omega) ?_ hb
  rwa [totalExponent_shiftLeft hm]

/-- A whole number below `2 ^ j`, times a power of two. -/
theorem exponentUpTo_normalize {n e b : Int} {j : Nat} {zero : Sign} (hn : n.natAbs < 2 ^ j)
    (htotal : j + e ≤ b + 52) (hb : -1074 ≤ b) :
    ExponentUpTo b (UnpackedFloat.normalize Format.binary64 n e zero) := by
  -- For both signs: rounding looks at the magnitude.
  have hround {s : Sign} {m : Nat} (hpos : 0 < m) (hm : m < 2 ^ j) :
      ExponentUpTo b (UnpackedFloat.round Format.binary64 s m e) := by
    have hlog : m.log2 < j := (Nat.log2_lt hpos.ne').mpr hm
    refine exponentUpTo_round hpos ?_ hb
    rw [totalExponent]
    omega
  unfold UnpackedFloat.normalize
  split
  case h_1 hneg =>
    rw [Int.compare_eq_lt] at hneg
    exact hround (by omega) (by omega)
  case h_2 => trivial
  case h_3 hpos =>
    rw [Int.compare_eq_gt] at hpos
    exact hround (by omega) (by omega)

/-! ## Floats -/

/-- The float is a number below `2 ^ k`, whatever its sign. Sums add one to the greater bound and
products add the bounds, which is how overflow is ruled out. -/
def FitsIn (k : Int) (v : Float) : Prop := ExponentUpTo (k - 53) v.toModel.unpack

instance (k : Int) (v : Float) : Decidable (FitsIn k v) :=
  inferInstanceAs (Decidable (ExponentUpTo (k - 53) v.toModel.unpack))

theorem FitsIn.mono {j k : Int} {v : Float} (h : FitsIn j v) (hle : j ≤ k) : FitsIn k v :=
  ExponentUpTo.mono h (by omega)

/-- What a float that fits is: a zero, or digits and an exponent. -/
theorem FitsIn.unpack {k : Int} {v : Float} (h : FitsIn k v) :
    (∃ s, v.toModel.unpack = .zero s) ∨
      ∃ s m e hm, v.toModel.unpack = .finite s m e hm ∧ m < 2 ^ 53 ∧ -1074 ≤ e ∧ e + 53 ≤ k := by
  rw [FitsIn] at h
  cases hv : v.toModel.unpack with
  | zero s => exact .inl ⟨s, rfl⟩
  | finite s m e hm =>
    rw [hv] at h
    obtain ⟨hdigits, hlow⟩ := digits_of_unpack hv
    exact .inr ⟨s, m, e, hm, rfl, hdigits, hlow, by have := h.2; omega⟩
  | infinity s =>
    rw [hv] at h
    exact h.elim
  | notANumber =>
    rw [hv] at h
    exact h.elim

theorem FitsIn.isFinite {k : Int} {v : Float} (h : FitsIn k v) : v.isFinite = true := by
  show UnpackedFloat.isFinite v.toModel.unpack = true
  obtain ⟨s, hv⟩ | ⟨s, m, e, hm, hv, -⟩ := h.unpack <;> rw [hv] <;> rfl

/-- Words fit in one digit more than they have, for the carry. -/
theorem fitsIn_toFloat (n : UInt64) : FitsIn 65 n.toFloat := by
  refine exponentUpTo_unpack_pack ?_ (by decide)
  refine exponentUpTo_normalize (j := 64) ?_ (by decide) (by decide)
  have := n.toNat_lt
  omega

theorem FitsIn.mul {j k : Int} {a b : Float} (ha : FitsIn j a) (hb : FitsIn k b)
    (hlow : -1021 ≤ j + k + 1) (hhigh : j + k + 1 ≤ 1024) : FitsIn (j + k + 1) (a * b) := by
  refine exponentUpTo_unpack_pack ?_ (by omega)
  show ExponentUpTo _ (UnpackedFloat.mul Format.binary64 a.toModel.unpack b.toModel.unpack)
  obtain ⟨s₁, ha⟩ | ⟨s₁, m₁, e₁, hm₁, ha, hdigits₁, -, hexp₁⟩ := ha.unpack
  · obtain ⟨s₂, hb⟩ | ⟨s₂, m₂, e₂, hm₂, hb, -⟩ := hb.unpack <;> rw [ha, hb] <;> trivial
  obtain ⟨s₂, hb⟩ | ⟨s₂, m₂, e₂, hm₂, hb, hdigits₂, -, hexp₂⟩ := hb.unpack
  · rw [ha, hb]
    trivial
  rw [ha, hb]
  -- The product of two mantissas has at most 106 digits.
  have hproduct : m₁ * m₂ < 2 ^ 106 := by
    calc m₁ * m₂ < 2 ^ 53 * 2 ^ 53 := Nat.mul_lt_mul'' hdigits₁ hdigits₂
      _ = 2 ^ 106 := by norm_num
  have hlog : (m₁ * m₂).log2 < 106 := (Nat.log2_lt (Nat.mul_pos hm₁ hm₂).ne').mpr hproduct
  refine exponentUpTo_roundWithAccuracy (by omega) ?_ (by omega)
  rw [totalExponent]
  omega

/-- A mantissa that gets zeros up to a smaller exponent. -/
theorem shiftLeft_lt_two_pow {m : Nat} {e d k : Int} (hm : m < 2 ^ 53) (hexp : e + 53 ≤ k)
    (hle : d ≤ e) : m <<< (e - d).toNat < 2 ^ (k - d).toNat := by
  rw [Nat.shiftLeft_eq]
  calc m * 2 ^ (e - d).toNat < 2 ^ 53 * 2 ^ (e - d).toNat :=
        Nat.mul_lt_mul_of_pos_right hm (by positivity)
    _ = 2 ^ (53 + (e - d).toNat) := (Nat.pow_add 2 53 _).symm
    _ ≤ 2 ^ (k - d).toNat := Nat.pow_le_pow_right (by decide) (by omega)

theorem natAbs_apply (s : Sign) (n : Int) : (s.apply n).natAbs = n.natAbs := by
  cases s with
  | positive => rfl
  | negative => exact Int.natAbs_neg n

theorem FitsIn.add {k : Int} {a b : Float} (ha : FitsIn k a) (hb : FitsIn k b)
    (hlow : -1023 ≤ k) (hhigh : k ≤ 1022) : FitsIn (k + 2) (a + b) := by
  refine exponentUpTo_unpack_pack ?_ (by omega)
  show ExponentUpTo _ (UnpackedFloat.add Format.binary64 a.toModel.unpack b.toModel.unpack)
  have hawide : FitsIn (k + 2) a := ha.mono (by omega)
  have hbwide : FitsIn (k + 2) b := hb.mono (by omega)
  rw [FitsIn] at hawide hbwide
  obtain ⟨s₁, ha⟩ | ⟨s₁, m₁, e₁, hm₁, ha, hdigits₁, -, hexp₁⟩ := ha.unpack
  · obtain ⟨s₂, hb⟩ | ⟨s₂, m₂, e₂, hm₂, hb, -⟩ := hb.unpack
    · rw [ha, hb]
      cases s₁ <;> cases s₂ <;> trivial
    · rw [hb] at hbwide
      rw [ha, hb]
      exact hbwide
  obtain ⟨s₂, hb⟩ | ⟨s₂, m₂, e₂, hm₂, hb, hdigits₂, -, hexp₂⟩ := hb.unpack
  · rw [ha] at hawide
    rw [ha, hb]
    exact hawide
  rw [ha, hb]
  -- With the smaller exponent for both, mantissas add up to at most one more digit.
  have hfirst := shiftLeft_lt_two_pow (d := min e₁ e₂) hdigits₁ hexp₁ (min_le_left e₁ e₂)
  have hsecond := shiftLeft_lt_two_pow (d := min e₁ e₂) hdigits₂ hexp₂ (min_le_right e₁ e₂)
  refine exponentUpTo_normalize (j := (k - min e₁ e₂).toNat + 1) ?_ (by omega) (by omega)
  have hsum := Int.natAbs_add_le (s₁.apply (m₁ <<< (e₁ - min e₁ e₂).toNat : Nat))
    (s₂.apply (m₂ <<< (e₂ - min e₁ e₂).toNat : Nat))
  rw [natAbs_apply, natAbs_apply, Int.natAbs_natCast, Int.natAbs_natCast] at hsum
  rw [Nat.pow_succ]
  omega

/-! ## Ranges -/

theorem float_le_iff (a b : Float) :
    a ≤ b ↔ (a.toModel.unpack.compare b.toModel.unpack).any (·.isLE) = true := by
  show decide (UnpackedFloat.le _ _ = true) = true ↔ _
  rw [decide_eq_true_iff, UnpackedFloat.le]

theorem exponent_le_of_isLE {d e : Int} {o : Ordering} (h : ((compare d e).then o).isLE = true) :
    d ≤ e := by
  by_contra hlt
  rw [Int.compare_eq_gt.mpr (by omega)] at h
  cases h

theorem exponent_le_of_isLE_swap {d e : Int} {o : Ordering}
    (h : ((compare d e).then o).swap.isLE = true) : e ≤ d := by
  by_contra hlt
  rw [Int.compare_eq_lt.mpr (by omega)] at h
  cases h

/-- Between two floats that fit, everything fits. -/
theorem fitsIn_of_le_of_le {k : Int} {low high v : Float} (hlow : FitsIn k low)
    (hhigh : FitsIn k high) (hge : low ≤ v) (hle : v ≤ high) : FitsIn k v := by
  rw [float_le_iff] at hge hle
  rw [FitsIn]
  cases hv : v.toModel.unpack with
  | zero s => trivial
  | notANumber =>
    rw [hv] at hle
    cases hle
  | infinity s =>
    -- One of the bounds would have to be infinite, too.
    cases s with
    | positive =>
      obtain ⟨s, hhigh⟩ | ⟨s, m, e, hm, hhigh, -⟩ := hhigh.unpack <;>
        rw [hv, hhigh] at hle <;> cases hle
    | negative =>
      obtain ⟨s, hlow⟩ | ⟨s, m, e, hm, hlow, -⟩ := hlow.unpack <;>
        rw [hv, hlow] at hge <;> cases s <;> cases hge
  | finite s m e hm =>
    refine ⟨(digits_of_unpack hv).2, ?_⟩
    -- The bound on the side of the sign has at least the same exponent.
    cases s with
    | positive =>
      obtain ⟨s, hhigh⟩ | ⟨s, m', e', hm', hhigh, -, -, hexp⟩ := hhigh.unpack <;>
        rw [hv, hhigh] at hle <;> cases s <;> try cases hle
      have := exponent_le_of_isLE hle
      omega
    | negative =>
      obtain ⟨s, hlow⟩ | ⟨s, m', e', hm', hlow, -, -, hexp⟩ := hlow.unpack <;>
        rw [hv, hlow] at hge <;> cases s <;> try cases hge
      have := exponent_le_of_isLE_swap hge
      omega

end TrafficMap
