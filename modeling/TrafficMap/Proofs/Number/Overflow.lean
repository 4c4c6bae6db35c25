import Mathlib
import TrafficMap.Proofs.Number.Rounding

/-!
# Numbers: What a 32-Bit Float Can Hold

Narrowing rounds to 32 bits, so it gives an infinity exactly when the number reaches halfway from
the greatest 32-bit float to the power of two that follows it.
-/

namespace TrafficMap

open Float.Model (UnpackedFloat Format)
open Float.Model.UnpackedFloat (Sign)

/-! ## Numbers behind floats -/

/-- The number behind a finite float. -/
theorem toRat?_finite (negative : Bool) (m : Nat) (e : Int) :
    (Binary.finite negative m e).toRat? =
      some (if negative then -dyadic m e else dyadic m e) := by
  have hquotient : ((Binary.quotient m e).1 : ℚ) / ((Binary.quotient m e).2 : ℚ) = dyadic m e := by
    rw [Binary.quotient, dyadic]
    split
    -- A negative exponent stands in the denominator.
    case isTrue he =>
      obtain ⟨k, rfl⟩ := Int.eq_ofNat_of_zero_le he
      simp [Nat.shiftLeft_eq]
    case isFalse he =>
      obtain ⟨k, hk⟩ := Int.eq_ofNat_of_zero_le (show 0 ≤ -e by omega)
      obtain rfl : e = -(k : Int) := by omega
      simp [Nat.shiftLeft_eq, div_eq_mul_inv]
  simp only [Binary.toRat?, hquotient]

theorem abs_signed_dyadic (negative : Bool) (m : Nat) (e : Int) :
    |if negative then -dyadic m e else dyadic m e| = dyadic m e := by
  have hnonneg : 0 ≤ dyadic m e := by
    rw [dyadic]
    positivity
  cases negative <;> simp [abs_of_nonneg hnonneg]

/-! ## Narrowing -/

/-- Digits and an exponent are rounded to 32 bits. -/
theorem isRounding_narrow {x : Float} {s : Sign} {m : Nat} {e : Int} {hm : 0 < m}
    (h : x.toModel.unpack = .finite s m e hm) :
    IsRounding Format.binary32 s (dyadic m e) (narrow x).toModel.unpack := by
  rw [narrow]
  simp only [h]
  exact isRounding_round (by decide) s hm e

/-- A special value, or a zero, is the same at both widths. -/
theorem unpack_narrow_of_special {x : Float} (h : ∀ s m e hm, x.toModel.unpack ≠ .finite s m e hm) :
    (narrow x).toModel.unpack = x.toModel.unpack := by
  have hnarrow : narrow x = .ofModel (.pack x.toModel.unpack) := by
    rw [narrow]
    split
    · next heq => exact (h _ _ _ _ heq).elim
    · rfl
  rw [hnarrow]
  exact unpack_pack_of_special h

/-- The 32-bit float that a 64-bit one is narrowed to: the one next to its number, or the same
infinity, zero or non-number at the lesser width. -/
inductive IsNarrowed (x : Float) (y : Float32) : Prop
  | number {s : Sign} {m : ℕ} {e : ℤ} {hm : 0 < m} (hx : x.toModel.unpack = .finite s m e hm)
      (hy : IsRounding Format.binary32 s (dyadic m e) y.toModel.unpack)
  | special (hx : ∀ s m e hm, x.toModel.unpack ≠ .finite s m e hm)
      (hy : y.toModel.unpack = x.toModel.unpack)

theorem IsNarrowed.narrow_eq {x : Float} {y : Float32} (h : IsNarrowed x y) : narrow x = y := by
  apply float32_eq_of_unpack
  cases h with
  | number hx hy => exact (isRounding_narrow hx).unique (by decide) hy
  | special hx hy => rw [unpack_narrow_of_special hx, hy]

/-- Where 32-bit floats end: halfway from the greatest of them to the next power of two. -/
def float32Limit : ℚ := 2 ^ 128 - 2 ^ 103

theorem formatLimit_binary32 : formatLimit Format.binary32 = float32Limit := rfl

/-- A 64-bit float is narrowed to a finite number exactly if it is a number below the limit. -/
theorem isFinite_narrow_iff (x : Float) :
    (narrow x).isFinite = true ↔
      ∃ q, (Binary.ofFloat x).toRat? = some q ∧ |q| < float32Limit := by
  show UnpackedFloat.isFinite (narrow x).toModel.unpack = true ↔ _
  rw [Binary.ofFloat]
  cases hx : x.toModel.unpack with
  | finite s m e hm =>
    rw [(isRounding_narrow hx).isFinite_iff (by decide), Binary.ofUnpacked, toRat?_finite]
    simp [abs_signed_dyadic, formatLimit_binary32]
  -- Zero is a number below the limit, infinities and what is no number are not.
  | zero s =>
    rw [unpack_narrow_of_special (by simp [hx]), hx]
    refine iff_of_true rfl ⟨_, toRat?_finite (isMinus s) 0 0, ?_⟩
    rw [abs_signed_dyadic, dyadic, float32Limit]
    norm_num
  | _ =>
    rw [unpack_narrow_of_special (by simp [hx]), hx]
    simp [Binary.ofUnpacked, Binary.toRat?, UnpackedFloat.isFinite]

/-- Whole numbers of 64 bits are far below the limit. -/
theorem isFinite_normalize {n : Int} (h : n.natAbs ≤ 2 ^ 64) :
    UnpackedFloat.isFinite (UnpackedFloat.unpack Format.binary32
      (UnpackedFloat.pack Format.binary32
        (UnpackedFloat.normalize Format.binary32 n 0 .positive))) = true := by
  -- For both signs: rounding looks at the magnitude.
  have hround {s : Sign} {m : Nat} (hpos : 0 < m) (hm : m ≤ 2 ^ 64) :
      UnpackedFloat.isFinite (UnpackedFloat.unpack Format.binary32 (UnpackedFloat.pack
        Format.binary32 (UnpackedFloat.round Format.binary32 s m 0))) = true := by
    have hcast : (m : ℚ) ≤ ((2 ^ 64 : Nat) : ℚ) := Nat.cast_le.mpr hm
    rw [(isRounding_round (by decide) s hpos 0).isFinite_iff (by decide), formatLimit_binary32,
      dyadic, zpow_zero, mul_one]
    push_cast at hcast
    calc (m : ℚ) ≤ 2 ^ 64 := hcast
      _ < float32Limit := by rw [float32Limit]; norm_num
  unfold UnpackedFloat.normalize
  split
  case h_1 hneg =>
    rw [Int.compare_eq_lt] at hneg
    exact hround (by omega) (by omega)
  case h_2 => rfl
  case h_3 hpos =>
    rw [Int.compare_eq_gt] at hpos
    exact hround (by omega) (by omega)

theorem isFinite_float32_of_natural (n : UInt64) : n.toFloat32.isFinite = true := by
  refine isFinite_normalize ?_
  have := n.toNat_lt
  omega

theorem isFinite_float32OfInt64 (n : Int64) : (float32OfInt64 n).isFinite = true := by
  refine isFinite_normalize ?_
  have hlow := n.le_toInt
  have hhigh := n.toInt_lt
  omega

end TrafficMap
