import Mathlib
import TrafficMap.Number.Binary

/-!
# Numbers: Floats Taken Apart

What the passage between the two widths does to the mantissa and the exponent of a float. A number
is aligned in a format when its exponent is the one that the format gives it. Rounding does nothing
to an aligned number but shift it, so a 32-bit float comes back bit by bit from the 64-bit float
that is equal to it.

Comparison is the other thing that is read off the parts: two floats that compare as equal are the
same float, or both are zeros, and nothing compares with what is no number.
-/

namespace TrafficMap

open Float.Model (UnpackedFloat Format totalExponent)
open Float.Model.UnpackedFloat (ExtendedMantissa Sign)

/-! ## Comparison -/

/-- Floats that compare as equal differ at most in the sign of a zero. -/
theorem eq_or_not_pos_of_beq {a b : Float32} (h : (a == b) = true) :
    a = b ∨ ¬ 0.0 < a ∧ ¬ 0.0 < b := by
  obtain ⟨-, -, heq | ⟨rfl, rfl⟩ | ⟨rfl, rfl⟩⟩ := Float32.beq_iff_ne_nan_and_eq.mp h
  · exact Or.inl heq
  · exact Or.inr ⟨by decide, by decide⟩
  · exact Or.inr ⟨by decide, by decide⟩

/-- What is no number is not above zero. -/
theorem not_pos_of_isNaN {x : Float32} (h : x.isNaN = true) : ¬ 0.0 < x := by
  rw [Float32.isNaN_eq_decide_eq_nan, decide_eq_true_eq] at h
  rw [h]
  decide

/-! ## Aligned numbers -/

/-- The number `mantissa * 2 ^ exponent` has the exponent that the format gives it. -/
structure IsAligned (spec : Format) (mantissa : Nat) (exponent : Int) : Prop where
  pos : 0 < mantissa
  target : spec.targetExponent (totalExponent mantissa exponent) = exponent

/-- The greatest exponent that numbers of a format have. -/
def greatestExponent (spec : Format) : Int := 2 ^ (spec.exponentBits - 1) - spec.mantissaBits

/-- Aligned numbers have as many digits as the format holds, or they have the least exponent and
fewer digits. -/
theorem isAligned_iff {spec : Format} {m : Nat} {e : Int} :
    IsAligned spec m e ↔ 0 < m ∧ m.log2 + 1 ≤ spec.mantissaBits ∧ spec.minExponent ≤ e ∧
      (m.log2 + 1 = spec.mantissaBits ∨ e = spec.minExponent) := by
  constructor
  · rintro ⟨hpos, htarget⟩
    rw [Format.targetExponent, totalExponent] at htarget
    refine ⟨hpos, ?_, ?_, ?_⟩ <;> omega
  · rintro ⟨hpos, hdigits, hleast, hexact⟩
    refine ⟨hpos, ?_⟩
    rw [Format.targetExponent, totalExponent]
    omega

/-- Exponents of a format lie on both sides of zero, half of them on each. All bounds of a format
are told by that half. -/
theorem exists_exponent_half {spec : Format} (hspec : 2 ≤ spec.exponentBits) :
    ∃ k : Nat, 2 ≤ k ∧ 2 ^ spec.exponentBits = 2 * k ∧ spec.exponentBias = k - 1 ∧
      spec.minExponent = 3 - k - spec.mantissaBits ∧
      greatestExponent spec = k - spec.mantissaBits := by
  refine ⟨2 ^ (spec.exponentBits - 1), Nat.le_self_pow (by omega) 2, ?_, rfl, ?_, ?_⟩
  · rw [← Nat.pow_succ', Nat.succ_eq_add_one, Nat.sub_add_cancel spec.he]
  · rw [Format.minExponent]
    push_cast
    rfl
  · rw [greatestExponent]
    push_cast
    rfl

theorem log2_shiftLeft {m : Nat} (hm : 0 < m) (k : Nat) : (m <<< k).log2 = m.log2 + k := by
  induction k with
  | zero => rfl
  | succ k ih =>
    have hne : m <<< k ≠ 0 := by
      rw [Nat.shiftLeft_eq]
      positivity
    rw [Nat.shiftLeft_succ, Nat.log2_two_mul hne, ih, Nat.add_assoc]

/-- Moving the binary point does not change where the first digit stands. -/
theorem totalExponent_shiftLeft {m : Nat} (hm : 0 < m) (e : Int) (k : Nat) :
    totalExponent (m <<< k) (e - k) = totalExponent m e := by
  simp only [totalExponent, log2_shiftLeft hm]
  push_cast
  ring

/-- Zeros that were shifted in are shifted out again without a trace. -/
theorem shiftRight_shiftLeft (m k : Nat) :
    (⟨m <<< k, false, false⟩ : ExtendedMantissa) >>> k = ⟨m, false, false⟩ := by
  show Nat.repeat ExtendedMantissa.shiftRightOne k ⟨m <<< k, false, false⟩ = _
  induction k generalizing m with
  | zero => rfl
  | succ k ih =>
    rw [Nat.repeat, Nat.shiftLeft_succ_inside, ih]
    simp [ExtendedMantissa.shiftRightOne]

theorem IsAligned.shiftToTarget {spec : Format} {m : Nat} {e : Int} (h : IsAligned spec m e)
    (k : Nat) :
    UnpackedFloat.shiftToTargetExponent spec (m <<< k) (e - k) .exact = (⟨m, false, false⟩, e) := by
  have hshift : (e - (e - k)).toNat = k := by omega
  simp only [UnpackedFloat.shiftToTargetExponent, UnpackedFloat.shiftToExponent,
    totalExponent_shiftLeft h.pos, h.target, hshift]
  refine Prod.ext (shiftRight_shiftLeft m k) ?_
  exact Int.sub_add_cancel e k

/-- An aligned number, shifted to the left, is rounded to itself. -/
theorem IsAligned.roundWithAccuracy {spec : Format} {m : Nat} {e : Int} (h : IsAligned spec m e)
    (s : Sign) (k : Nat) :
    UnpackedFloat.roundWithAccuracy spec s (m <<< k) (e - k) .exact = .finite s m e h.pos := by
  have hagain := h.shiftToTarget 0
  rw [Nat.shiftLeft_zero, Int.natCast_zero, Int.sub_zero] at hagain
  have hmantissa : ExtendedMantissa.roundedMantissa ⟨m, false, false⟩ = m := rfl
  unfold UnpackedFloat.roundWithAccuracy
  rw [h.shiftToTarget k]
  simp only [hmantissa, hagain]
  exact dif_neg h.pos.ne'

/-- A number with digits to spare is rounded to the aligned number that it is. -/
theorem IsAligned.round_shiftLeft {spec : Format} {m : Nat} {e : Int} (h : IsAligned spec m e)
    (s : Sign) (k : Nat) :
    UnpackedFloat.round spec s (m <<< k) (e - k) = .finite s m e h.pos := by
  have hshift : (e - k - e).toNat = 0 := by omega
  simp only [UnpackedFloat.round, UnpackedFloat.decreaseExponent, totalExponent_shiftLeft h.pos,
    h.target, hshift]
  simpa using h.roundWithAccuracy s k

/-- A number with too few digits gets as many zeros as it takes to be aligned. -/
theorem round_of_shiftLeft {spec : Format} {m : Nat} {e : Int} {k : Nat}
    (h : IsAligned spec (m <<< k) (e - k)) (hm : 0 < m) (s : Sign) :
    UnpackedFloat.round spec s m e = .finite s (m <<< k) (e - k) h.pos := by
  have htarget : spec.targetExponent (totalExponent m e) = e - k := by
    rw [← totalExponent_shiftLeft hm e k, h.target]
  have hshift : (e - (e - k)).toNat = k := by omega
  simp only [UnpackedFloat.round, UnpackedFloat.decreaseExponent, htarget, hshift]
  simpa using h.roundWithAccuracy s 0

/-! ## The parts of a float -/

theorem toNat_one_append {n : Nat} (v : BitVec n) : (1#1 ++ v).toNat = 2 ^ n + v.toNat := by
  rw [BitVec.toNat_append, ← Nat.shiftLeft_add_eq_or_of_lt v.isLt, BitVec.toNat_ofNat,
    Nat.shiftLeft_eq]
  norm_num

theorem log2_one_append {n : Nat} (v : BitVec n) : (1#1 ++ v).toNat.log2 = n := by
  have hlt := v.isLt
  rw [toNat_one_append, Nat.log2_eq_iff (by positivity), Nat.pow_succ]
  omega

/-- What is taken apart into digits and an exponent is aligned, whatever the format, and its
exponent is one that the format has. -/
theorem aligned_of_unpack {spec : Format} (hspec : 2 ≤ spec.exponentBits)
    {b : BitVec spec.numBits} {s : Sign} {m : Nat} {e : Int} {hm : 0 < m}
    (h : UnpackedFloat.unpack spec b = .finite s m e hm) :
    IsAligned spec m e ∧ e ≤ greatestExponent spec := by
  obtain ⟨k, hk, hbits, hbias, hleastExponent, hgreatestExponent⟩ := exists_exponent_half hspec
  have hdigits : spec.mantissaBits = 1 + spec.mantissaBitsWithoutImplicit := rfl
  unfold UnpackedFloat.unpack at h
  extract_lets mantissa exponentBits exponent at h
  have hmantissa : mantissa.toNat < 2 ^ spec.mantissaBitsWithoutImplicit := mantissa.isLt
  have hbound : exponentBits.toNat < 2 ^ spec.exponentBits := exponentBits.isLt
  have hexponent : exponent =
      exponentBits.toNat - (spec.exponentBias + spec.mantissaBitsWithoutImplicit) := rfl
  rw [isAligned_iff]
  -- An exponent field of ones belongs to infinities and to what is no number.
  split at h
  · split at h <;> cases h
  next hfinite =>
  have hgreatest : exponentBits.toNat ≠ 2 ^ spec.exponentBits - 1 := by
    intro heq
    apply hfinite
    apply BitVec.eq_of_toNat_eq
    rw [heq, BitVec.neg_one_eq_allOnes, BitVec.toNat_allOnes]
  split at h
  · next hzero =>
    split at h
    · cases h
    · -- A subnormal float has fewer digits than the format holds, and the least exponent.
      injection h with _ hm' he'
      subst hm' he'
      have hlog : mantissa.toNat.log2 < spec.mantissaBitsWithoutImplicit :=
        (Nat.log2_lt hm.ne').mpr hmantissa
      have hleast : exponentBits.toNat = 0 := by
        rw [hzero]
        rfl
      refine ⟨⟨hm, ?_, ?_, ?_⟩, ?_⟩ <;> omega
  · next hnormal =>
    -- A normal float has as many digits as the format holds, the implicit one among them.
    injection h with _ hm' he'
    subst hm' he'
    have hlog := log2_one_append mantissa
    have hleast : exponentBits.toNat ≠ 0 := fun h => hnormal (BitVec.eq_of_toNat_eq h)
    refine ⟨⟨hm, ?_, ?_, ?_⟩, ?_⟩ <;> omega

/-- The digits of a number after the first, with the implicit one before them, are the number. -/
theorem toNat_one_append_ofNat {n m : Nat} (hm : 0 < m) (hlog : m.log2 = n) :
    (1#1 ++ BitVec.ofNat n m).toNat = m := by
  obtain ⟨hlow, hhigh⟩ := (Nat.log2_eq_iff hm.ne').mp hlog
  have hrest : m % 2 ^ n = m - 2 ^ n := by
    rw [Nat.mod_eq_sub_mod hlow, Nat.mod_eq_of_lt (by omega)]
  rw [toNat_one_append, BitVec.toNat_ofNat, hrest, Nat.add_sub_cancel' hlow]

/-- A number that fits and is not zero has a digit that is not. -/
theorem ofNat_ne_zero {w n : Nat} (hpos : 0 < n) (h : n < 2 ^ w) : BitVec.ofNat w n ≠ 0#w := by
  intro heq
  have hnat := congrArg BitVec.toNat heq
  rw [BitVec.toNat_ofNat, Nat.mod_eq_of_lt h, BitVec.toNat_ofNat, Nat.zero_mod] at hnat
  omega

/-- Only the greatest exponent field is all ones. -/
theorem ofNat_ne_neg_one {w n : Nat} (h : n + 1 < 2 ^ w) : BitVec.ofNat w n ≠ -1#w := by
  intro heq
  have hnat := congrArg BitVec.toNat heq
  rw [BitVec.toNat_ofNat, Nat.mod_eq_of_lt (by omega), BitVec.neg_one_eq_allOnes,
    BitVec.toNat_allOnes] at hnat
  omega

@[simp]
theorem unpack_packedInfinity {spec : Format} (s : Sign) :
    UnpackedFloat.unpack spec (UnpackedFloat.packedInfinity spec s) = .infinity s := by
  simp [UnpackedFloat.unpack, UnpackedFloat.packedInfinity]

/-- **Putting an aligned number together loses nothing**, unless its exponent is beyond those of the
format; then an infinity comes of it. Arithmetic on floats always ends with packing its result, so
every statement about a result comes through here. -/
theorem unpack_pack_of_aligned {spec : Format} (hspec : 2 ≤ spec.exponentBits) {m : Nat} {e : Int}
    (h : IsAligned spec m e) (s : Sign) :
    UnpackedFloat.unpack spec (UnpackedFloat.pack spec (.finite s m e h.pos)) =
      if e ≤ greatestExponent spec then .finite s m e h.pos else .infinity s := by
  obtain ⟨hpos, hdigits, hleast, hexact⟩ := isAligned_iff.mp h
  obtain ⟨k, hk, hbits, hbias, hleastExponent, hgreatestExponent⟩ := exists_exponent_half hspec
  have hmantissa : spec.mantissaBits = 1 + spec.mantissaBitsWithoutImplicit := rfl
  obtain ⟨n, hn⟩ : ∃ n : Nat,
      (e + spec.exponentBias + spec.mantissaBitsWithoutImplicit).toNat = n := ⟨_, rfl⟩
  simp only [UnpackedFloat.pack, hn]
  split
  case isTrue hinfinite =>
    rw [unpack_packedInfinity, if_neg (by omega)]
  case isFalse hfinite =>
    rw [if_pos (show e ≤ greatestExponent spec by omega)]
    split
    case isTrue hnormal =>
      -- The exponent field is neither that of the special values nor that of zero.
      have hlog : m.log2 = spec.mantissaBitsWithoutImplicit := by omega
      have hexponent : (BitVec.ofNat spec.exponentBits n).toNat = n := by
        rw [BitVec.toNat_ofNat, Nat.mod_eq_of_lt (by omega)]
      have hspecial : BitVec.ofNat spec.exponentBits n ≠ -BitVec.ofNat spec.exponentBits 1 :=
        ofNat_ne_neg_one (by omega)
      have hnonzero : BitVec.ofNat spec.exponentBits n ≠ BitVec.ofNat spec.exponentBits 0 :=
        ofNat_ne_zero (by omega) (by omega)
      simp only [UnpackedFloat.unpack, UnpackedFloat.unpackMantissa_packComponents,
        UnpackedFloat.unpackExponent_packComponents, UnpackedFloat.unpackSign_packComponents,
        Sign.ofBitVec_toBitVec, hspecial, hnonzero, if_false, hexponent,
        toNat_one_append_ofNat hpos hlog]
      congr 1
      omega
    case isFalse hsubnormal =>
      -- Without an exponent field, all digits are stored.
      have hshort : m < 2 ^ spec.mantissaBitsWithoutImplicit :=
        (Nat.log2_lt hpos.ne').mp (by omega)
      have hsame : (BitVec.ofNat spec.mantissaBitsWithoutImplicit m).toNat = m := by
        rw [BitVec.toNat_ofNat, Nat.mod_eq_of_lt hshort]
      have hspecial : BitVec.ofNat spec.exponentBits 0 ≠ -BitVec.ofNat spec.exponentBits 1 :=
        ofNat_ne_neg_one (by omega)
      have hnonzero := ofNat_ne_zero hpos hshort
      simp only [UnpackedFloat.unpack, UnpackedFloat.unpackMantissa_packComponents,
        UnpackedFloat.unpackExponent_packComponents, UnpackedFloat.unpackSign_packComponents,
        Sign.ofBitVec_toBitVec, hspecial, hnonzero, if_false, if_true, dif_neg, not_false_iff,
        hsame, BitVec.toNat_ofNat, Nat.zero_mod]
      congr 1
      omega

/-- A number of 53 binary digits is put together and taken apart without a loss. -/
theorem unpack_pack_of_log2 {s : Sign} {m : Nat} {e : Int} (hm : 0 < m) (hlog : m.log2 = 52)
    (hlow : -1074 ≤ e) (hhigh : e ≤ 971) :
    UnpackedFloat.unpack Format.binary64 (UnpackedFloat.pack Format.binary64 (.finite s m e hm)) =
      .finite s m e hm := by
  have haligned : IsAligned Format.binary64 m e :=
    isAligned_iff.mpr ⟨hm, by rw [hlog]; decide, hlow, .inl (by rw [hlog]; rfl)⟩
  exact (unpack_pack_of_aligned (by decide) haligned s).trans (if_pos hhigh)

/-! ## Between the two widths -/

/-- A finite 32-bit float is, as a 64-bit float, its mantissa with zeros up to 53 digits. -/
theorem unpack_widen {x : Float32} {s : Sign} {m : Nat} {e : Int} {hm : 0 < m}
    (h : x.toModel.unpack = .finite s m e hm) :
    ∃ (k : Nat) (hk : 0 < m <<< k), (widen x).toModel.unpack = .finite s (m <<< k) (e - k) hk := by
  obtain ⟨haligned, hle⟩ := aligned_of_unpack (by decide) h
  -- A 32-bit float is far from both ends of the 64-bit format, so nothing is lost by shifting.
  have hrange : m.log2 ≤ 23 ∧ -149 ≤ e ∧ e ≤ 104 := by
    obtain ⟨-, hdigits, hlow, -⟩ := isAligned_iff.mp haligned
    exact ⟨Nat.le_of_succ_le_succ hdigits, hlow, hle⟩
  have hlog : (m <<< (52 - m.log2)).log2 = 52 := by
    rw [log2_shiftLeft hm]
    omega
  have hpos : 0 < m <<< (52 - m.log2) := by
    rw [Nat.shiftLeft_eq]
    positivity
  -- The shift that makes 53 digits is the one that the wider format asks for.
  have hwide : IsAligned Format.binary64 (m <<< (52 - m.log2)) (e - (52 - m.log2 : Nat)) := by
    refine ⟨hpos, ?_⟩
    simp only [Format.targetExponent, totalExponent, hlog, Format.minExponent,
      Format.mantissaBits]
    omega
  refine ⟨52 - m.log2, hpos, ?_⟩
  rw [widen]
  simp only [h, round_of_shiftLeft hwide hm]
  exact unpack_pack_of_log2 hpos hlog (by omega) (by omega)

/-- Special values and zeros are put together and taken apart without a loss. -/
theorem unpack_pack_of_special {spec : Format} {v : UnpackedFloat}
    (h : ∀ s m e hm, v ≠ .finite s m e hm) :
    UnpackedFloat.unpack spec (UnpackedFloat.pack spec v) = v := by
  cases v with
  | notANumber => exact UnpackedFloat.unpack_packedNaN
  | infinity s => exact unpack_packedInfinity s
  | zero s => exact UnpackedFloat.unpack_packedZero
  | finite s m e hm => exact absurd rfl (h s m e hm)

/-- A special value, or a zero, is the same at both widths. -/
theorem unpack_widen_of_special {x : Float32}
    (h : ∀ s m e hm, x.toModel.unpack ≠ .finite s m e hm) :
    (widen x).toModel.unpack = x.toModel.unpack := by
  have hwiden : widen x = .ofModel (.pack x.toModel.unpack) := by
    rw [widen]
    split
    · next heq => exact (h _ _ _ _ heq).elim
    · rfl
  rw [hwiden]
  exact unpack_pack_of_special h

/-- A 32-bit float is put together from what it is taken apart into. -/
theorem pack_unpack_float32 (x : Float32) : .ofModel (.pack x.toModel.unpack) = x := by
  have hbits := UnpackedFloat.pack_unpack_of_valid x.toModel.valid
  rw [← Float32.toBits_inj, ← UInt32.toBitVec_inj]
  exact hbits

/-- A 64-bit float is put together from what it is taken apart into. -/
theorem pack_unpack_float (v : Float) : .ofModel (.pack v.toModel.unpack) = v := by
  have hbits := UnpackedFloat.pack_unpack_of_valid v.toModel.valid
  rw [← Float.toBits_inj, ← UInt64.toBitVec_inj]
  exact hbits

theorem float32_eq_of_unpack {x y : Float32} (h : x.toModel.unpack = y.toModel.unpack) : x = y := by
  rw [← pack_unpack_float32 x, h, pack_unpack_float32]

theorem float_eq_of_unpack {v w : Float} (h : v.toModel.unpack = w.toModel.unpack) : v = w := by
  rw [← pack_unpack_float v, h, pack_unpack_float]

/-- Widening loses nothing. -/
@[simp]
theorem narrow_widen (x : Float32) : narrow (widen x) = x := by
  refine Eq.trans ?_ (pack_unpack_float32 x)
  rw [narrow]
  cases hx : x.toModel.unpack with
  | finite s m e hm =>
    -- Narrowing shifts out the zeros that widening has shifted in.
    obtain ⟨k, hk, hwide⟩ := unpack_widen hx
    simp only [hwide, (aligned_of_unpack (by decide) hx).1.round_shiftLeft s k]
  | _ =>
    rw [unpack_widen_of_special (by simp [hx]), hx]

/-- Widening keeps what is finite finite. -/
theorem isFinite_widen (x : Float32) : (widen x).isFinite = x.isFinite := by
  show UnpackedFloat.isFinite (widen x).toModel.unpack = UnpackedFloat.isFinite x.toModel.unpack
  cases hx : x.toModel.unpack with
  | finite s m e hm =>
    obtain ⟨k, hk, hwide⟩ := unpack_widen hx
    rw [hwide]
    rfl
  | _ => rw [unpack_widen_of_special (by simp [hx]), hx]

end TrafficMap
