import TrafficMap.Proofs.Number.Packing
import TrafficMap.Proofs.Number.Sign

/-!
# Numbers: Where a Minus Sign Comes From

A printed number has a minus sign in front exactly if its float has the sign bit set and is a
number, and that holds of the negative zero as well. Addition never sets the sign bit where both
operands have none. So a sum that starts at the negative zero loses the sign with the first operand
that has none, and keeps it only if there is no operand at all.
-/

namespace TrafficMap

open Float.Model (UnpackedFloat Format)
open Float.Model.UnpackedFloat (Accuracy Sign)

/-! ## Signs of unpacked floats -/

/-- The number has a minus sign, be it a zero or not. What is no number has no sign. -/
def Binary.isNegative : Binary → Bool
  | .notANumber => false
  | .infinite negative => negative
  | .finite negative _ _ => negative

/-- The sign bit is set, and the float is a number. -/
def hasMinus (x : UnpackedFloat) : Bool := (Binary.ofUnpacked x).isNegative

@[simp]
theorem hasMinus_infinity (s : Sign) : hasMinus (.infinity s) = isMinus s := rfl

@[simp]
theorem hasMinus_zero (s : Sign) : hasMinus (.zero s) = isMinus s := rfl

@[simp]
theorem hasMinus_finite (s : Sign) (m : Nat) (e : Int) (hm : 0 < m) :
    hasMinus (.finite s m e hm) = isMinus s := rfl

/-- The one sign that prints nothing. -/
theorem isMinus_eq_false {s : Sign} : isMinus s = false ↔ s = .positive := by
  cases s <;> simp [isMinus]

/-! ## Rounding and packing -/

/-- Rounding may go down to zero, but to the zero of the same sign. -/
@[simp]
theorem hasMinus_roundWithAccuracy (spec : Format) (s : Sign) (m : Nat) (e : Int) (a : Accuracy) :
    hasMinus (UnpackedFloat.roundWithAccuracy spec s m e a) = isMinus s := by
  unfold UnpackedFloat.roundWithAccuracy
  simp only []
  split
  · rw [hasMinus_zero]
  · rw [hasMinus_finite]

@[simp]
theorem hasMinus_round (spec : Format) (s : Sign) (m : Nat) (e : Int) :
    hasMinus (UnpackedFloat.round spec s m e) = isMinus s := by
  unfold UnpackedFloat.round
  simp

/-- A whole number of units that is not below zero gets no minus sign. -/
theorem hasMinus_normalize {spec : Format} {n : Int} (hn : 0 ≤ n) (e : Int) :
    hasMinus (UnpackedFloat.normalize spec n e .positive) = false := by
  unfold UnpackedFloat.normalize
  split
  case h_1 hlt =>
    -- Only a number below zero would get one.
    rw [Int.compare_eq_lt] at hlt
    omega
  case h_2 => rfl
  case h_3 => exact hasMinus_round spec .positive _ _

/-- An exponent field that is not all ones stands for a number, with the sign of the sign bit. -/
theorem hasMinus_unpack_packComponents {spec : Format} (s : Sign)
    {exponent : BitVec spec.exponentBits} (hexponent : exponent ≠ -1#_)
    (mantissa : BitVec spec.mantissaBitsWithoutImplicit) :
    hasMinus (UnpackedFloat.unpack spec (UnpackedFloat.packComponents spec s exponent mantissa)) =
      isMinus s := by
  simp only [UnpackedFloat.unpack, UnpackedFloat.unpackMantissa_packComponents,
    UnpackedFloat.unpackExponent_packComponents, UnpackedFloat.unpackSign_packComponents,
    Sign.ofBitVec_toBitVec, hexponent, if_false]
  -- Zero and the numbers next to it have an exponent of zeros; the sign is read apart from all
  -- this.
  split
  · split
    · rw [hasMinus_zero]
    · rw [hasMinus_finite]
  · rw [hasMinus_finite]

/-- Packing keeps the sign of every number, even where it overflows or is rounded again. -/
@[simp]
theorem hasMinus_unpack_pack (spec : Format) (x : UnpackedFloat) :
    hasMinus (UnpackedFloat.unpack spec (UnpackedFloat.pack spec x)) = hasMinus x := by
  have hleast : BitVec.ofNat spec.exponentBits 0 ≠ -1#_ := by
    apply ofNat_ne_neg_one
    exact Nat.one_lt_two_pow spec.he.ne'
  cases x with
  | notANumber =>
    rw [UnpackedFloat.pack, UnpackedFloat.unpack_packedNaN]
  | infinity s =>
    rw [UnpackedFloat.pack, unpack_packedInfinity]
  | zero s =>
    rw [UnpackedFloat.pack, UnpackedFloat.unpack_packedZero]
  | finite s m e hm =>
    simp only [UnpackedFloat.pack]
    split
    · -- What is too large becomes the infinity of the same sign.
      rw [unpack_packedInfinity, hasMinus_infinity, hasMinus_finite]
    next hfits =>
    split
    · exact hasMinus_unpack_packComponents s (ofNat_ne_neg_one (by omega)) _
    · exact hasMinus_unpack_packComponents s hleast _

/-! ## Operations -/

/-- The sum of two numbers without a minus sign has none. -/
theorem hasMinus_add {spec : Format} {x y : UnpackedFloat} (hx : hasMinus x = false)
    (hy : hasMinus y = false) : hasMinus (UnpackedFloat.add spec x y) = false := by
  cases x with
  | notANumber => rfl
  | infinity s =>
    rw [hasMinus_infinity, isMinus_eq_false] at hx
    subst hx
    cases y with
    | infinity t =>
      rw [hasMinus_infinity, isMinus_eq_false] at hy
      subst hy
      rfl
    | _ => rfl
  | zero s =>
    rw [hasMinus_zero, isMinus_eq_false] at hx
    subst hx
    cases y with
    | zero t =>
      rw [hasMinus_zero, isMinus_eq_false] at hy
      subst hy
      rfl
    | _ => exact hy
  | finite s m e hm =>
    rw [hasMinus_finite, isMinus_eq_false] at hx
    subst hx
    cases y with
    | finite t n f hn =>
      rw [hasMinus_finite, isMinus_eq_false] at hy
      subst hy
      -- At the smaller exponent both are whole numbers of units, and neither is below zero.
      apply hasMinus_normalize
      exact Int.add_nonneg (Int.natCast_nonneg _) (Int.natCast_nonneg _)
    | infinity t => exact hy
    | _ => rfl

/-- The negative zero adds nothing, not even its sign. -/
theorem hasMinus_negativeZero_add (spec : Format) (y : UnpackedFloat) :
    hasMinus (UnpackedFloat.add spec (.zero .negative) y) = hasMinus y := by
  cases y with
  | zero t => cases t <;> rfl
  | _ => rfl

/-- Division by a positive number keeps the sign. -/
theorem hasMinus_div (spec : Format) (x : UnpackedFloat) (m : Nat) (e : Int) (hm : 0 < m) :
    hasMinus (UnpackedFloat.div spec x (.finite .positive m e hm)) = hasMinus x := by
  have hsign (s : Sign) : isMinus (s / .positive) = isMinus s := by
    cases s <;> rfl
  cases x with
  | notANumber => rfl
  | infinity s => exact hsign s
  | zero s => exact hsign s
  | finite s n f hn =>
    simp only [UnpackedFloat.div]
    rw [hasMinus_roundWithAccuracy, hsign, hasMinus_finite]

/-! ## Floats -/

/-- The float is a number with a minus sign. -/
def isNegative (v : Float) : Bool := hasMinus v.toModel.unpack

/-- Rates have no minus sign. -/
theorem IsRate.isNegative_eq_false {v : Float} (h : IsRate v) : isNegative v = false := by
  rw [isNegative]
  cases hv : v.toModel.unpack with
  | notANumber => rfl
  | infinity s =>
    have hbounded : UnpackedFloat.isInf v.toModel.unpack = false := h.bounded
    rw [hv] at hbounded
    cases hbounded
  | zero s =>
    cases s with
    | positive => rfl
    | negative =>
      -- This is the negative zero, which is no rate.
      have hzero := pack_unpack_float v
      rw [hv] at hzero
      exact absurd hzero.symm h.unsigned
  | finite s m e hm =>
    cases s with
    | positive => rfl
    | negative =>
      have hless : v < 0.0 := by
        rw [float_lt_iff, unpack_zero, hv]
        rfl
      exact absurd hless h.nonnegative

theorem isNegative_add {v w : Float} (hv : isNegative v = false) (hw : isNegative w = false) :
    isNegative (v + w) = false :=
  (hasMinus_unpack_pack Format.binary64 _).trans (hasMinus_add hv hw)

theorem isNegative_negativeZero_add (v : Float) : isNegative (-0.0 + v) = isNegative v :=
  (hasMinus_unpack_pack Format.binary64 _).trans (hasMinus_negativeZero_add Format.binary64 _)

theorem isNegative_div {v w : Float} {m : Nat} {e : Int} {hm : 0 < m}
    (hw : w.toModel.unpack = .finite .positive m e hm) : isNegative (v / w) = isNegative v := by
  have hdiv := hasMinus_div Format.binary64 v.toModel.unpack m e hm
  rw [← hw] at hdiv
  exact (hasMinus_unpack_pack Format.binary64 _).trans hdiv

/-- Adding up numbers without a minus sign never brings one in. -/
theorem isNegative_foldl {start : Float} (hstart : isNegative start = false) {vs : List Float}
    (hvs : ∀ v ∈ vs, isNegative v = false) : isNegative (vs.foldl (· + ·) start) = false := by
  induction vs generalizing start with
  | nil => exact hstart
  | cons v vs ih =>
    rw [List.foldl_cons]
    apply ih
    · exact isNegative_add hstart (hvs v List.mem_cons_self)
    · intro w hw
      exact hvs w (List.mem_cons_of_mem v hw)

/-- **Only the empty sum has a minus sign**, where none of the summands has one. A sum begins with
the negative zero, which any summand without a minus sign turns into something without one. -/
theorem isNegative_sum {vs : List Float} (hvs : ∀ v ∈ vs, isNegative v = false) :
    isNegative (Scalar.sum vs) = true ↔ vs = [] := by
  cases vs with
  | nil => simp only [iff_true]; rfl
  | cons v vs =>
    -- The first summand takes the place of the negative zero, and from there on no sign comes in.
    have hfirst : isNegative (-0.0 + v) = false := by
      rw [isNegative_negativeZero_add]
      exact hvs v List.mem_cons_self
    have hsum : isNegative (Scalar.sum (v :: vs)) = false := by
      apply isNegative_foldl hfirst
      intro w hw
      exact hvs w (List.mem_cons_of_mem v hw)
    rw [hsum]
    simp

end TrafficMap
