import Mathlib
import TrafficMap.Proofs.Number.NearestEven
import TrafficMap.Proofs.Number.Packing

/-!
# Numbers: Rounding to a Format

What comes out when a number is rounded to the digits of a format, put together and taken apart
again. The description knows nothing of shifts and carries:

* `IsPlace` says where the last digit of a number stands in a format;
* `IsRounded` says which number is nearest among those with their last digit there;
* `IsRounding` says what is left of it, which is an infinity where the format ends.

A mantissa carries two more bits while digits are shifted out. `Denotes` is the invariant of that:
it says which number the mantissa and its bits stand for, every shift keeps it, and in the end the
bits are all that is needed to find the nearest whole number.

The main statement is `isRounding_roundWithAccuracy`. Everything that rounds comes down to it: a
number that gets another width, a quotient, and a decimal that is read.
-/

namespace TrafficMap

open Float.Model (UnpackedFloat Format totalExponent)
open Float.Model.UnpackedFloat (ExtendedMantissa Accuracy Sign)

/-! ## Numbers of a mantissa and an exponent -/

/-- The rational number `mantissa * 2 ^ exponent`. -/
def dyadic (m : Nat) (e : Int) : ℚ := m * 2 ^ e

theorem dyadic_shiftLeft (m : Nat) (e : Int) (k : Nat) : dyadic (m <<< k) (e - k) = dyadic m e := by
  rw [dyadic, dyadic, Nat.shiftLeft_eq, zpow_sub₀ two_ne_zero, zpow_natCast]
  push_cast
  field_simp

/-- A number lies between the powers of two that its first digit tells. -/
theorem dyadic_bounds {m : Nat} (hm : 0 < m) (e : Int) :
    (2 : ℚ) ^ (totalExponent m e - 1) ≤ dyadic m e ∧ dyadic m e < 2 ^ totalExponent m e := by
  have hlow : ((2 ^ m.log2 : Nat) : ℚ) ≤ m := Nat.cast_le.mpr (Nat.log2_self_le hm.ne')
  have hhigh : (m : ℚ) < ((2 ^ (m.log2 + 1) : Nat) : ℚ) := Nat.cast_lt.mpr Nat.lt_log2_self
  have hpos : (0 : ℚ) < 2 ^ e := by positivity
  -- The bounds of `log2` for the mantissa, times the power for the exponent.
  push_cast at hlow hhigh
  constructor
  · have hexp : totalExponent m e - 1 = (m.log2 : Int) + e := by
      rw [totalExponent]
      ring
    rw [hexp, zpow_add₀ two_ne_zero, zpow_natCast, dyadic]
    exact mul_le_mul_of_nonneg_right hlow hpos.le
  · have hexp : totalExponent m e = ((m.log2 + 1 : Nat) : Int) + e := by
      rw [totalExponent]
      push_cast
      ring
    rw [hexp, zpow_add₀ two_ne_zero, zpow_natCast, dyadic]
    exact mul_lt_mul_of_pos_right hhigh hpos

theorem dyadic_pos {m : ℕ} (hm : 0 < m) (e : ℤ) : 0 < dyadic m e := by
  rw [dyadic]
  positivity

theorem zpow_two_lt_iff {a b : ℤ} : (2 : ℚ) ^ a < 2 ^ b ↔ a < b :=
  zpow_lt_zpow_iff_right₀ one_lt_two

/-! ## Shifting digits out -/

theorem shiftRight_succ (em : ExtendedMantissa) (k : Nat) :
    em >>> (k + 1) = (em >>> k).shiftRightOne := rfl

theorem mantissa_shiftRight (em : ExtendedMantissa) (k : Nat) :
    (em >>> k).mantissa = em.mantissa / 2 ^ k := by
  induction k with
  | zero => exact (Nat.div_one _).symm
  | succ k ih =>
    rw [shiftRight_succ, ExtendedMantissa.shiftRightOne, ih, Nat.div_div_eq_div_mul, Nat.pow_succ]

theorem mantissa_ofMantissaAndAccuracy (q : ℕ) (accuracy : Accuracy) :
    (ExtendedMantissa.ofMantissaAndAccuracy q accuracy).mantissa = q := by
  cases accuracy with
  | exact => rfl
  | inexact o => cases o <;> rfl

/-! ## Mantissas with two more bits -/

/-- The number is the mantissa and a fraction, and the bits tell where the fraction lies. The first
bit is the half, and the second one is set if there is anything else; shifting and rounding need to
know no more. -/
inductive Denotes : ExtendedMantissa → ℚ → Prop
  | whole (m : ℕ) : Denotes ⟨m, false, false⟩ m
  | belowHalf (m : ℕ) {f : ℚ} (hpos : 0 < f) (hlt : f < 1 / 2) : Denotes ⟨m, false, true⟩ (m + f)
  | half (m : ℕ) : Denotes ⟨m, true, false⟩ (m + 1 / 2)
  | aboveHalf (m : ℕ) {f : ℚ} (hlt : 1 / 2 < f) (hone : f < 1) : Denotes ⟨m, true, true⟩ (m + f)

namespace Denotes

variable {em : ExtendedMantissa} {x : ℚ}

/-- The bits are all that rounding needs. -/
theorem isNearestEven (h : Denotes em x) : IsNearestEven x em.roundedMantissa := by
  cases h with
  | whole m => exact .natCast m
  | belowHalf m hpos hlt => exact .add_of_lt_half m hpos.le hlt
  | half m => exact .add_half m
  | aboveHalf m hlt hone => exact .add_of_half_lt m hlt hone

/-- The mantissa is the whole part. -/
theorem bounds (h : Denotes em x) : (em.mantissa : ℚ) ≤ x ∧ x < em.mantissa + 1 := by
  cases h with
  | whole m => exact ⟨le_refl _, by linarith⟩
  | belowHalf m hpos hlt => constructor <;> linarith
  | half m => constructor <;> linarith
  | aboveHalf m hlt hone => constructor <;> linarith

/-- Half of a number: the last digit of the mantissa becomes the first bit, and the second bit stays
set once there is anything behind it. -/
theorem halved (m : ℕ) {f : ℚ} {sticky : Bool} (hf : 0 ≤ f) (hone : f < 1)
    (hsticky : sticky = true ↔ 0 < f) :
    Denotes ⟨m / 2, m % 2 != 0, sticky⟩ ((m + f) / 2) := by
  have hm : (m : ℚ) = 2 * ((m / 2 : ℕ) : ℚ) + ((m % 2 : ℕ) : ℚ) := by
    exact_mod_cast (Nat.div_add_mod m 2).symm
  -- A clear second bit is the only thing known of the fraction, and it is enough.
  have hzero (h : sticky = false) : f = 0 := by
    apply le_antisymm _ hf
    apply not_lt.mp
    intro hpos
    rw [hsticky.mpr hpos] at h
    cases h
  -- The four constructors of `Denotes`, by the last digit of the mantissa and the second bit.
  obtain hbit | hbit := Nat.mod_two_eq_zero_or_one m
  · have hx : ((m : ℚ) + f) / 2 = ((m / 2 : ℕ) : ℚ) + f / 2 := by
      rw [hm, hbit]
      push_cast
      ring
    rw [hx, hbit]
    cases sticky with
    | false =>
      rw [hzero rfl, zero_div, add_zero]
      exact whole (m / 2)
    | true =>
      apply belowHalf (m / 2)
      · exact half_pos (hsticky.mp rfl)
      · linarith
  · have hx : ((m : ℚ) + f) / 2 = ((m / 2 : ℕ) : ℚ) + (1 + f) / 2 := by
      rw [hm, hbit]
      push_cast
      ring
    rw [hx, hbit]
    cases sticky with
    | false =>
      rw [hzero rfl, add_zero]
      exact half (m / 2)
    | true =>
      have hpos := hsticky.mp rfl
      apply aboveHalf (m / 2) <;> linarith

theorem shiftRightOne (h : Denotes em x) : Denotes em.shiftRightOne (x / 2) := by
  cases h with
  | whole m =>
    have hhalved : Denotes ⟨m / 2, m % 2 != 0, false⟩ ((m + 0) / 2) :=
      halved m le_rfl one_pos (by simp)
    rwa [add_zero] at hhalved
  | belowHalf m hpos hlt => exact halved m hpos.le (by linarith) (by simp [hpos])
  | half m => exact halved m (by norm_num) (by norm_num) (by norm_num)
  | aboveHalf m hlt hone => exact halved m (by linarith) hone (by simp; linarith)

theorem shiftRight (h : Denotes em x) (k : ℕ) : Denotes (em >>> k) (x / 2 ^ k) := by
  induction k with
  | zero =>
    rw [pow_zero, div_one]
    exact h
  | succ k ih =>
    rw [shiftRight_succ, pow_succ, ← div_div]
    exact ih.shiftRightOne

/-- A quotient of whole numbers, and what division with a rest knows of it. -/
theorem quotient (n : ℕ) {d : ℕ} (hd : 0 < d) :
    Denotes (.ofMantissaAndAccuracy (n / d) (UnpackedFloat.accuracyOfFraction (n % d) d))
      ((n : ℚ) / d) := by
  have hpos : (0 : ℚ) < d := by exact_mod_cast hd
  have hbelow : ((n % d : ℕ) : ℚ) / d < 1 := by
    rw [div_lt_one hpos]
    exact_mod_cast Nat.mod_lt n hd
  have hcompare := compare_two_mul_div (n % d) hd
  rw [cast_div_eq n hd, UnpackedFloat.accuracyOfFraction]
  split
  case isTrue hzero =>
    rw [hzero, Nat.cast_zero, zero_div, add_zero]
    exact whole (n / d)
  case isFalse hne =>
    have hrest : 0 < ((n % d : ℕ) : ℚ) / d := by
      have hpos' : 0 < n % d := Nat.pos_of_ne_zero hne
      positivity
    -- Twice the rest against the divisor, in whole numbers, is the fraction against a half.
    rw [hcompare]
    cases h : compare (((n % d : ℕ) : ℚ) / d) (1 / 2) with
    | lt => exact belowHalf (n / d) hrest (compare_lt_iff_lt.mp h)
    | eq =>
      rw [compare_eq_iff_eq.mp h]
      exact half (n / d)
    | gt => exact aboveHalf (n / d) (compare_gt_iff_gt.mp h) hbelow

end Denotes

/-! ## The nearest number of a format -/

theorem two_le_mantissaBits (spec : Format) : 2 ≤ spec.mantissaBits := by
  have h := spec.hm
  rw [Format.mantissaBits]
  omega

/-- The place of the last digit that a format has for a number. The digits of the format reach from
there up to the first digit of the number, unless the place is the least of all: then there are
fewer. -/
structure IsPlace (spec : Format) (q : ℚ) (e : ℤ) : Prop where
  least_le : spec.minExponent ≤ e
  lt : q < 2 ^ (e + spec.mantissaBits)
  le : e = spec.minExponent ∨ 2 ^ (e + spec.mantissaBits - 1) ≤ q

/-- The number `p` is the nearest to `q` of those that have their last digit at the place of `q`,
and of two nearest ones the one with an even mantissa. No format occurs in it but the digits and the
least exponent, so it can be said of floats of any width. -/
def IsRounded (spec : Format) (q p : ℚ) : Prop :=
  ∃ e r, IsPlace spec q e ∧ IsNearestEven (q / 2 ^ e) r ∧ p = dyadic r e

section Place

variable {spec : Format} {q : ℚ} {e : ℤ}

theorem exists_isPlace (spec : Format) (q : ℚ) : ∃ e, IsPlace spec q e := by
  obtain hq | hq := le_or_gt q 0
  · exact ⟨spec.minExponent, le_rfl, hq.trans_lt (by positivity), .inl rfl⟩
  · have hlow := Int.zpow_log_le_self (b := 2) (by norm_num) hq
    have hhigh := Int.lt_zpow_succ_log_self (b := 2) (by norm_num) q
    push_cast at hlow hhigh
    -- Counted from the first digit, unless the format has no place so far down.
    obtain ⟨n, hn⟩ : ∃ n, Int.log 2 q + 1 - spec.mantissaBits = n := ⟨_, rfl⟩
    obtain hshort | hlong := le_or_gt n spec.minExponent
    · refine ⟨spec.minExponent, le_rfl, hhigh.trans_le ?_, .inl rfl⟩
      exact zpow_le_zpow_right₀ one_le_two (by omega)
    · refine ⟨n, hlong.le, hhigh.trans_le ?_, .inr (le_trans ?_ hlow)⟩
      · exact zpow_le_zpow_right₀ one_le_two (by omega)
      · exact zpow_le_zpow_right₀ one_le_two (by omega)

theorem IsPlace.le_of_le {q' : ℚ} {e' : ℤ} (h : IsPlace spec q e) (h' : IsPlace spec q' e')
    (hle : q ≤ q') : e ≤ e' := by
  obtain rfl | hlow := h.le
  · exact h'.least_le
  · have := zpow_two_lt_iff.mp (hlow.trans_lt (hle.trans_lt h'.lt))
    omega

/-- A number has only one place. -/
theorem IsPlace.unique {e' : ℤ} (h : IsPlace spec q e) (h' : IsPlace spec q e') : e = e' :=
  le_antisymm (h.le_of_le h' le_rfl) (h'.le_of_le h le_rfl)

/-- The place of a number that is given by mantissa and exponent. -/
theorem isPlace_targetExponent (spec : Format) {m : ℕ} (hm : 0 < m) (e : ℤ) :
    IsPlace spec (dyadic m e) (spec.targetExponent (totalExponent m e)) := by
  obtain ⟨hlow, hhigh⟩ := dyadic_bounds hm e
  rw [Format.targetExponent]
  refine ⟨le_max_right _ _, hhigh.trans_le ?_, ?_⟩
  · exact zpow_le_zpow_right₀ one_le_two (by omega)
  · obtain hshort | hlong := le_or_gt (totalExponent m e - spec.mantissaBits) spec.minExponent
    · exact .inl (max_eq_right hshort)
    · refine .inr (le_trans ?_ hlow)
      exact zpow_le_zpow_right₀ one_le_two (by omega)

/-- The first shift goes to the place of the number, as far as its whole part tells. -/
theorem IsPlace.eq_targetExponent {y : ℚ} {n : ℕ} {t : ℤ} (h : IsPlace spec (y * 2 ^ t) e)
    (hlow : (n : ℚ) ≤ y) (hhigh : y < n + 1) (ht : t ≤ e) :
    spec.targetExponent (totalExponent n t) = e := by
  have hbits := two_le_mantissaBits spec
  have hunit : (0 : ℚ) < 2 ^ t := by positivity
  have hleast := h.least_le
  rw [Format.targetExponent, totalExponent]
  obtain rfl | hn := Nat.eq_zero_or_pos n
  · -- Below one unit there are no digits to begin with, so the place is the least one.
    have hlog : Nat.log2 0 = 0 := rfl
    have hbelow : y * 2 ^ t < 2 ^ t := by
      rw [mul_lt_iff_lt_one_left hunit]
      simpa using hhigh
    obtain heq | hle := h.le
    · omega
    · have := zpow_two_lt_iff.mp (hle.trans_lt hbelow)
      omega
  · have hupper : y * 2 ^ t < 2 ^ (n.log2 + 1 + t : ℤ) := by
      have hcast : (n : ℚ) + 1 ≤ 2 ^ (n.log2 + 1) := by
        exact_mod_cast (Nat.lt_log2_self : n < 2 ^ (n.log2 + 1))
      have hsplit : (2 : ℚ) ^ (n.log2 + 1 + t : ℤ) = 2 ^ (n.log2 + 1) * 2 ^ t := by
        rw [zpow_add₀ two_ne_zero]
        norm_cast
      rw [hsplit]
      exact mul_lt_mul_of_pos_right (hhigh.trans_le hcast) hunit
    have hlower : (2 : ℚ) ^ (n.log2 + t : ℤ) ≤ y * 2 ^ t := by
      have hcast : (2 : ℚ) ^ n.log2 ≤ n := by
        exact_mod_cast Nat.log2_self_le hn.ne'
      rw [zpow_add₀ two_ne_zero, zpow_natCast]
      exact mul_le_mul_of_nonneg_right (hcast.trans hlow) hunit.le
    have hbelow := zpow_two_lt_iff.mp (hlower.trans_lt h.lt)
    obtain heq | hle := h.le
    · omega
    · have := zpow_two_lt_iff.mp (hle.trans_lt hupper)
      omega

/-- Rounding leaves no more digits than the format has, or the power of two that follows them. -/
theorem IsPlace.digits_le {r : ℕ} (h : IsPlace spec q e) (hr : IsNearestEven (q / 2 ^ e) r) :
    r ≤ 2 ^ spec.mantissaBits := by
  have hunit : (0 : ℚ) < 2 ^ e := by positivity
  have hbelow := h.lt
  rw [add_comm, zpow_add₀ two_ne_zero, zpow_natCast] at hbelow
  apply hr.le_natCast
  rw [div_le_iff₀ hunit]
  exact_mod_cast hbelow.le

/-- Above the least place, rounding leaves all digits that the format has. -/
theorem IsPlace.le_digits {r : ℕ} (h : IsPlace spec q e) (hr : IsNearestEven (q / 2 ^ e) r) :
    e = spec.minExponent ∨ 2 ^ (spec.mantissaBits - 1) ≤ r := by
  have hbits := two_le_mantissaBits spec
  have hunit : (0 : ℚ) < 2 ^ e := by positivity
  refine h.le.imp_right fun hlow => ?_
  have hsplit : (2 : ℚ) ^ (e + spec.mantissaBits - 1) = 2 ^ (spec.mantissaBits - 1) * 2 ^ e := by
    rw [← zpow_natCast, ← zpow_add₀ two_ne_zero]
    congr 1
    omega
  -- Rounding to the nearest does not fall below a whole number that is no greater.
  rw [hsplit] at hlow
  apply hr.natCast_le
  rw [le_div_iff₀ hunit]
  exact_mod_cast hlow

end Place

theorem exists_isRounded (spec : Format) {q : ℚ} (hq : 0 ≤ q) : ∃ p, IsRounded spec q p := by
  obtain ⟨e, he⟩ := exists_isPlace spec q
  obtain ⟨r, hr⟩ := exists_isNearestEven (show 0 ≤ q / 2 ^ e by positivity)
  exact ⟨_, e, r, he, hr, rfl⟩

section Rounded

variable {spec : Format} {q p : ℚ}

/-- **Rounding to a format keeps the order**, also where the last digit moves to another place. -/
theorem IsRounded.le_of_le {q' p' : ℚ} (h : IsRounded spec q p) (h' : IsRounded spec q' p')
    (hle : q ≤ q') : p ≤ p' := by
  have hbits := two_le_mantissaBits spec
  obtain ⟨e, r, hplace, hr, rfl⟩ := h
  obtain ⟨e', r', hplace', hr', rfl⟩ := h'
  have hunit : (0 : ℚ) < 2 ^ e := by positivity
  have hunit' : (0 : ℚ) < 2 ^ e' := by positivity
  obtain hlt | rfl := (hplace.le_of_le hplace' hle).lt_or_eq
  · -- Between the two there is the power of two at which the place moves.
    have hhigh : ((r : ℕ) : ℚ) ≤ 2 ^ spec.mantissaBits := by exact_mod_cast hplace.digits_le hr
    have hleast := hplace.least_le
    have hlow : (2 : ℚ) ^ (spec.mantissaBits - 1) ≤ r' := by
      obtain heq | hdigits := hplace'.le_digits hr'
      · omega
      · exact_mod_cast hdigits
    calc dyadic r e ≤ 2 ^ spec.mantissaBits * 2 ^ e := mul_le_mul_of_nonneg_right hhigh hunit.le
      _ = 2 ^ (spec.mantissaBits + e : ℤ) := by rw [zpow_add₀ two_ne_zero, zpow_natCast]
      _ ≤ 2 ^ ((spec.mantissaBits - 1 : ℕ) + e' : ℤ) := zpow_le_zpow_right₀ one_le_two (by omega)
      _ = 2 ^ (spec.mantissaBits - 1) * 2 ^ e' := by rw [zpow_add₀ two_ne_zero, zpow_natCast]
      _ ≤ dyadic r' e' := mul_le_mul_of_nonneg_right hlow hunit'.le
  · have hmantissas : (r : ℚ) ≤ r' := by
      exact_mod_cast hr.le_of_le hr' (div_le_div_of_nonneg_right hle hunit.le)
    exact mul_le_mul_of_nonneg_right hmantissas hunit.le

theorem IsRounded.unique {p' : ℚ} (h : IsRounded spec q p) (h' : IsRounded spec q p') : p = p' :=
  le_antisymm (h.le_of_le h' le_rfl) (h'.le_of_le h le_rfl)

theorem IsAligned.isPlace {m : ℕ} {e : ℤ} (h : IsAligned spec m e) : IsPlace spec (dyadic m e) e := by
  have hplace := isPlace_targetExponent spec h.pos e
  rwa [h.target] at hplace

/-- Aligned numbers are the same only if mantissa and exponent are. -/
theorem IsAligned.unique {m m' : ℕ} {e e' : ℤ} (h : IsAligned spec m e) (h' : IsAligned spec m' e')
    (heq : dyadic m e = dyadic m' e') : m = m' ∧ e = e' := by
  have hplace := h.isPlace
  rw [heq] at hplace
  obtain rfl := hplace.unique h'.isPlace
  have hunit : (2 : ℚ) ^ e ≠ 0 := by positivity
  exact ⟨Nat.cast_injective (mul_right_cancel₀ hunit heq), rfl⟩

end Rounded

/-! ## What rounding gives -/

/-- What is left of a number with a sign when it has been rounded to a format: the nearest number,
or an infinity if that number is beyond the format. -/
inductive IsRounding (spec : Format) (s : Sign) (q : ℚ) : UnpackedFloat → Prop
  | zero (hq : IsRounded spec q 0) : IsRounding spec s q (.zero s)
  | finite {m : ℕ} {e : ℤ} (h : IsAligned spec m e) (hle : e ≤ greatestExponent spec)
      (hq : IsRounded spec q (dyadic m e)) : IsRounding spec s q (.finite s m e h.pos)
  | infinity {p : ℚ} (hp : 2 ^ 2 ^ (spec.exponentBits - 1) ≤ p) (hq : IsRounded spec q p) :
      IsRounding spec s q (.infinity s)

section Rounding

variable {spec : Format}

/-- What rounding leaves of the digits, with an exponent for it: as many as the format holds, or one
more after a carry, which gives the last one away. -/
theorem exists_shiftToTarget {r : ℕ} {e : ℤ} (hr : 0 < r) (hhigh : r ≤ 2 ^ spec.mantissaBits)
    (he : spec.minExponent ≤ e) (hlow : e = spec.minExponent ∨ 2 ^ (spec.mantissaBits - 1) ≤ r) :
    ∃ m f, UnpackedFloat.shiftToTargetExponent spec r e .exact = (⟨m, false, false⟩, f) ∧
      IsAligned spec m f ∧ dyadic m f = dyadic r e := by
  have hbits := two_le_mantissaBits spec
  obtain hfits | rfl := hhigh.lt_or_eq
  · have hlog : r.log2 < spec.mantissaBits := (Nat.log2_lt hr.ne').mpr hfits
    have haligned : IsAligned spec r e := by
      refine isAligned_iff.mpr ⟨hr, hlog, he, ?_⟩
      obtain hleast | hlow := hlow
      · exact .inr hleast
      · have := (Nat.le_log2 hr.ne').mpr hlow
        exact .inl (by omega)
    have hshift := haligned.shiftToTarget 0
    rw [Nat.shiftLeft_zero, Nat.cast_zero, sub_zero] at hshift
    exact ⟨r, e, hshift, haligned, rfl⟩
  · -- The carry leaves a one and zeros, and one of the zeros goes.
    obtain ⟨p, hp⟩ : ∃ p, spec.mantissaBits = p + 1 := ⟨spec.mantissaBits - 1, by omega⟩
    have haligned : IsAligned spec (2 ^ p) (e + 1) :=
      isAligned_iff.mpr ⟨by positivity, by rw [Nat.log2_two_pow, hp], by omega,
        .inl (by rw [Nat.log2_two_pow, hp])⟩
    have hshift := haligned.shiftToTarget 1
    rw [Nat.cast_one, add_sub_cancel_right, Nat.shiftLeft_eq, pow_one, ← Nat.pow_succ] at hshift
    rw [hp]
    refine ⟨2 ^ p, e + 1, hshift, haligned, ?_⟩
    rw [dyadic, dyadic, zpow_add_one₀ two_ne_zero]
    push_cast
    ring

/-- **Rounding gives the nearest number of the format.** The mantissa and its two bits denote a
number; as long as no digit above its place is missing, rounding takes that number, multiplied by
the power of two, to the nearest one, and to an infinity if that is beyond the format. -/
theorem isRounding_roundWithAccuracy (hspec : 2 ≤ spec.exponentBits) (s : Sign) {n : ℕ} {t e : ℤ}
    {accuracy : Accuracy} {y : ℚ} (hy : Denotes (.ofMantissaAndAccuracy n accuracy) y)
    (hplace : IsPlace spec (y * 2 ^ t) e) (ht : t ≤ e) :
    IsRounding spec s (y * 2 ^ t) (UnpackedFloat.unpack spec
      (UnpackedFloat.pack spec (UnpackedFloat.roundWithAccuracy spec s n t accuracy))) := by
  obtain ⟨k, hk⟩ : ∃ k : ℕ, e - t = k := Int.eq_ofNat_of_zero_le (by omega)
  -- The first shift goes down to the place of the number.
  have hfirst : UnpackedFloat.shiftToTargetExponent spec n t accuracy =
      (ExtendedMantissa.ofMantissaAndAccuracy n accuracy >>> k, e) := by
    obtain ⟨hlow, hhigh⟩ := hy.bounds
    rw [mantissa_ofMantissaAndAccuracy] at hlow hhigh
    have hcount : (e - t).toNat = k := by omega
    simp only [UnpackedFloat.shiftToTargetExponent, UnpackedFloat.shiftToExponent,
      hplace.eq_targetExponent hlow hhigh ht, hcount]
    exact Prod.ext rfl (by simp only; omega)
  obtain ⟨r, hr⟩ : ∃ r,
      (ExtendedMantissa.ofMantissaAndAccuracy n accuracy >>> k).roundedMantissa = r := ⟨_, rfl⟩
  -- What stands there is what the number is in units of that place, so its bits round it.
  have hnearest : IsNearestEven (y * 2 ^ t / 2 ^ e) r := by
    have hsplit : (2 : ℚ) ^ e = 2 ^ k * 2 ^ t := by
      rw [← zpow_natCast, ← zpow_add₀ two_ne_zero]
      congr 1
      omega
    have hunit : (2 : ℚ) ^ t ≠ 0 := by positivity
    rw [hsplit, mul_div_mul_right _ _ hunit, ← hr]
    exact (hy.shiftRight k).isNearestEven
  have hrounded : IsRounded spec (y * 2 ^ t) (dyadic r e) := ⟨e, r, hplace, hnearest, rfl⟩
  unfold UnpackedFloat.roundWithAccuracy
  simp only [hfirst, hr]
  obtain rfl | hpos := Nat.eq_zero_or_pos r
  · have hzero : (UnpackedFloat.shiftToTargetExponent spec 0 e .exact).1.mantissa = 0 :=
      (mantissa_shiftRight ⟨0, false, false⟩ _).trans (Nat.zero_div _)
    have hpacked : UnpackedFloat.unpack spec (UnpackedFloat.pack spec (.zero s)) = .zero s :=
      UnpackedFloat.unpack_packedZero
    rw [dif_pos hzero, hpacked]
    refine .zero ?_
    simpa [dyadic] using hrounded
  · -- The second shift finds an aligned number, and only its exponent may be too great.
    obtain ⟨m, f, hsecond, haligned, hvalue⟩ := exists_shiftToTarget hpos (hplace.digits_le hnearest)
      hplace.least_le (hplace.le_digits hnearest)
    simp only [hsecond]
    rw [dif_neg haligned.pos.ne', unpack_pack_of_aligned hspec haligned]
    rw [← hvalue] at hrounded
    split
    case isTrue hle => exact .finite haligned hle hrounded
    case isFalse hbeyond =>
      refine .infinity (le_trans ?_ (dyadic_bounds haligned.pos f).1) hrounded
      obtain ⟨-, -, -, hdigits⟩ := isAligned_iff.mp haligned
      obtain ⟨k, hk, -, -, hleast, hgreatest⟩ := exists_exponent_half hspec
      rw [greatestExponent] at hbeyond hgreatest
      rw [← zpow_natCast]
      apply zpow_le_zpow_right₀ one_le_two
      rw [totalExponent]
      push_cast
      omega

/-- A number that is given by mantissa and exponent is rounded to the nearest number of the
format. -/
theorem isRounding_round (hspec : 2 ≤ spec.exponentBits) (s : Sign) {m : ℕ} (hm : 0 < m) (e : ℤ) :
    IsRounding spec s (dyadic m e)
      (UnpackedFloat.unpack spec (UnpackedFloat.pack spec (UnpackedFloat.round spec s m e))) := by
  have hplace := isPlace_targetExponent spec hm e
  obtain ⟨target, htarget⟩ : ∃ t, spec.targetExponent (totalExponent m e) = t := ⟨_, rfl⟩
  obtain ⟨k, hk⟩ : ∃ k : ℕ, (e - target).toNat = k := ⟨_, rfl⟩
  simp only [UnpackedFloat.round, UnpackedFloat.decreaseExponent, htarget, hk]
  rw [htarget, ← dyadic_shiftLeft m e k] at hplace
  rw [← dyadic_shiftLeft m e k]
  exact isRounding_roundWithAccuracy hspec s (.whole (m <<< k)) hplace (by omega)

/-- A quotient is rounded to the nearest number of the format: division goes on until it has all the
digits that are needed, and the rest tells the bits behind them. -/
theorem isRounding_div (hspec : 2 ≤ spec.exponentBits) (s₁ s₂ : Sign) {m₁ m₂ : ℕ} {e₁ e₂ : ℤ}
    (hm₁ : 0 < m₁) (hm₂ : 0 < m₂) :
    IsRounding spec (s₁ / s₂) (dyadic m₁ e₁ / dyadic m₂ e₂)
      (UnpackedFloat.unpack spec (UnpackedFloat.pack spec
        (UnpackedFloat.div spec (.finite s₁ m₁ e₁ hm₁) (.finite s₂ m₂ e₂ hm₂)))) := by
  obtain ⟨e, hplace⟩ := exists_isPlace spec (dyadic m₁ e₁ / dyadic m₂ e₂)
  obtain ⟨t, ht⟩ : ∃ t, min (e₁ - e₂)
      (spec.targetExponent (totalExponent m₁ e₁ - totalExponent m₂ e₂)) = t := ⟨_, rfl⟩
  obtain ⟨k, hk⟩ : ∃ k : ℕ, (e₁ - e₂ - t).toNat = k := ⟨_, rfl⟩
  have hle : t ≤ e := by
    have hexponents : totalExponent m₁ e₁ - 1 < e + spec.mantissaBits + totalExponent m₂ e₂ := by
      rw [← zpow_two_lt_iff, zpow_add₀ two_ne_zero (e + _)]
      calc (2 : ℚ) ^ (totalExponent m₁ e₁ - 1) ≤ dyadic m₁ e₁ := (dyadic_bounds hm₁ e₁).1
        _ < 2 ^ (e + spec.mantissaBits : ℤ) * dyadic m₂ e₂ :=
          (div_lt_iff₀ (dyadic_pos hm₂ e₂)).mp hplace.lt
        _ < 2 ^ (e + spec.mantissaBits : ℤ) * 2 ^ totalExponent m₂ e₂ :=
          mul_lt_mul_of_pos_left (dyadic_bounds hm₂ e₂).2 (by positivity)
    have hleast := hplace.least_le
    rw [← ht, Format.targetExponent]
    omega
  -- Zeros are shifted in first, and that makes up for the exponent of the quotient.
  have hquotient : ((m₁ <<< k : ℕ) : ℚ) / m₂ * 2 ^ t = dyadic m₁ e₁ / dyadic m₂ e₂ := by
    have hsplit : (2 : ℚ) ^ e₁ = 2 ^ k * 2 ^ t * 2 ^ e₂ := by
      rw [← zpow_natCast, ← zpow_add₀ two_ne_zero, ← zpow_add₀ two_ne_zero]
      congr 1
      omega
    rw [dyadic, dyadic, hsplit, Nat.shiftLeft_eq, ← mul_assoc, mul_div_mul_right _ _ (by positivity)]
    push_cast
    ring
  simp only [UnpackedFloat.div, UnpackedFloat.divCore, ht, hk]
  rw [← hquotient] at hplace ⊢
  exact isRounding_roundWithAccuracy hspec (s₁ / s₂) (.quotient (m₁ <<< k) hm₂) hplace hle

end Rounding

/-! ## Where a format ends -/

/-- Halfway from the greatest number of a format to the power of two that follows it. -/
def formatLimit (spec : Format) : ℚ :=
  2 ^ 2 ^ (spec.exponentBits - 1) - 2 ^ (greatestExponent spec - 1)

section Limit

variable {spec : Format}

/-- The power of two at which a format ends, and the limit, in units of the last digit there. -/
theorem formatLimit_eq (spec : Format) :
    (2 : ℚ) ^ 2 ^ (spec.exponentBits - 1) =
        (2 ^ spec.mantissaBits : ℕ) * 2 ^ greatestExponent spec ∧
      formatLimit spec = ((2 ^ spec.mantissaBits : ℕ) - 1 / 2) * 2 ^ greatestExponent spec := by
  have hpower : (2 : ℚ) ^ 2 ^ (spec.exponentBits - 1) =
      (2 ^ spec.mantissaBits : ℕ) * 2 ^ greatestExponent spec := by
    rw [Nat.cast_pow, Nat.cast_ofNat, ← zpow_natCast, ← zpow_natCast, ← zpow_add₀ two_ne_zero]
    congr 1
    rw [greatestExponent]
    push_cast
    omega
  refine ⟨hpower, ?_⟩
  -- The limit lies half a unit below the power.
  rw [formatLimit, hpower, zpow_sub_one₀ two_ne_zero]
  ring

theorem isPlace_formatLimit (hspec : 2 ≤ spec.exponentBits) :
    IsPlace spec (formatLimit spec) (greatestExponent spec) := by
  obtain ⟨k, hk, -, -, hleast, hgreatest⟩ := exists_exponent_half hspec
  have hbits := two_le_mantissaBits spec
  have hunit : (0 : ℚ) < 2 ^ greatestExponent spec := by positivity
  -- Without the truncated difference in the exponent the powers can be split.
  obtain ⟨n, hn⟩ : ∃ n, spec.mantissaBits = n + 1 := ⟨spec.mantissaBits - 1, by omega⟩
  refine ⟨by omega, ?_, .inr ?_⟩
  · rw [(formatLimit_eq spec).2, add_comm, zpow_add₀ two_ne_zero, zpow_natCast]
    apply mul_lt_mul_of_pos_right _ hunit
    push_cast
    linarith
  · have hsplit : (2 : ℚ) ^ (greatestExponent spec + spec.mantissaBits - 1) =
        2 ^ n * 2 ^ greatestExponent spec := by
      rw [← zpow_natCast, ← zpow_add₀ two_ne_zero]
      congr 1
      omega
    have hone : (1 : ℚ) ≤ 2 ^ n := one_le_pow₀ one_le_two
    rw [hsplit, (formatLimit_eq spec).2, hn, Nat.pow_succ]
    apply mul_le_mul_of_nonneg_right _ hunit.le
    push_cast
    linarith

/-- What reaches the limit is rounded to the power of two: in units of its last digit, the limit is
a half above an odd number. -/
theorem isRounded_formatLimit (hspec : 2 ≤ spec.exponentBits) :
    IsRounded spec (formatLimit spec) (2 ^ 2 ^ (spec.exponentBits - 1)) := by
  have hunit : (2 : ℚ) ^ greatestExponent spec ≠ 0 := by positivity
  have hodd : (2 ^ spec.mantissaBits - 1) + (2 ^ spec.mantissaBits - 1) % 2 =
      2 ^ spec.mantissaBits := by
    have hbits := two_le_mantissaBits spec
    obtain ⟨n, hn⟩ : ∃ n, spec.mantissaBits = n + 1 := ⟨spec.mantissaBits - 1, by omega⟩
    have hpos : 1 ≤ 2 ^ n := Nat.one_le_two_pow
    rw [hn, Nat.pow_succ]
    omega
  have hhalf : (((2 ^ spec.mantissaBits : ℕ) : ℚ) - 1 / 2) =
      ((2 ^ spec.mantissaBits - 1 : ℕ) : ℚ) + 1 / 2 := by
    rw [Nat.cast_sub Nat.one_le_two_pow, Nat.cast_one]
    ring
  -- The greatest mantissa is odd, so the half above it goes up, to the power of two.
  have hnear := IsNearestEven.add_half (2 ^ spec.mantissaBits - 1)
  rw [hodd] at hnear
  refine ⟨_, _, isPlace_formatLimit hspec, ?_, (formatLimit_eq spec).1⟩
  rwa [(formatLimit_eq spec).2, mul_div_cancel_right₀ _ hunit, hhalf]

/-- What does not reach the limit is rounded to a number below the power of two. -/
theorem IsRounded.lt_of_lt_limit (hspec : 2 ≤ spec.exponentBits) {q p : ℚ} (h : IsRounded spec q p)
    (hq : q < formatLimit spec) : p < 2 ^ 2 ^ (spec.exponentBits - 1) := by
  obtain ⟨e, r, hplace, hr, rfl⟩ := h
  have hunit : (0 : ℚ) < 2 ^ greatestExponent spec := by positivity
  have heven : Even (2 ^ spec.mantissaBits) := by
    have hbits := two_le_mantissaBits spec
    exact even_two.pow_of_ne_zero (by omega)
  rw [(formatLimit_eq spec).1]
  obtain hlt | rfl := (hplace.le_of_le (isPlace_formatLimit hspec) hq.le).lt_or_eq
  · -- Even with a carry, a smaller place does not get there.
    have hdigits : ((r : ℕ) : ℚ) ≤ (2 ^ spec.mantissaBits : ℕ) :=
      Nat.cast_le.mpr (hplace.digits_le hr)
    calc dyadic r e ≤ (2 ^ spec.mantissaBits : ℕ) * 2 ^ e :=
          mul_le_mul_of_nonneg_right hdigits (by positivity)
      _ < (2 ^ spec.mantissaBits : ℕ) * 2 ^ greatestExponent spec := by
          apply mul_lt_mul_of_pos_left _ (by positivity)
          exact zpow_two_lt_iff.mpr hlt
  · have hbelow : q / 2 ^ greatestExponent spec < (2 ^ spec.mantissaBits : ℕ) - 1 / 2 := by
      rwa [div_lt_iff₀ hunit, ← (formatLimit_eq spec).2]
    have hdigits := (hr.lt_iff_of_even heven).mpr hbelow
    exact mul_lt_mul_of_pos_right (Nat.cast_lt.mpr hdigits) hunit

/-- Nothing but zero is next to a number of less than half a unit at the least place. -/
theorem isRounded_zero {q : ℚ} (hq : 0 ≤ q) (hsmall : q < 2 ^ (spec.minExponent - 1)) :
    IsRounded spec q 0 := by
  have hbits := two_le_mantissaBits spec
  have hunit : (0 : ℚ) < 2 ^ spec.minExponent := by positivity
  have hhalf : q / 2 ^ spec.minExponent < 1 / 2 := by
    rw [div_lt_iff₀ hunit]
    rwa [zpow_sub_one₀ two_ne_zero, mul_comm, ← one_div] at hsmall
  -- Less than half a unit above zero, and the unit is the least there is.
  have hnear := IsNearestEven.add_of_lt_half 0 (div_nonneg hq hunit.le) hhalf
  rw [Nat.cast_zero, zero_add] at hnear
  refine ⟨spec.minExponent, 0, ⟨le_rfl, hsmall.trans_le ?_, .inl rfl⟩, hnear, ?_⟩
  · exact zpow_le_zpow_right₀ one_le_two (by omega)
  · rw [dyadic, Nat.cast_zero, zero_mul]

/-- What reaches the power of two at which a format ends becomes an infinity. -/
theorem isRounding_infinity (hspec : 2 ≤ spec.exponentBits) (s : Sign) {q : ℚ}
    (hq : 2 ^ 2 ^ (spec.exponentBits - 1) ≤ q) : IsRounding spec s q (.infinity s) := by
  obtain ⟨p, hp⟩ := exists_isRounded spec (le_trans (by positivity) hq)
  refine .infinity ?_ hp
  refine (isRounded_formatLimit hspec).le_of_le hp (le_trans ?_ hq)
  rw [formatLimit]
  exact sub_le_self _ (by positivity)

/-- **The range of a format.** What rounding leaves is finite exactly if the number does not reach
the limit. The limit is no number of the format: what reaches it would be rounded to the power of
two that the format cannot hold. -/
theorem IsRounding.isFinite_iff (hspec : 2 ≤ spec.exponentBits) {s : Sign} {q : ℚ}
    {v : UnpackedFloat} (h : IsRounding spec s q v) : v.isFinite = true ↔ q < formatLimit spec := by
  -- A number that reaches the limit is not rounded to anything below the power of two.
  have hbelow {p : ℚ} (hp : IsRounded spec q p) (hlt : p < 2 ^ 2 ^ (spec.exponentBits - 1)) :
      q < formatLimit spec := by
    by_contra hle
    exact absurd ((isRounded_formatLimit hspec).le_of_le hp (not_lt.mp hle)) (not_le.mpr hlt)
  cases h with
  | zero hq => exact iff_of_true rfl (hbelow hq (by positivity))
  | @finite m e haligned hle hq =>
    refine iff_of_true rfl (hbelow hq ?_)
    calc dyadic m e < 2 ^ (e + spec.mantissaBits) := haligned.isPlace.lt
      _ ≤ 2 ^ (greatestExponent spec + spec.mantissaBits) :=
        zpow_le_zpow_right₀ one_le_two (by omega)
      _ = 2 ^ 2 ^ (spec.exponentBits - 1) := by
        rw [(formatLimit_eq spec).1, add_comm, zpow_add₀ two_ne_zero]
        norm_cast
  | infinity hp hq =>
    refine iff_of_false Bool.false_ne_true fun hlt => ?_
    exact absurd (hq.lt_of_lt_limit hspec hlt) (not_lt.mpr hp)

end Limit

/-- What a format leaves of a number is determined by the number and its sign. -/
theorem IsRounding.unique {spec : Format} (hspec : 2 ≤ spec.exponentBits) {s : Sign} {q : ℚ}
    {v w : UnpackedFloat} (hv : IsRounding spec s q v) (hw : IsRounding spec s q w) : v = w := by
  -- Finite or not is decided by the number, which rules out the mixed cases with an infinity.
  have hfinite := (hv.isFinite_iff hspec).trans (hw.isFinite_iff hspec).symm
  cases hv with
  | zero hq =>
    cases hw with
    | zero => rfl
    | finite h _ hq' => exact absurd (hq.unique hq') (dyadic_pos h.pos _).ne
    | infinity => simp [UnpackedFloat.isFinite] at hfinite
  | finite h _ hq =>
    cases hw with
    | zero hq' => exact absurd (hq'.unique hq) (dyadic_pos h.pos _).ne
    | finite h' _ hq' =>
      obtain ⟨rfl, rfl⟩ := h.unique h' (hq.unique hq')
      rfl
    | infinity => simp [UnpackedFloat.isFinite] at hfinite
  | infinity =>
    cases hw with
    | zero => simp [UnpackedFloat.isFinite] at hfinite
    | finite => simp [UnpackedFloat.isFinite] at hfinite
    | infinity => rfl

end TrafficMap
