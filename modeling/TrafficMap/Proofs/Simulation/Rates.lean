import Mathlib
import TrafficMap.Number.Scalar
import TrafficMap.Proofs.Number.Magnitude
import TrafficMap.Proofs.Report.LinkSelection
import TrafficMap.Simulation.Simulator

/-!
# Simulation: Rates

What a tick may report for a route. `Simulator.MayReport` forgets in which order the draws are made;
it keeps that phases and noise are draws and that swings are values of the wave.

In floats such a rate is finite, so normalization keeps it. In real numbers it is a twentieth of the
route's rate while the target is down, and from half to one and a half times that rate otherwise.
-/

namespace TrafficMap

/-! ## Real scalars

The real numbers as a kind of number for the formulas. Unlike the rational numbers they hold the
values of a sine, so a simulation can run on them exactly. Nothing here can be computed; it serves
statements about exact arithmetic.
-/

/-- The natural number nearest to a real number that is not negative; a half goes to the even
neighbour. -/
noncomputable def nearestEven (x : ℝ) : Nat :=
  let q := ⌊x⌋₊
  if x - q < 1 / 2 then q else if 1 / 2 < x - q then q + 1 else q + q % 2

noncomputable instance : Scalar ℝ where
  decidableLT a b := Classical.propDecidable (a < b)
  decidableLE a b := Classical.propDecidable (a ≤ b)
  beq a b := decide (a = b)
  ofCount n := n
  emptySum := 0
  isFinite _ := true
  shorter dx dy r := decide (0 < r ∧ dx * dx + dy * dy < r * r)
  rounded places x := .finite (decide (x < 0)) (nearestEven (|x| * tenTo places)) places

/-! ## Ranges -/

/-- Draws in the ranges that are asked for, and a wave that stays between minus one and one. -/
structure Chance.IsInRange {σ ν : Type} [Scalar ν] (chance : Chance σ ν) : Prop where
  phase : ∀ s, 0.0 ≤ (chance.phase s).1 ∧ (chance.phase s).1 ≤ 2.0 * 3.141592653589793
  noise : ∀ s, -0.1 ≤ (chance.noise s).1 ∧ (chance.noise s).1 ≤ 0.1
  wave : ∀ x, Scalar.isFinite x = true → -1.0 ≤ chance.wave x ∧ chance.wave x ≤ 1.0

theorem Simulation.rate_pos : ∀ r ∈ routes, 0 < r.rate := by decide

theorem Simulation.cast_rate_pos {r : Route} (hr : r ∈ routes) : (0 : ℝ) < r.rate :=
  Nat.cast_pos.mpr (rate_pos r hr)

namespace Simulator

variable {σ ν : Type} [Scalar ν]

/-! ## Rates of a tick -/

/-- The swing of a route whose phase is drawn from `s`. -/
def swing (chance : Chance σ ν) (tick : Nat) (s : σ) : ν :=
  chance.wave (Scalar.ofCount tick * 0.15 + (chance.phase s).1)

/-- A tick may report the rate for the route: with some phase and some noise, unless the target is
down. Nothing is said about how likely that is. -/
def MayReport (chance : Chance σ ν) (tick : Nat) (down : List String) (r : Route) (value : ν) :
    Prop :=
  if r.target ∈ down then value = Scalar.ofCount r.rate * 0.05
  else ∃ s t, value = rateOf (Scalar.ofCount r.rate) (swing chance tick s) (chance.noise t).1

/-- A rate is above zero, or it is the positive zero. -/
theorem rateOf_eq_zero_or_pos (rate swing noise : ν) :
    rateOf rate swing noise = 0.0 ∨ 0.0 < rateOf rate swing noise := by
  rw [rateOf]
  split
  · exact .inr ‹_›
  · exact .inl rfl

/-! ## Floats -/

section Floats

variable {chance : Chance σ Float}

theorem fitsIn_ofCount (n : Nat) : FitsIn 65 (Scalar.ofCount n : Float) := fitsIn_toFloat n.toUInt64

theorem fitsIn_swing (h : chance.IsInRange) (tick : Nat) (s : σ) :
    FitsIn 65 (swing chance tick s) := by
  obtain ⟨hphaselow, hphasehigh⟩ := h.phase s
  have hphase : FitsIn 66 (chance.phase s).1 :=
    fitsIn_of_le_of_le (by decide) (by decide) hphaselow hphasehigh
  have hturn : FitsIn 66 ((Scalar.ofCount tick : Float) * 0.15) :=
    (fitsIn_ofCount tick).mul (k := 0) (by decide) (by decide) (by decide)
  have hargument := (hturn.add hphase (by decide) (by decide)).isFinite
  obtain ⟨hlow, hhigh⟩ := h.wave _ hargument
  exact fitsIn_of_le_of_le (by decide) (by decide) hlow hhigh

theorem isFinite_rateOf (h : chance.IsInRange) (rate tick : Nat) (s t : σ) :
    (rateOf (Scalar.ofCount rate) (swing chance tick s) (chance.noise t).1).isFinite = true := by
  obtain ⟨hlow, hhigh⟩ := h.noise t
  -- Coarse bounds by powers of two are enough, the rate being any word: each operation adds its
  -- own.
  have hrate := fitsIn_ofCount rate
  have hnoise : FitsIn 0 (chance.noise t).1 := fitsIn_of_le_of_le (by decide) (by decide) hlow hhigh
  have hhub : FitsIn 66 ((Scalar.ofCount rate : Float) * 0.4) :=
    hrate.mul (k := 0) (by decide) (by decide) (by decide)
  have hswing : FitsIn 132 ((Scalar.ofCount rate : Float) * 0.4 * swing chance tick s) :=
    hhub.mul (fitsIn_swing h tick s) (by decide) (by decide)
  have hdeviation : FitsIn 66 ((chance.noise t).1 * (Scalar.ofCount rate : Float)) :=
    hnoise.mul hrate (by decide) (by decide)
  have hsum := ((hrate.mono (by decide)).add hswing (by decide) (by decide)).add
    (hdeviation.mono (by decide)) (by decide) (by decide)
  rw [rateOf]
  split
  · exact hsum.isFinite
  · rfl

/-- In floats every rate that may be reported is usable: normalization keeps it. -/
theorem usableVolume_of_mayReport (h : chance.IsInRange) {tick : Nat} {down : List String}
    {r : Route} (hr : r ∈ Simulation.routes) {value : Float}
    (hvalue : MayReport chance tick down r value) : usableVolume (some value) = value := by
  rw [MayReport] at hvalue
  split at hvalue
  · -- What is left of the traffic to a service that is down is one of a few constants.
    have hkept : ∀ r ∈ Simulation.routes,
        usableVolume (some ((Scalar.ofCount r.rate : Float) * 0.05)) =
          Scalar.ofCount r.rate * 0.05 := by decide +kernel
    rw [hvalue]
    exact hkept r hr
  · obtain ⟨s, t, rfl⟩ := hvalue
    obtain hzero | hpos := rateOf_eq_zero_or_pos (Scalar.ofCount r.rate) (swing chance tick s)
      (chance.noise t).1
    · rw [hzero]
      decide
    · exact usableVolume_of_usable (isFinite_rateOf h r.rate tick s t) hpos

end Floats

/-! ## Real numbers -/

section Reals

variable {chance : Chance σ ℝ}

/-- Swing and noise together take away at most half of a rate, so nothing is cut off at zero. -/
theorem rateOf_real {rate swing noise : ℝ} (hrate : 0 < rate) (hswing : -1 ≤ swing)
    (hnoise : -0.1 ≤ noise) :
    rateOf rate swing noise = rate + rate * 0.4 * swing + noise * rate := by
  rw [rateOf]
  apply if_pos
  show (0.0 : ℝ) < rate + rate * 0.4 * swing + noise * rate
  nlinarith

/-- A volume that a route may have in exact arithmetic: a twentieth of its rate while the target is
down; otherwise the rate with its swing and its noise, which is from half to one and a half times
the rate. Both bounds are positive, so that cutting off at zero changes nothing. -/
def IsExactVolume (chance : Chance σ ℝ) (tick : Nat) (down : List String) (r : Route) (volume : ℝ) :
    Prop :=
  if r.target ∈ down then volume = 0.05 * r.rate
  else 0.5 * r.rate ≤ volume ∧ volume ≤ 1.5 * r.rate ∧
    ∃ s t, volume =
      r.rate + r.rate * 0.4 * swing chance tick s + (chance.noise t).1 * r.rate

theorem isExactVolume_of_mayReport (h : chance.IsInRange) {tick : Nat} {down : List String}
    {r : Route} (hr : r ∈ Simulation.routes) {value : ℝ}
    (hvalue : MayReport chance tick down r value) : IsExactVolume chance tick down r value := by
  have hrate := Simulation.cast_rate_pos hr
  rw [MayReport] at hvalue
  rw [IsExactVolume]
  split at hvalue
  · next hdown =>
    rw [if_pos hdown, hvalue, mul_comm]
    rfl
  · next hup =>
    obtain ⟨s, t, rfl⟩ := hvalue
    obtain ⟨hnoiselow, hnoisehigh⟩ : -(0.1 : ℝ) ≤ (chance.noise t).1 ∧ (chance.noise t).1 ≤ 0.1 :=
      h.noise t
    obtain ⟨hswinglow, hswinghigh⟩ : -1 ≤ swing chance tick s ∧ swing chance tick s ≤ 1 := by
      have hswing : -(1.0 : ℝ) ≤ swing chance tick s ∧ swing chance tick s ≤ 1.0 := h.wave _ rfl
      norm_num at hswing
      exact hswing
    have hexact : rateOf (Scalar.ofCount r.rate) (swing chance tick s) (chance.noise t).1 =
        r.rate + r.rate * 0.4 * swing chance tick s + (chance.noise t).1 * r.rate :=
      rateOf_real hrate hswinglow hnoiselow
    rw [if_neg hup, hexact]
    -- The swing moves a rate by four tenths of it at most, and the noise by one.
    have hlow : -(r.rate * 0.4) ≤ r.rate * 0.4 * swing chance tick s := by nlinarith
    have hhigh : r.rate * 0.4 * swing chance tick s ≤ r.rate * 0.4 := by nlinarith
    refine ⟨?_, ?_, s, t, rfl⟩
    · nlinarith
    · nlinarith

/-- Any volume while the target is down is below any volume while it is up. -/
theorem IsExactVolume.lt {tick tick' : Nat} {down down' : List String} {r : Route} {low high : ℝ}
    (hr : r ∈ Simulation.routes) (hlow : IsExactVolume chance tick down r low)
    (hhigh : IsExactVolume chance tick' down' r high) (hdown : r.target ∈ down)
    (hup : r.target ∉ down') : low < high := by
  have hrate := Simulation.cast_rate_pos hr
  rw [IsExactVolume, if_pos hdown] at hlow
  rw [IsExactVolume, if_neg hup] at hhigh
  calc low = 0.05 * r.rate := hlow
    _ < 0.5 * r.rate := mul_lt_mul_of_pos_right (by norm_num) hrate
    _ ≤ high := hhigh.1

/-- An exact volume is above zero, so normalization keeps it. -/
theorem IsExactVolume.usable {tick : Nat} {down : List String} {r : Route} {volume : ℝ}
    (h : IsExactVolume chance tick down r volume) (hr : r ∈ Simulation.routes) :
    usableVolume (some volume) = volume := by
  have hrate := Simulation.cast_rate_pos hr
  have hpos : 0 < volume := by
    rw [IsExactVolume] at h
    -- Down, it is a twentieth of the rate; up, it is half the rate at least.
    split at h
    · rw [h]
      exact mul_pos (by norm_num) hrate
    · exact (mul_pos (by norm_num) hrate).trans_le h.1
  have hzero : (0.0 : ℝ) = 0 := by norm_num
  exact usableVolume_of_usable rfl (hzero.trans_lt hpos)

end Reals

end Simulator

end TrafficMap
