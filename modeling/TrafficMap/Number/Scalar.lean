import TrafficMap.Number.Binary

/-!
# Scalars

The geometry of the map is written once for every kind of number that can carry it: 32-bit floats
for what is drawn, 64-bit floats for traffic volumes, and rational numbers for exact statements
about the same formulas. `Scalar` collects what the formulas need beyond the four operations:
decimal constants, comparison, the value of an empty sum, a test for lying within a distance, and
the printed form with a fixed number of places.
-/

namespace TrafficMap

/-- A kind of number in which positions, lengths and volumes are computed. The program runs on
floats; over rational or real numbers the same definitions say what it would compute without
rounding. -/
class Scalar (α : Type) extends Add α, Sub α, Mul α, Div α, Neg α, LT α, LE α, BEq α,
    OfScientific α where
  /-- Comparison is decidable. -/
  decidableLT : (a b : α) → Decidable (a < b)
  /-- Comparison is decidable. -/
  decidableLE : (a b : α) → Decidable (a ≤ b)
  /-- The number of a count. -/
  ofCount : Nat → α
  /-- Where a sum starts: adding this value changes nothing. -/
  emptySum : α
  /-- Neither infinite nor undefined. -/
  isFinite : α → Bool
  /-- The vector with the given components is shorter than the third argument. -/
  shorter : α → α → α → Bool
  /-- Rounded to a number of decimal places. -/
  rounded : Nat → α → FixedDecimal

/-- The passage from the numbers of one kind to the nearest numbers of another. -/
class Narrowing (ν κ : Type) where
  /-- The nearest number of the second kind. -/
  narrow : ν → κ

namespace Scalar

variable {α : Type} [Scalar α]

instance (a b : α) : Decidable (a < b) := decidableLT a b

instance (a b : α) : Decidable (a ≤ b) := decidableLE a b

/-- Sum in list order. -/
def sum (xs : List α) : α :=
  xs.foldl (· + ·) emptySum

/-- The value between two bounds nearest to `x`; what compares with neither bound stays. -/
def clamp (x low high : α) : α :=
  if x < low then low else if high < x then high else x

end Scalar

/-! ## Floats -/

instance : Scalar Float32 where
  decidableLT a b := inferInstanceAs (Decidable (a < b))
  decidableLE a b := inferInstanceAs (Decidable (a ≤ b))
  ofCount n := n.toUInt64.toFloat32
  emptySum := -0.0
  isFinite x := x.isFinite
  shorter dx dy r := (dx * dx + dy * dy).sqrt < r
  rounded places x := (Binary.ofFloat32 x).rounded places

instance : Scalar Float where
  decidableLT a b := inferInstanceAs (Decidable (a < b))
  decidableLE a b := inferInstanceAs (Decidable (a ≤ b))
  ofCount n := n.toUInt64.toFloat
  emptySum := -0.0
  isFinite x := x.isFinite
  shorter dx dy r := (dx * dx + dy * dy).sqrt < r
  rounded places x := (Binary.ofFloat x).rounded places

instance : Narrowing Float Float32 := ⟨narrow⟩

/-! ## Exact numbers -/

/-- A rational vector may have an irrational length, so its square is compared. -/
instance : Scalar Rat where
  decidableLT a b := inferInstanceAs (Decidable (a < b))
  decidableLE a b := inferInstanceAs (Decidable (a ≤ b))
  ofCount n := n
  emptySum := 0
  isFinite _ := true
  shorter dx dy r := 0 < r && dx * dx + dy * dy < r * r
  rounded places x := .ofQuotient (x < 0) x.num.natAbs x.den places

instance : Narrowing Rat Rat := ⟨id⟩

end TrafficMap
