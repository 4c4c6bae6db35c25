/-!
# Tables of Characters

How a property of characters is kept: as runs of code points that have it, or as the places where
its value changes. Both are sorted, and a search ends at the first entry beyond the code point. Maps
between characters are kept as runs of code points with the same distance to their images.
-/

namespace TrafficMap.Text

/-- Code points, first and last of each run, in order. -/
abbrev Runs := List (Nat × Nat)

/-- A run holds the code point. -/
def Runs.contain : Runs → Nat → Bool
  | [], _ => false
  | (first, last) :: runs, n => first ≤ n && (n ≤ last || Runs.contain runs n)

/-- The character lies in a run. -/
def Runs.has (runs : Runs) (c : Char) : Bool := runs.contain c.toNat

/-- The value of the last entry that begins at `n` or before it. -/
def valueAt {α : Type} (before : α) : List (Nat × α) → Nat → α
  | [], _ => before
  | (first, a) :: entries, n => if first ≤ n then valueAt a entries n else before

/-- Every `step`-th code point from `first` to `last` stands for the one at distance `offset`. -/
structure Shift where
  first : Nat
  last : Nat
  step : Nat
  offset : Int
deriving Repr, DecidableEq

namespace Shift

/-- The code point stands for another one. -/
def contains (shift : Shift) (n : Nat) : Bool :=
  shift.first ≤ n && n ≤ shift.last && (n - shift.first) % shift.step == 0

/-- The code point that a code point stands for. -/
def apply (shift : Shift) (n : Nat) : Nat := ((n : Int) + shift.offset).toNat

end Shift

end TrafficMap.Text
