import TrafficMap.Number.Word

/-!
# Ages

How long ago something happened, in whole seconds, minutes or hours, the largest unit that fits. A
time in the future is of age zero, and no difference exceeds the largest signed 64-bit number.
-/

namespace TrafficMap

inductive AgeUnit where
  | second
  | minute
  | hour
deriving Repr, BEq, DecidableEq

namespace AgeUnit

def seconds : AgeUnit → Nat
  | .second => 1
  | .minute => 60
  | .hour => 3600

/-- Abbreviation of the unit. -/
def letter : AgeUnit → String
  | .second => "s"
  | .minute => "m"
  | .hour => "h"

end AgeUnit

/-- A number of units of time. -/
structure Age where
  count : Nat
  unit : AgeUnit
deriving Repr, BEq, DecidableEq

namespace Age

def seconds (a : Age) : Nat := a.count * a.unit.seconds

/-- The age in the largest unit of which it holds at least one. -/
def ofSeconds (n : Nat) : Age :=
  if n < 60 then ⟨n, .second⟩
  else if n < 3600 then ⟨n / 60, .minute⟩
  else ⟨n / 3600, .hour⟩

/-- Milliseconds from one time to another, none if the second comes first. What 64 bits cannot hold
is cut to the largest signed number. -/
def elapsed (since now : Int64) : Int64 :=
  max (saturate (now.toInt - since.toInt)) 0

/-- The age at time `now` of what happened at time `since`. -/
def between (since now : Int64) : Age :=
  ofSeconds (elapsed since now / 1000).toInt.toNat

/-- For instance `5m ago`. -/
def text (a : Age) : String :=
  toString a.count ++ a.unit.letter ++ " ago"

end Age

end TrafficMap
