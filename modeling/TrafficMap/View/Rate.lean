import TrafficMap.Number.Scalar

/-!
# Rate Labels

A traffic volume is written as a rate per second: whole below a thousand, and with one decimal in
thousands or millions from there on. The unit is chosen by the volume itself, before it is rounded.
-/

namespace TrafficMap

/-- Unit of a rate label. -/
inductive RateUnit where
  | one
  | thousand
  | million
deriving Repr, BEq, DecidableEq

namespace RateUnit

/-- How many per second the unit stands for. -/
def factor {ν : Type} [Scalar ν] : RateUnit → ν
  | .one => 1.0
  | .thousand => 1000.0
  | .million => 1000000.0

def places : RateUnit → Nat
  | .one => 0
  | .thousand => 1
  | .million => 1

def suffix : RateUnit → String
  | .one => "/s"
  | .thousand => "k/s"
  | .million => "M/s"

end RateUnit

/-- A rate as it is printed. The unit is chosen by the volume, before that is rounded. -/
structure RateLabel where
  number : FixedDecimal
  unit : RateUnit
deriving Repr, BEq, DecidableEq

namespace RateLabel

variable {ν : Type} [Scalar ν]

/-- The largest unit that the volume reaches. -/
def unitOf (volume : ν) : RateUnit :=
  if (1000000.0 : ν) ≤ volume then .million
  else if (1000.0 : ν) ≤ volume then .thousand
  else .one

def ofVolume (volume : ν) : RateLabel :=
  match unitOf volume with
  | .one => ⟨Scalar.rounded RateUnit.one.places volume, .one⟩
  | unit => ⟨Scalar.rounded unit.places (volume / unit.factor), unit⟩

def text (l : RateLabel) : String := l.number.text ++ l.unit.suffix

end RateLabel

/-- The text of a traffic rate. -/
def rateText {ν : Type} [Scalar ν] (volume : ν) : String :=
  (RateLabel.ofVolume volume).text

end TrafficMap
