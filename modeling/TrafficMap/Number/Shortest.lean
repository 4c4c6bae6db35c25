import TrafficMap.Number.Binary

/-!
# Shortest Decimals

The decimal with the fewest digits that reads back as a given 64-bit float, and of those with
equally many digits the one nearest to it. The numbers that read back as `m * 2 ^ q` form an
interval that ends halfway to its neighbours; the ends belong to it when `m` is even. Everything is
compared in whole numbers, after multiplication with a common denominator.

A text format for floats says which of two equally near decimals is taken, and how digits are laid
out. Two formats are used: a positional one, and one that turns to an exponent for very large and
very small numbers.
-/

namespace TrafficMap

/-! ## Values between two decimals -/

/-- Where a value goes that lies exactly halfway between two decimals. -/
inductive Halfway where
  /-- To the one with the even last digit. -/
  | toEven
  /-- To the larger one. -/
  | up
deriving Repr, BEq, DecidableEq

/-- The value halfway above `down` goes there. -/
def Halfway.goesDown (h : Halfway) (down : Nat) : Bool :=
  match h with
  | .toEven => down % 2 == 0
  | .up => false

/-! ## The interval of a float -/

/-- Numbers between `low / unit` and `high / unit` read back as the float whose value is
`value / unit`. -/
structure RoundTripInterval where
  low : Nat
  value : Nat
  high : Nat
  unit : Nat
  /-- The ends read back as the float, too. -/
  closed : Bool

namespace RoundTripInterval

/-- The interval of `mantissa * 2 ^ exponent`. Just above a power of two the neighbour below is only
half as far away as the one above. -/
def of (mantissa : Nat) (exponent : Int) : RoundTripInterval :=
  let below := if mantissa = 1 <<< 52 ∧ -1074 < exponent then 1 else 2
  let (n, d) := Binary.quotient 1 exponent
  { low := (4 * mantissa - below) * n
    value := 4 * mantissa * n
    high := (4 * mantissa + 2) * n
    unit := 4 * d
    closed := mantissa % 2 == 0 }

/-- The number `n / d` reads back as the float. -/
def contains (i : RoundTripInterval) (n d : Nat) : Bool :=
  if i.closed then i.low * d ≤ n * i.unit && n * i.unit ≤ i.high * d
  else i.low * d < n * i.unit && n * i.unit < i.high * d

/-- Of the two multiples of `10 ^ k` next to the value, the nearer one that reads back. -/
def onGrid? (i : RoundTripInterval) (halfway : Halfway) (k : Int) : Option Nat :=
  let (step, parts) := if 0 ≤ k then (tenTo k.toNat, 1) else (1, tenTo (-k).toNat)
  let n := i.value * parts
  let d := i.unit * step
  let down := n / d
  let up := down + 1
  -- Zero lies on every grid, but it has no digits to print.
  let fits (x : Nat) : Bool := x ≠ 0 && i.contains (x * step) parts
  let downIsNearer : Bool := 2 * (n % d) < d || (2 * (n % d) == d && halfway.goesDown down)
  if fits down && (downIsNearer || !fits up) then some down
  else if fits up then some up
  else none

end RoundTripInterval

/-! ## Digits and exponent -/

/-- A number `digits * 10 ^ exponent`. -/
structure Scientific where
  digits : Nat
  exponent : Int
deriving Repr, BEq, DecidableEq

namespace Scientific

/-- Number of decimal digits. -/
def width (n : Nat) : Nat := (toString n).length

/-- Without the zeros at the end of the digits; at most `fuel` of them are removed. -/
def stripZeros : Nat → Scientific → Scientific
  | 0, s => s
  | fuel + 1, s =>
    if s.digits ≠ 0 ∧ s.digits % 10 = 0 then stripZeros fuel ⟨s.digits / 10, s.exponent + 1⟩
    else s

/-- Position of the first digit of `n / d`: the least `k` with `n / d < 10 ^ k`, or one more. -/
def leadingPosition (n d : Nat) : Int :=
  (width n : Int) - (width d : Int) + 1

/-- The shortest decimal of `mantissa * 2 ^ exponent`. -/
def shortest (halfway : Halfway) (mantissa : Nat) (exponent : Int) : Scientific :=
  let i := RoundTripInterval.of mantissa exponent
  let top := leadingPosition i.value i.unit
  let found := (List.range 20).findSome? fun (digits : Nat) =>
    let k : Int := top - digits
    (i.onGrid? halfway k).map fun n => stripZeros 20 ⟨n, k⟩
  found.getD ⟨0, 0⟩

/-! ## Layouts -/

/-- Digits with a decimal point and at least one digit on both sides of it. -/
def positional (s : Scientific) : String :=
  let digits := (toString s.digits).toList
  let pointAt : Int := digits.length + s.exponent
  if pointAt ≤ 0 then
    "0." ++ String.ofList (List.replicate (-pointAt).toNat '0' ++ digits)
  else if s.exponent < 0 then
    String.ofList (digits.take pointAt.toNat) ++ "." ++ String.ofList (digits.drop pointAt.toNat)
  else
    String.ofList (digits ++ List.replicate s.exponent.toNat '0') ++ ".0"

/-- A power of ten with its sign and two digits at least. -/
def powerText (power : Int) : String :=
  let digits := toString power.natAbs
  (if power < 0 then "-" else "+") ++ (if digits.length < 2 then "0" ++ digits else digits)

/-- One digit, a point and further digits if there are any, and a power of ten. -/
def withPower (s : Scientific) : String :=
  let digits := (toString s.digits).toList
  let fraction := digits.drop 1
  String.ofList (digits.take 1) ++
    (if fraction.isEmpty then "" else "." ++ String.ofList fraction) ++
    "e" ++ powerText ((digits.length : Int) + s.exponent - 1)

/-- Positional from 10⁻⁵ up to 10¹⁶, with a power of ten elsewhere. -/
def compact (s : Scientific) : String :=
  let pointAt : Int := width s.digits + s.exponent
  if -5 < pointAt ∧ pointAt ≤ 16 then s.positional else s.withPower

end Scientific

/-! ## Text of a float -/

/-- How floats are written. -/
structure FloatFormat where
  halfway : Halfway
  layout : Scientific → String

/-- All digits around a point. -/
def FloatFormat.positional : FloatFormat := ⟨.up, Scientific.positional⟩

/-- With a power of ten for very large and very small numbers. -/
def FloatFormat.compact : FloatFormat := ⟨.toEven, Scientific.compact⟩

/-- The text of a float: its shortest decimal in the layout of a format. -/
def floatText (format : FloatFormat) (x : Float) : String :=
  match Binary.ofFloat x with
  | .notANumber => "NaN"
  | .infinite negative => if negative then "-inf" else "inf"
  | .finite negative mantissa exponent =>
    (if negative then "-" else "") ++
      if mantissa = 0 then "0.0" else format.layout (.shortest format.halfway mantissa exponent)

end TrafficMap
