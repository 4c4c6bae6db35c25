/-!
# Binary Floating-Point Numbers

The exact number behind a float, and the passage between the two widths. `Binary` is the common
view: not a number, an infinity, or a sign with `mantissa * 2 ^ exponent`. Everything printed about
a float is computed from that view in whole numbers, so no digit depends on further rounding.

Narrowing rounds to the nearest representable number, a tie to the even mantissa, and goes to
infinity beyond the range. Widening is exact.

Whole numbers are also rounded to a fixed number of decimal places here, which is how labels are
printed.
-/

namespace TrafficMap

/-! ## Decimals with a fixed number of places

A magnitude `n / d` is written with a given number of decimal places by rounding to the nearest
multiple of the last place. A value exactly halfway goes to the even multiple.

The rounded number is kept as a value (`FixedDecimal`), beside its text (`FixedDecimal.text`) and
the number that the text denotes (`FixedDecimal.value?`), so that a statement about what is printed
can be read off the digits.
-/

/-! ### Rounding a quotient -/

/-- The natural number nearest to `n / d`; a half goes to the even neighbour. -/
def roundHalfEven (n d : Nat) : Nat :=
  let q := n / d
  let r := n % d
  if 2 * r < d then q
  else if d < 2 * r then q + 1
  else q + q % 2

/-! ### Digits -/

def tenTo (n : Nat) : Nat := Nat.pow 10 n

/-- The digits of `n`, with zeros in front up to `width`. -/
def zeroPadded (width n : Nat) : String :=
  let digits := toString n
  String.ofList (List.replicate (width - digits.length) '0') ++ digits

/-! ### Numbers as they are printed -/

/-- A number rounded to a fixed number of decimal places. -/
inductive FixedDecimal where
  /-- No number at all. -/
  | notANumber
  /-- An unbounded magnitude. -/
  | infinite (negative : Bool)
  /-- `units` times the last of `places` decimal places. The sign is kept on zero. -/
  | finite (negative : Bool) (units places : Nat)
deriving Repr, BEq, DecidableEq

namespace FixedDecimal

/-- The magnitude `n / d` with the given sign, rounded to `places` decimals. -/
def ofQuotient (negative : Bool) (n d places : Nat) : FixedDecimal :=
  .finite negative (roundHalfEven (n * tenTo places) d) places

/-- Digits before the point, and after it when there are decimal places. -/
def magnitudeText (units places : Nat) : String :=
  if places = 0 then toString units
  else toString (units / tenTo places) ++ "." ++ zeroPadded places (units % tenTo places)

/-- A minus sign stands in front of every negative number, of negative zero too. -/
def text : FixedDecimal → String
  | .notANumber => "NaN"
  | .infinite negative => if negative then "-inf" else "inf"
  | .finite negative units places => (if negative then "-" else "") ++ magnitudeText units places

/-- The number that the digits denote. -/
def value? : FixedDecimal → Option Rat
  | .finite negative units places =>
    let magnitude : Rat := (units : Rat) / (tenTo places : Rat)
    some (if negative then -magnitude else magnitude)
  | _ => none

end FixedDecimal

open Float.Model (UnpackedFloat Format)

/-! ## The number behind a float -/

/-- What a binary floating-point number stands for. Texts of floats and sums without rounding are
made from it. -/
inductive Binary where
  | notANumber
  | infinite (negative : Bool)
  /-- The number `mantissa * 2 ^ exponent` with a sign; mantissa 0 is one of the two zeros. -/
  | finite (negative : Bool) (mantissa : Nat) (exponent : Int)
deriving Repr, BEq, DecidableEq

/-- Whether a sign is the minus sign. -/
def isMinus : UnpackedFloat.Sign → Bool
  | .negative => true
  | .positive => false

namespace Binary

def ofUnpacked : UnpackedFloat → Binary
  | .notANumber => .notANumber
  | .infinity sign => .infinite (isMinus sign)
  | .zero sign => .finite (isMinus sign) 0 0
  | .finite sign mantissa exponent _ => .finite (isMinus sign) mantissa exponent

def ofFloat (x : Float) : Binary :=
  ofUnpacked x.toModel.unpack

def ofFloat32 (x : Float32) : Binary :=
  ofUnpacked x.toModel.unpack

/-- Numerator and denominator of `mantissa * 2 ^ exponent`. -/
def quotient (mantissa : Nat) (exponent : Int) : Nat × Nat :=
  if 0 ≤ exponent then (mantissa <<< exponent.toNat, 1) else (mantissa, 1 <<< (-exponent).toNat)

/-- The exact rational number, when there is one. -/
def toRat? : Binary → Option Rat
  | .finite negative mantissa exponent =>
    let (n, d) := quotient mantissa exponent
    let magnitude : Rat := (n : Rat) / (d : Rat)
    some (if negative then -magnitude else magnitude)
  | _ => none

/-- The number rounded to `places` decimals. -/
def rounded (places : Nat) : Binary → FixedDecimal
  | .notANumber => .notANumber
  | .infinite negative => .infinite negative
  | .finite negative mantissa exponent =>
    let (n, d) := quotient mantissa exponent
    .ofQuotient negative n d places

/-- The whole number between zero and the value that is nearest to the value, when it is finite. -/
def truncated? : Binary → Option Int
  | .finite negative mantissa exponent =>
    let (n, d) := quotient mantissa exponent
    let whole : Int := (n / d : Nat)
    some (if negative then -whole else whole)
  | _ => none

end Binary

/-! ## Between the two widths -/

/-- The 32-bit float nearest to a 64-bit one. -/
def narrow (x : Float) : Float32 :=
  match x.toModel.unpack with
  | .finite sign mantissa exponent _ =>
    .ofModel (.pack (UnpackedFloat.round Format.binary32 sign mantissa exponent))
  | special => .ofModel (.pack special)

/-- The 64-bit float equal to a 32-bit one. -/
def widen (x : Float32) : Float :=
  match x.toModel.unpack with
  | .finite sign mantissa exponent _ =>
    .ofModel (.pack (UnpackedFloat.round Format.binary64 sign mantissa exponent))
  | special => .ofModel (.pack special)

/-- The 32-bit float nearest to a signed word. -/
def float32OfInt64 (n : Int64) : Float32 :=
  .ofModel (.ofInt64 n)

def floatOfInt64 (n : Int64) : Float :=
  .ofModel (.ofInt64 n)

end TrafficMap
