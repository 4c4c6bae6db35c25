import TrafficMap.Json.Basic
import TrafficMap.Json.Scan
import TrafficMap.Number.Word

/-!
# Reading Numbers

A number is an optional minus sign, digits without a leading zero, and optionally a fraction and a
power of ten. Without fraction and power it is kept as a whole number where a 64-bit word can hold
it; zero with a minus sign is a float. Every other number becomes a float, and a number beyond all
floats is refused.
-/

namespace TrafficMap.Json

/-! ## Decimals

What the digits of a number stand for. As many leading digits as a 64-bit word holds make up the
significand; the digits behind them only count for the power of ten. The float of a decimal is the
float nearest to its significand, multiplied with or divided by the float nearest to a power of ten,
so for long numbers it need not be the nearest float of all.
-/

/-- A number `significand * 10 ^ power` with a sign. -/
structure Decimal where
  minus : Bool
  significand : UInt64
  power : Int
deriving Repr, DecidableEq

namespace Decimal

/-! ### Digits -/

/-- The whole number that `n` and further digits make, as long as a word holds it, and how many
digits are left. -/
def gather (n : UInt64) : List Nat → UInt64 × Nat
  | [] => (n, 0)
  | d :: ds =>
    let next := 10 * n.toNat + d
    if next < UInt64.size then gather (.ofNat next) ds else (n, ds.length + 1)

/-- The number with the given digits before and behind the point. -/
def ofDigits (minus : Bool) (whole fraction : List Nat) (power : Int) : Decimal :=
  let (front, unread) := gather 0 whole
  -- Digits behind the point are taken up even when some before it were not.
  let (significand, left) := gather front fraction
  ⟨minus, significand, power + unread - (fraction.length - left : Nat)⟩

/-! ### Floats -/

/-- The float nearest to a power of ten. -/
def tenPower (n : Nat) : Float := .ofModel (.ofScientific 1 n)

/-- The largest power of ten that a float holds. -/
def topPower : Nat := 308

/-- The float times a power of ten, when it is finite. -/
def scaled? (x : Float) (power : Int) : Option Float :=
  if power < -(topPower : Int) then
    -- A divisor beyond all floats is divided by in steps.
    if x == 0.0 then some x else scaled? (x / tenPower topPower) (power + topPower)
  else if power < 0 then some (x / tenPower power.natAbs)
  else if power ≤ topPower then
    let y := x * tenPower power.natAbs
    if y.isInf then none else some y
  else if x == 0.0 then some x
  else none
termination_by (-power).toNat
decreasing_by simp only [topPower] at *; omega

/-- The float of a decimal, unless it is beyond all floats. -/
def toFloat? (d : Decimal) : Option Float :=
  (scaled? d.significand.toFloat d.power).map fun x => if d.minus then -x else x

/-- The whole number as a JSON number, when a word can hold it. Zero with a minus sign is none. -/
def toWord? (d : Decimal) : Option Number :=
  if d.power ≠ 0 then none
  else if d.minus then
    if 0 < d.significand.toNat then (signedWord? (-d.significand.toNat)).map .negative else none
  else some (.natural d.significand)

end Decimal

/-! ## Digits -/

def digitValue (b : UInt8) : Nat := b.toNat - 0x30

def leadingDigits (s : List UInt8) : List UInt8 := s.takeWhile isDigit

def afterDigits (s : List UInt8) : List UInt8 := s.dropWhile isDigit

def valueOfDigits (ds : List UInt8) : Nat :=
  ds.foldl (fun n b => 10 * n + digitValue b) 0

theorem length_afterDigits_le (s : List UInt8) : (afterDigits s).length ≤ s.length := by
  induction s with
  | nil => exact Nat.le_refl _
  | cons b s ih =>
    rw [afterDigits, List.dropWhile_cons]
    split
    · exact Nat.le_succ_of_le ih
    · exact Nat.le_refl _

/-! ## Parts of a number -/

/-- The digits after the point; there is at least one. -/
def fractionDigits (s : List UInt8) : Except Fault (List UInt8 × Rest s) :=
  match leadingDigits s with
  | [] => .error (if s.isEmpty then .endInValue else .invalidNumber)
  | ds => .ok (ds, ⟨afterDigits s, length_afterDigits_le s⟩)

/-- The digits of a power of ten; there is at least one. -/
def powerDigits (s : List UInt8) : Except Fault (Nat × Rest s) :=
  match leadingDigits s with
  | [] => .error (if s.isEmpty then .endInValue else .invalidNumber)
  | ds => .ok (valueOfDigits ds, ⟨afterDigits s, length_afterDigits_le s⟩)

/-- The power of ten behind the letter `e`. -/
def power (s : List UInt8) : Except Fault (Int × Rest s) :=
  match s with
  | [] => .error .endInValue
  | b :: r =>
    if b == byte '-' then
      (powerDigits r).map fun (n, rest) => (-(n : Int), rest.behind)
    else if b == byte '+' then
      (powerDigits r).map fun (n, rest) => ((n : Int), rest.behind)
    else (powerDigits (b :: r)).map fun (n, rest) => ((n : Int), rest)

/-- The letter before a power of ten. -/
def isPowerMark (b : UInt8) : Bool := b == byte 'e' || b == byte 'E'

/-- A power of ten, if one follows. -/
def power? (s : List UInt8) : Except Fault (Option Int × Rest s) :=
  match s with
  | [] => .ok (none, .whole [])
  | b :: r =>
    if isPowerMark b then
      (power r).map fun (e, rest) => (some e, rest.behind)
    else .ok (none, .whole (b :: r))

/-- A fraction, if one follows. -/
def fraction? (s : List UInt8) : Except Fault (Option (List UInt8) × Rest s) :=
  match s with
  | [] => .ok (none, .whole [])
  | b :: r =>
    if b == byte '.' then
      (fractionDigits r).map fun (ds, rest) => (some ds, rest.behind)
    else .ok (none, .whole (b :: r))

/-! ## The number -/

def floatNumber (d : Decimal) : Except Fault Number :=
  match d.toFloat? with
  | some x => .ok (.float x)
  | none => .error .numberOutOfRange

/-- The JSON number with the parts that were found. -/
def numberOf (minus : Bool) (whole : List UInt8) (fraction : Option (List UInt8))
    (power : Option Int) : Except Fault Number :=
  let d := Decimal.ofDigits minus (whole.map digitValue) ((fraction.getD []).map digitValue)
    (power.getD 0)
  if fraction.isNone && power.isNone then (d.toWord?.map .ok).getD (floatNumber d)
  else floatNumber d

/-- The digits before the point: at least one, and no zero in front of others. -/
def wholeDigits (s : List UInt8) : Except Fault (List UInt8 × Skipped s) :=
  match s with
  | [] => .error .endInValue
  | b :: r =>
    if !isDigit b then .error .invalidNumber
    else if b == byte '0' then
      -- A zero stands alone.
      if (r.head?.map isDigit).getD false then .error .invalidNumber
      else .ok ([b], .first b r)
    else .ok (b :: leadingDigits r, .ofRest ⟨afterDigits r, length_afterDigits_le r⟩)

/-- Reads a number behind its sign. -/
def unsignedNumber (minus : Bool) : Reader Number := fun s => do
  let (whole, q) ← wholeDigits s
  let (fraction, q₁) ← fraction? q.1
  let (power, q₂) ← power? q₁.1
  let n ← numberOf minus whole fraction power
  .ok (((q.andRest q₁).andRest q₂).parsed n)

end TrafficMap.Json
