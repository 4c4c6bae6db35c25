import TrafficMap.Json5.Basic
import TrafficMap.Number.Binary
import TrafficMap.Number.Word

/-!
# The Meaning of JSON5 Literals

What strings and numbers stand for. A string is made of its pieces, two numbered escapes forming a
pair where the first is a leading surrogate. A number without point and power of ten is a signed
word; every other one is the nearest float.
-/

namespace TrafficMap.Json5

/-! ## Digits of base 16 -/

/-- The number with the given digits of base 16, if it fits 32 bits. -/
def hexNumber (digits : List Char) : Except Fault Nat :=
  match (Text.numberIn? 16 digits).filter (· < UInt32.size) with
  | some n => if digits.isEmpty then .error .hexadecimal else .ok n
  | none => .error .hexadecimal

/-! ## Strings -/

/-- The characters of a piece as they stand in the document, without the marks that begin an
escape. -/
def Piece.spelling : Piece → List Char
  | .plain c => [c]
  | .escaped c => [c]
  | .zero => ['0']
  | .short digits => digits
  | .long digits => digits

def escapedChar (c : Char) : Char :=
  if c = 'b' then '\x08'
  else if c = 'f' then '\x0c'
  else if c = 'n' then '\n'
  else if c = 'r' then '\r'
  else if c = 't' then '\t'
  else if c = 'v' then '\x0b'
  else c

/-- The number of the second half of a pair. -/
def trailOf : Option Piece → Except Fault Nat
  | none => .error .missingTrail
  | some piece => do
    let n ← hexNumber piece.spelling
    if 0xDC00 ≤ n ∧ n ≤ 0xDFFF then .ok n else .error .expectedTrail

def charsOf : List Piece → Except Fault (List Char)
  | [] => .ok []
  | .plain c :: rest => (charsOf rest).map (c :: ·)
  | .escaped c :: rest => (charsOf rest).map (escapedChar c :: ·)
  | .zero :: rest => (charsOf rest).map ('\x00' :: ·)
  | .short digits :: rest => do
    let n ← hexNumber digits
    let cs ← charsOf rest
    .ok (Char.ofNat n :: cs)
  | .long digits :: rest => do
    let n ← hexNumber digits
    if 0xDC00 ≤ n ∧ n ≤ 0xDFFF then .error .unexpectedTrail
    else if 0xD800 ≤ n ∧ n ≤ 0xDBFF then
      -- The first half of a pair takes up the piece behind it as well.
      let m ← trailOf rest.head?
      let cs ← charsOf (rest.drop 1)
      .ok (Char.ofNat ((n - 0xD800) * 0x400 + (m - 0xDC00) + 0x10000) :: cs)
    else
      let cs ← charsOf rest
      .ok (Char.ofNat n :: cs)
termination_by pieces => pieces.length

def textOf (pieces : List Piece) : Except Fault String :=
  (charsOf pieces).map String.ofList

/-! ## Numbers -/

/-- A number as a decimal: sign, digits before and after the point, and power of ten. -/
structure Decimal where
  minus : Bool
  whole : List Char
  fraction : List Char
  power : Int

/-- The number of decimal digits. -/
def digitsValue (ds : List Char) : Nat :=
  ds.foldl (fun n c => 10 * n + (c.toNat - '0'.toNat)) 0

/-- Splits a sign off a number. -/
def signOf : List Char → Bool × List Char
  | '-' :: ds => (true, ds)
  | '+' :: ds => (false, ds)
  | ds => (false, ds)

/-- The characters of a number in base 10, read as a decimal. -/
def decimalOf? (literal : List Char) : Option Decimal :=
  let (minus, s) := signOf literal
  let whole := s.takeWhile Char.isDigit
  let s := s.dropWhile Char.isDigit
  let (fraction, s) :=
    match s with
    | '.' :: r => (r.takeWhile Char.isDigit, r.dropWhile Char.isDigit)
    | s => ([], s)
  if whole.isEmpty ∧ fraction.isEmpty then none
  else
    match s with
    | [] => some ⟨minus, whole, fraction, 0⟩
    -- The first character is the letter before the power of ten.
    | _ :: r =>
      let (below, ds) := signOf r
      let n : Int := digitsValue ds
      some ⟨minus, whole, fraction, if below then -n else n⟩

def Decimal.toFloat (d : Decimal) : Float :=
  let x : Float := .ofModel (.ofScientific (digitsValue (d.whole ++ d.fraction))
    (d.power - (d.fraction.length : Int)))
  if d.minus then -x else x

/-- The number is written in base 16, without a sign. -/
def isHexLiteral (literal : List Char) : Bool :=
  match literal with
  | '0' :: x :: _ :: _ => x == 'x' || x == 'X'
  | _ => false

/-- The words for what is no finite number; a plus sign does not belong to them. -/
def specialNumber? (literal : List Char) : Option Float :=
  let word := String.ofList literal
  if word = "Infinity" then some (1.0 / 0.0)
  else if word = "-Infinity" then some (-1.0 / 0.0)
  else if word = "NaN" ∨ word = "-NaN" then some (0.0 / 0.0)
  else none

def floatOf (literal : List Char) : Except Fault Float :=
  match specialNumber? literal with
  | some x => .ok x
  | none =>
    if isHexLiteral literal then (hexNumber (literal.drop 2)).map fun n => n.toUInt64.toFloat
    else
      -- What is left may have a sign; behind one, neither words nor base 16 are understood.
      let (_, digits) := signOf literal
      if (specialNumber? digits).isSome then .error .tooLarge
      else if isHexLiteral digits then .error .number
      else
        match decimalOf? literal with
        | none => .error .number
        | some d =>
          let x := d.toFloat
          if x.isFinite then .ok x else .error .tooLarge

/-- The number has neither point nor power of ten. -/
def isWhole (literal : List Char) : Bool :=
  !literal.contains '.' &&
    (isHexLiteral literal || !(literal.contains 'e' || literal.contains 'E')) &&
    (specialNumber? literal).isNone

def wordOf (literal : List Char) : Except Fault Int64 :=
  if isHexLiteral literal then (hexNumber (literal.drop 2)).map fun n => Int64.ofNat n
  else
    let (minus, digits) := signOf literal
    if digits.isEmpty || !digits.all Char.isDigit then .error .integer
    else
      let n : Int := if minus then -(digitsValue digits : Int) else digitsValue digits
      match signedWord? n with
      | some w => .ok w
      | none => .error .integer

end TrafficMap.Json5
