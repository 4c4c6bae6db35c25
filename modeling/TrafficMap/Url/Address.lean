import TrafficMap.Number.Word
import TrafficMap.Url.Basic

/-!
# Host Addresses

Numeric hosts. An address of 32 bits is written as up to four numbers with points between them, each
in base 10, 8 (`0` in front) or 16 (`0x` in front); the last one fills the bytes that are left. An
address of 128 bits is written as groups of up to four digits of base 16 with colons between them;
one run of zero groups may be left out, and the last two groups may be written as four bytes.
-/

namespace TrafficMap.Url

open Text (numberIn?)

/-- The pieces of a list between the elements that satisfy `p`. -/
def splitAt (p : Char → Bool) : List Char → List (List Char)
  | [] => [[]]
  | c :: cs =>
    if p c then [] :: splitAt p cs
    else
      match splitAt p cs with
      | [] => [[c]]
      | piece :: pieces => (c :: piece) :: pieces

/-! ## Addresses of 32 bits -/

/-- The base that a number is written in, and its digits. -/
def basedDigits (cs : List Char) : Nat × List Char :=
  match cs with
  | '0' :: x :: ds => if x = 'x' ∨ x = 'X' then (16, ds) else (8, x :: ds)
  | cs => (10, cs)

/-- A part of an address of 32 bits. The digits of a number in base 16 may be missing. -/
def ipv4Part? (cs : List Char) : Option Nat :=
  if cs.isEmpty then none
  else
    let (base, ds) := basedDigits cs
    numberIn? base ds

/-- The parts of a host; a point at its end does not begin another part. -/
def ipv4Parts (host : List Char) : List (List Char) :=
  let parts := splitAt (· == '.') host
  if 1 < parts.length ∧ parts.getLast?.getD [] = [] then parts.dropLast else parts

/-- The host has to be an address because its last part is a number. -/
def endsInNumber (host : List Char) : Bool :=
  match (ipv4Parts host).getLast? with
  | none => false
  | some part =>
    (!part.isEmpty && part.all Char.isDigit) ||
      ((basedDigits part).1 == 16 && (ipv4Part? part).isSome)

/-- The address with the given parts. All but the last are bytes. -/
def ipv4OfParts? (parts : List Nat) : Option Nat :=
  match parts.reverse with
  | [] => none
  | last :: bytes =>
    let room := 1 <<< (8 * (4 - bytes.length))
    if 4 < parts.length || bytes.any (255 < ·) || room ≤ last then none
    else some (bytes.reverse.foldl (fun n b => 256 * n + b) 0 * room + last)

def ipv4? (host : List Char) : Option Nat :=
  ((ipv4Parts host).mapM ipv4Part?).bind ipv4OfParts?

/-! ## Addresses of 128 bits -/

/-- A byte in base 10 without zeros in front. -/
def byteOf? (cs : List Char) : Option Nat :=
  if cs.isEmpty || (1 < cs.length && cs.head? == some '0') then none
  else (numberIn? 10 cs).filter (· ≤ 255)

/-- Two groups written as four bytes. -/
def bytesAsGroups? (cs : List Char) : Option (List Nat) :=
  match (splitAt (· == '.') cs).mapM byteOf? with
  | some [a, b, c, d] => some [256 * a + b, 256 * c + d]
  | _ => none

/-- A group of up to four digits of base 16. -/
def groupOf? (cs : List Char) : Option (List Nat) :=
  if cs.isEmpty || 4 < cs.length then none else (numberIn? 16 cs).map ([·])

/-- Groups with colons between them; the last piece may be written as bytes where that is
allowed. -/
def groups? (bytesAllowed : Bool) : List (List Char) → Option (List Nat)
  | [] => some []
  | [piece] => if bytesAllowed && piece.contains '.' then bytesAsGroups? piece else groupOf? piece
  | piece :: pieces => do
    let group ← groupOf? piece
    let rest ← groups? bytesAllowed pieces
    some (group ++ rest)

/-- The groups of a part of an address, which may be empty. -/
def groupsOf? (bytesAllowed : Bool) (cs : List Char) : Option (List Nat) :=
  if cs.isEmpty then some [] else groups? bytesAllowed (splitAt (· == ':') cs)

/-- Splits at the first two colons in a row. -/
def splitAtGap : List Char → Option (List Char × List Char)
  | ':' :: ':' :: cs => some ([], cs)
  | [] => none
  | c :: cs => (splitAtGap cs).map fun (before, after) => (c :: before, after)

def ipv6? (cs : List Char) : Option (List Nat) :=
  match splitAtGap cs with
  | none => (groupsOf? true cs).filter (·.length = 8)
  | some (before, after) => do
    let front ← groupsOf? false before
    let back ← groupsOf? true after
    -- The gap stands for one group at least.
    if front.length + back.length ≤ 7 then
      some (front ++ List.replicate (8 - front.length - back.length) 0 ++ back)
    else none

end TrafficMap.Url
