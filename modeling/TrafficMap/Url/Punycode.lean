/-!
# Punycode

How the non-ASCII characters of a domain name are written with ASCII characters. The characters are
listed in the order of their code points, each by how far one has to go on, through all code points
and all places of the name, from the one before it. That distance is a number of base 36 with digits
of varying weight, the lowest first; a digit below its threshold is the last one. No number on the
way may need more than 32 bits.
-/

namespace TrafficMap.Url.Punycode

def digitValue? (c : Char) : Option Nat :=
  if 'a' ≤ c ∧ c ≤ 'z' then some (c.toNat - 'a'.toNat)
  else if 'A' ≤ c ∧ c ≤ 'Z' then some (c.toNat - 'A'.toNat)
  else if c.isDigit then some (c.toNat - '0'.toNat + 26)
  else none

/-- The threshold of the digit with position `k`, counted in steps of 36. -/
def threshold (k bias : Nat) : Nat :=
  if k ≤ bias then 1 else min 26 (k - bias)

/-- Divides by 35 until at most 455 is left; adds 36 to `k` each time. -/
def reduce (k delta : Nat) : Nat × Nat :=
  if 455 < delta then reduce (k + 36) (delta / 35) else (k, delta)
termination_by delta
decreasing_by omega

/-- The bias after a distance. -/
def adapt (delta places : Nat) (first : Bool) : Nat :=
  let delta := if first then delta / 700 else delta / 2
  let (k, delta) := reduce 0 (delta + delta / places)
  k + 36 * delta / (delta + 38)

/-- Where decoding stands between two characters. -/
structure State where
  /-- The name so far. -/
  output : List Char
  /-- The last code point. -/
  codePoint : Nat
  /-- The place behind the last character. -/
  place : Nat
  bias : Nat
  /-- No distance has been read. -/
  first : Bool

/-- Adds the character at a distance. -/
def State.advance (st : State) (delta : Nat) : Option State :=
  let places := st.output.length + 1
  -- A full round through all places leads to the next code point.
  let total := st.place + delta
  let codePoint := st.codePoint + total / places
  let place := total % places
  if h : codePoint.isValidChar then
    some
      { output := st.output.take place ++ Char.ofNatAux codePoint h :: st.output.drop place
        codePoint := codePoint
        place := place + 1
        bias := adapt delta places st.first
        first := false }
  else none

/-- The number, if 32 bits can hold it. -/
def inWord? (n : Nat) : Option Nat := if n < UInt32.size then some n else none

/-- Reads distances. `delta`, `weight` and `k` belong to the distance that is being read; `k` is 36
at its first digit. -/
def decodeFrom (st : State) (delta weight k : Nat) : List Char → Option (List Char)
  | [] => if k = 36 then some st.output else none
  | c :: cs => do
    let digit ← digitValue? c
    let part ← inWord? (digit * weight)
    let _ ← inWord? (st.place + delta + part)
    let delta := delta + part
    let t := threshold k st.bias
    -- The last digit of a distance is below its threshold.
    if digit < t then
      let st ← st.advance delta
      decodeFrom st 0 1 36 cs
    else
      let weight ← inWord? (weight * (36 - t))
      decodeFrom st delta weight (k + 36) cs

/-- The ASCII characters before the last hyphen, and what follows it. A hyphen with nothing before
it separates nothing. -/
def splitBasic (cs : List Char) : List Char × List Char :=
  let tail := cs.reverse.takeWhile (· != '-')
  match cs.reverse.dropWhile (· != '-') with
  | _ :: b :: basic => ((b :: basic).reverse, tail.reverse)
  | _ => ([], cs)

/-- The characters that a text stands for. -/
def decode? (cs : List Char) : Option (List Char) :=
  let (basic, rest) := splitBasic cs
  decodeFrom ⟨basic, 128, 0, 72, true⟩ 0 1 36 rest

end TrafficMap.Url.Punycode
