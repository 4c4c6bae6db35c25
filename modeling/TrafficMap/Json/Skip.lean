import TrafficMap.Json.StringReader

/-!
# Skipping Values

A value that nobody asks for is passed over. It has to be JSON by its shape, but its numbers may
have any size, its strings any bytes, and its lists and objects any depth: the open lists and
objects are kept on a stack.
-/

namespace TrafficMap.Json

/-! ## Strings and numbers -/

def skipString (s : List UInt8) : Except Fault (Skipped s) :=
  match s with
  | [] => .error .endInString
  | b :: r =>
    if b == byte '"' then .ok (.first b r)
    else if b == byte '\\' then
      match r with
      | [] => .error .endInString
      | c :: r' =>
        if c == byte 'u' then
          -- Whether the number is half of a pair does not matter here.
          match hexEscape r' with
          | .error e => .error e
          | .ok (_, q) =>
            have := q.2
            match skipString q.1 with
            | .error e => .error e
            | .ok p => .ok (q.trans p).behind.behind
        else if (letterEscape? c).isSome then
          match skipString r' with
          | .error e => .error e
          | .ok q => .ok q.behind.behind
        else .error .invalidEscape
    else if b < 0x20 then .error .controlCharacter
    else
      match skipString r with
      | .error e => .error e
      | .ok q => .ok q.behind
termination_by s.length
decreasing_by all_goals simp only [List.length_cons]; omega

def skipDigits : List UInt8 → List UInt8
  | [] => []
  | b :: r => if isDigit b then skipDigits r else b :: r

theorem length_skipDigits_le (s : List UInt8) : (skipDigits s).length ≤ s.length := by
  induction s with
  | nil => exact Nat.le_refl _
  | cons b s ih =>
    rw [skipDigits]
    split
    · exact Nat.le_succ_of_le ih
    · exact Nat.le_refl _

/-- Passes over digits, of which there is at least one. -/
def skipSomeDigits : (s : List UInt8) → Except Fault (Skipped s)
  | [] => .error .invalidNumber
  | b :: r =>
    if isDigit b then .ok (.ofRest ⟨skipDigits r, length_skipDigits_le r⟩)
    else .error .invalidNumber

/-- Passes over the digits before the point; no zero stands in front of others. -/
def skipWhole : (s : List UInt8) → Except Fault (Skipped s)
  | [] => .error .invalidNumber
  | b :: r =>
    if b == byte '0' then
      if (r.head?.map isDigit).getD false then .error .invalidNumber
      else .ok (.first b r)
    else skipSomeDigits (b :: r)

/-- Passes over a power of ten behind its letter. -/
def skipPower : (s : List UInt8) → Except Fault (Skipped s)
  | [] => .error .invalidNumber
  | b :: r =>
    if b == byte '+' || b == byte '-' then
      (skipSomeDigits r).map Skipped.behind
    else skipSomeDigits (b :: r)

/-- Passes over a power of ten, if one follows. -/
def skipPower? (s : List UInt8) : Except Fault (Rest s) :=
  match s with
  | [] => .ok (.whole [])
  | b :: r =>
    if b == byte 'e' || b == byte 'E' then (skipPower r).map fun q => q.behind.toRest
    else .ok (.whole (b :: r))

/-- Passes over a fraction, if one follows. -/
def skipFraction? (s : List UInt8) : Except Fault (Rest s) :=
  match s with
  | [] => .ok (.whole [])
  | b :: r =>
    if b == byte '.' then (skipSomeDigits r).map fun q => q.behind.toRest
    else .ok (.whole (b :: r))

def skipNumber (s : List UInt8) : Except Fault (Skipped s) := do
  let q ← skipWhole s
  let q₁ ← skipFraction? q.1
  let q₂ ← skipPower? q₁.1
  .ok ((q.andRest q₁).andRest q₂)

/-! ## Structure -/

/-- An open list or object. -/
inductive Enclosing where
  | list
  | object
deriving Repr, DecidableEq

namespace Enclosing

/-- The byte that closes it. -/
def closing : Enclosing → UInt8
  | .list => byte ']'
  | .object => byte '\x7d'

/-- The fault of a document that ends inside. -/
def endFault : Enclosing → Fault
  | .list => .endInList
  | .object => .endInObject

/-- The fault of an entry that no comma separates from the one before. -/
def commaFault : Enclosing → Fault
  | .list => .expectedCommaOrBracket
  | .object => .expectedCommaOrBrace

end Enclosing

def skipWord (tail r : List UInt8) (b : UInt8) : Except Fault (Skipped (b :: r)) :=
  (word tail r).map Skipped.ofRest

/-- Passes over a value that is neither a list nor an object. -/
def skipScalar (b : UInt8) (r : List UInt8) : Except Fault (Skipped (b :: r)) :=
  if b == byte 'n' then skipWord nullTail r b
  else if b == byte 't' then skipWord trueTail r b
  else if b == byte 'f' then skipWord falseTail r b
  else if b == byte '-' then (skipNumber r).map Skipped.behind
  else if isDigit b then skipNumber (b :: r)
  else if b == byte '"' then (skipString r).map Skipped.behind
  else .error .expectedValue

def skipKey (s : List UInt8) : Except Fault (Skipped s) :=
  match h : skipBlanks s with
  | [] => .error .endInObject
  | b :: r =>
    have shorter := length_lt_of_skipBlanks h
    if b == byte '"' then do
      let ⟨q, h₁⟩ ← skipString r
      let c ← colon q
      .ok ⟨c.rest, by have := c.shorter; omega⟩
    else .error .keyMustBeString

/-- Passes over what stands before the next value of an open list or object. -/
def skipToValue (e : Enclosing) (s : List UInt8) : Except Fault (Rest s) :=
  match e with
  | .list => .ok (.whole s)
  | .object => (skipKey s).map Skipped.toRest

mutual

/-- Passes over a value and over what is left of the open lists and objects around it; `stack` holds
these, the innermost first. -/
def skipAll (stack : List Enclosing) (s : List UInt8) : Except Fault (Skipped s) :=
  match h : skipBlanks s with
  | [] => .error .endInValue
  | b :: r =>
    have shorter := length_lt_of_skipBlanks h
    -- What is open goes on the stack, so no depth is too deep for what is passed over.
    if b == byte '[' then
      (skipRest true (.list :: stack) r).map fun ⟨q, _⟩ => ⟨q, by omega⟩
    else if b == byte '\x7b' then
      (skipRest true (.object :: stack) r).map fun ⟨q, _⟩ => ⟨q, by omega⟩
    else
      match skipScalar b r with
      | .error e => .error e
      | .ok ⟨q, h'⟩ =>
        have : q.length < s.length := by simp only [List.length_cons] at h'; omega
        (skipRest false stack q).map fun ⟨p, _⟩ => ⟨p, by omega⟩
termination_by 2 * s.length

/-- Passes over what is left of the open lists and objects; `opened` holds when the innermost one
has no entry yet. -/
def skipRest (opened : Bool) (stack : List Enclosing) (s : List UInt8) :
    Except Fault (Rest s) :=
  match stack with
  | [] => .ok (.whole s)
  | e :: stack =>
    match h : skipBlanks s with
    | [] => .error e.endFault
    | b :: r =>
      have shorter := length_lt_of_skipBlanks h
      if b == e.closing then
        (skipRest false stack r).map fun ⟨q, _⟩ => ⟨q, by omega⟩
      -- No comma stands before the first entry, and one before every other.
      else if ho : opened = true then
        match skipToValue e (b :: r) with
        | .error f => .error f
        | .ok ⟨q, h'⟩ =>
          have : q.length ≤ s.length := by simp only [List.length_cons] at h'; omega
          have : opened.toNat = 1 := by rw [ho]; rfl
          (skipAll (e :: stack) q).map fun ⟨p, _⟩ => ⟨p, by omega⟩
      else if b == byte ',' then
        match skipToValue e r with
        | .error f => .error f
        | .ok ⟨q, h'⟩ =>
          have : q.length < s.length := by omega
          (skipAll (e :: stack) q).map fun ⟨p, _⟩ => ⟨p, by omega⟩
      else .error e.commaFault
termination_by 2 * s.length + opened.toNat

end

def skipValue : Reader Unit := fun s =>
  (skipAll [] s).map fun ⟨r, h⟩ => ⟨(), r, h⟩

end TrafficMap.Json
