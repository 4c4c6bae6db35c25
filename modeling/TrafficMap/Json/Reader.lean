import TrafficMap.Json.NumberReader
import TrafficMap.Json.StringReader

/-!
# Reading Values

Readers for whole values. Lists and objects are read by `elements` and `members`, which take the
reader of an entry, so that the same loops serve values of any shape. Lists and objects may stand in
one another only up to a fixed depth.
-/

namespace TrafficMap.Json

/-- How many lists and objects may enclose a value, and one more. -/
def depthLimit : Nat := 128

/-! ## Entries -/

/-- The elements of a list up to its closing bracket. -/
def elements {α : Type} (item : Reader α) (first : Bool) (s : List UInt8) :
    Except Fault (Parsed (List α) s) :=
  match nextElement first s with
  | .error e => .error e
  | .ok (.done r h) => .ok ⟨[], r, h⟩
  | .ok (.more r h) =>
    match item r with
    | .error e => .error e
    | .ok v =>
      have shorter : v.rest.length < s.length := Nat.lt_of_lt_of_le v.shorter h
      match elements item false v.rest with
      | .error e => .error e
      | .ok vs => .ok ⟨v.value :: vs.value, vs.rest, Nat.lt_trans vs.shorter shorter⟩
termination_by s.length

/-- Reads the members of an object up to its closing brace. For every key `field` chooses, from what
has been gathered so far, how the value is read; it may also refuse the key. -/
def members {σ : Type} (field : String → σ → Except Fault (Reader σ)) (first : Bool) (gathered : σ)
    (s : List UInt8) : Except Fault (Parsed σ s) :=
  match nextKey first s with
  | .error e => .error e
  | .ok (.done r h) => .ok ⟨gathered, r, h⟩
  | .ok (.more r h) =>
    match stringTail r with
    | .error e => .error e
    | .ok key =>
      match field key.value gathered with
      | .error e => .error e
      | .ok value =>
        -- A refused key is reported before what stands behind it is looked at.
        match colon key.rest with
        | .error e => .error e
        | .ok c =>
          match value c.rest with
          | .error e => .error e
          | .ok v =>
            have shorter : v.rest.length < s.length := by
              have := v.shorter; have := c.shorter; have := key.shorter; omega
            match members field false v.value v.rest with
            | .error e => .error e
            | .ok p => .ok ⟨p.value, p.rest, Nat.lt_trans p.shorter shorter⟩
termination_by s.length

/-! ## Values -/

def wordValue {α : Type} (tail : List UInt8) (v : α) (b : UInt8) (r : List UInt8) :
    Except Fault (Parsed α (b :: r)) :=
  (word tail r).map fun q => (Skipped.ofRest q).parsed v

/-- Reads `null`, a truth value, a number or a string from its first byte on. Anything else is left
to `otherwise`. -/
def scalar {α : Type} (null : α) (boolean : Bool → α) (number : Number → α) (string : String → α)
    (b : UInt8) (r : List UInt8) (otherwise : Except Fault (Parsed α (b :: r))) :
    Except Fault (Parsed α (b :: r)) :=
  if b == byte 'n' then wordValue nullTail null b r
  else if b == byte 't' then wordValue trueTail (boolean true) b r
  else if b == byte 'f' then wordValue falseTail (boolean false) b r
  else if b == byte '-' then
    (unsignedNumber true r).map fun p => (p.map number).behind
  else if isDigit b then (unsignedNumber false (b :: r)).map (·.map number)
  else if b == byte '"' then (stringTail r).map fun p => (p.map string).behind
  else otherwise

/-- Reads an array or an object behind its first byte, with a reader for the values in it. -/
def container (inner : Reader Value) (b : UInt8) (r : List UInt8) :
    Except Fault (Parsed Value (b :: r)) :=
  if b == byte '[' then
    (elements inner true r).map fun p => (p.map Value.array).behind
  else
    let field (key : String) (before : List (String × Value)) :
        Except Fault (Reader (List (String × Value))) :=
      -- The newest entry is in front until the object is complete.
      .ok (inner.map fun v => (key, v) :: before)
    (members field true [] r).map fun p =>
      (p.map fun entries => Value.object entries.reverse).behind

def isOpening (b : UInt8) : Bool := b == byte '[' || b == byte '\x7b'

/-- Reads a value that may hold lists and objects up to a depth. -/
def value : Nat → Reader Value
  | depth, s =>
    match h : skipBlanks s with
    | [] => .error .endInValue
    | b :: r =>
      (scalar Value.null .boolean .number .string b r
        (if isOpening b then
          -- The innermost value must still have a level of its own.
          match depth with
          | inner + 2 => container (value (inner + 1)) b r
          | _ => .error .tooDeep
        else .error .expectedValue)).map (·.within (length_lt_of_skipBlanks h))

def endOfDocument (s : List UInt8) : Except Fault Unit :=
  match skipBlanks s with
  | [] => .ok ()
  | _ => .error .trailingCharacters

/-- A document that is read by `f` as a whole. -/
def document {α : Type} (f : Reader α) (s : List UInt8) : Except Fault α := do
  let p ← f s
  endOfDocument p.rest
  .ok p.value

end TrafficMap.Json
