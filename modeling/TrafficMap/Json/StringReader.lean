import TrafficMap.Json.Scan

/-!
# Reading Strings

A string ends at the next quote that is not escaped. Its bytes are collected, escapes replaced, and
must be UTF-8 in the end. Characters beyond the sixteen-bit range are written as two escapes in a
row, a leading and a trailing surrogate, and neither occurs alone.
-/

namespace TrafficMap.Json

/-! ## Escapes by number -/

def hexValue? (b : UInt8) : Option Nat :=
  if isDigit b then some (b.toNat - 0x30)
  else if 0x61 ≤ b && b ≤ 0x66 then some (b.toNat - 0x61 + 10)
  else if 0x41 ≤ b && b ≤ 0x46 then some (b.toNat - 0x41 + 10)
  else none

def fourHex? (a b c d : UInt8) : Option Nat := do
  let a ← hexValue? a
  let b ← hexValue? b
  let c ← hexValue? c
  let d ← hexValue? d
  some (((a * 16 + b) * 16 + c) * 16 + d)

def hexEscape : (s : List UInt8) → Except Fault (Nat × Skipped s)
  | a :: b :: c :: d :: r =>
    match fourHex? a b c d with
    | some n => .ok (n, (Skipped.first d r).behind.behind.behind)
    | none => .error .invalidEscape
  | _ => .error .endInString

/-- A code unit that begins a pair. -/
def isLeading (n : Nat) : Bool := 0xD800 ≤ n && n ≤ 0xDBFF

/-- A code unit that ends a pair. -/
def isTrailing (n : Nat) : Bool := 0xDC00 ≤ n && n ≤ 0xDFFF

def pairValue (leading trailing : Nat) : Nat :=
  (leading - 0xD800) * 0x400 + (trailing - 0xDC00) + 0x10000

/-- The second half of a pair. -/
def trailingEscape (s : List UInt8) :
    Except Fault (Nat × Skipped s) :=
  match s with
  | [] => .error .endInString
  | b :: r =>
    -- The other half is an escape by number of its own.
    if b != byte '\\' then .error .brokenSurrogatePair
    else
      match r with
      | [] => .error .endInString
      | c :: r' =>
        if c != byte 'u' then .error .brokenSurrogatePair
        else
          match hexEscape r' with
          | .error e => .error e
          | .ok (n, q) => if isTrailing n then .ok (n, q.behind.behind) else .error .loneSurrogate

/-- The code point of an escape by number, which may consist of two. -/
def numberedEscape (s : List UInt8) :
    Except Fault (Nat × Skipped s) :=
  match hexEscape s with
  | .error e => .error e
  | .ok (n, q) =>
    -- A half of a pair stands for nothing by itself.
    if isTrailing n then .error .loneSurrogate
    else if isLeading n then
      match trailingEscape q.1 with
      | .error e => .error e
      | .ok (m, p) => .ok (pairValue n m, q.trans p)
    else .ok (n, q)

/-! ## Escapes by letter -/

/-- The byte that an escape by letter stands for. -/
def letterEscape? (b : UInt8) : Option UInt8 :=
  if b == byte '"' || b == byte '\\' || b == byte '/' then some b
  else if b == byte 'b' then some 0x08
  else if b == byte 'f' then some 0x0C
  else if b == byte 'n' then some 0x0A
  else if b == byte 'r' then some 0x0D
  else if b == byte 't' then some 0x09
  else none

def utf8 (n : Nat) : List UInt8 :=
  (String.singleton (Char.ofNat n)).toUTF8.toList

/-- The bytes that an escape stands for, and the document behind it. -/
def escape (s : List UInt8) :
    Except Fault (List UInt8 × Skipped s) :=
  match s with
  | [] => .error .endInString
  | b :: r =>
    if b == byte 'u' then
      match numberedEscape r with
      | .error e => .error e
      | .ok (n, q) => .ok (utf8 n, q.behind)
    else
      match letterEscape? b with
      | some c => .ok ([c], .first b r)
      | none => .error .invalidEscape

/-! ## Strings -/

/-- The bytes of a string up to its closing quote, the quote not included. -/
def stringBytes (s : List UInt8) : Except Fault (Parsed (List UInt8) s) :=
  match s with
  | [] => .error .endInString
  | b :: r =>
    if b == byte '"' then .ok ((Skipped.first b r).parsed [])
    else if b == byte '\\' then
      match escape r with
      | .error e => .error e
      | .ok (bytes, ⟨r', h⟩) =>
        match stringBytes r' with
        | .error e => .error e
        | .ok p =>
          .ok ⟨bytes ++ p.value, p.rest, by
            have := p.shorter; simp only [List.length_cons]; omega⟩
    -- These may only be written as escapes.
    else if b < 0x20 then .error .controlCharacter
    else
      match stringBytes r with
      | .error e => .error e
      | .ok p => .ok ⟨b :: p.value, p.rest, Nat.lt_succ_of_lt p.shorter⟩
termination_by s.length
decreasing_by all_goals simp only [List.length_cons]; omega

/-- Reads a string behind its opening quote. -/
def stringTail : Reader String := fun s =>
  match stringBytes s with
  | .error e => .error e
  | .ok p =>
    match String.fromUTF8? (ByteArray.mk p.value.toArray) with
    | some text => .ok ⟨text, p.rest, p.shorter⟩
    -- Bytes are gathered first: a character may be written in several escapes and bytes.
    | none => .error .invalidCodePoint

end TrafficMap.Json
