import TrafficMap.Json.Fault
import TrafficMap.Text.Parsed

/-!
# Scanning

A document is a list of bytes, read from left to right. A `Reader` takes what it needs from the
front and leaves a rest that is shorter, which is what every loop over a document ends by. The first
fault met is the one reported.
-/

namespace TrafficMap.Json

/-! ## Readers -/

/-- A function that reads the front of a document. -/
abbrev Reader (α : Type) := (s : List UInt8) → Except Fault (Parsed α s)

def Reader.map {α β : Type} (g : α → β) (f : Reader α) : Reader β :=
  fun s => (f s).map (·.map g)

/-! ## Bytes -/

/-- The byte of an ASCII character. -/
def byte (c : Char) : UInt8 := c.toNat.toUInt8

/-- The blanks between tokens: space, tab, line feed and carriage return. -/
def isBlank (b : UInt8) : Bool :=
  b == 0x20 || b == 0x09 || b == 0x0A || b == 0x0D

def isDigit (b : UInt8) : Bool := 0x30 ≤ b && b ≤ 0x39

/-- The document from its first byte on that is no blank. -/
def skipBlanks : List UInt8 → List UInt8
  | [] => []
  | b :: s => if isBlank b then skipBlanks s else b :: s

theorem length_skipBlanks_le (s : List UInt8) : (skipBlanks s).length ≤ s.length := by
  induction s with
  | nil => exact Nat.le_refl _
  | cons b s ih =>
    rw [skipBlanks]
    split
    · exact Nat.le_succ_of_le ih
    · exact Nat.le_refl _

theorem length_lt_of_skipBlanks {s r : List UInt8} {b : UInt8} (h : skipBlanks s = b :: r) :
    r.length < s.length := by
  have := length_skipBlanks_le s
  rw [h] at this
  exact this

/-! ## Words -/

/-- Reads the letters of a word one by one. -/
def word : List UInt8 → (s : List UInt8) → Except Fault (Rest s)
  | [], s => .ok (.whole s)
  | _ :: _, [] => .error .endInValue
  | w :: ws, b :: s =>
    if b == w then
      match word ws s with
      | .ok q => .ok q.behind
      | .error e => .error e
    else .error .expectedWord

def nullTail : List UInt8 := [byte 'u', byte 'l', byte 'l']

def trueTail : List UInt8 := [byte 'r', byte 'u', byte 'e']

def falseTail : List UInt8 := [byte 'a', byte 'l', byte 's', byte 'e']

/-! ## Turns of a list or an object -/

/-- Where a list or an object stands: closed, or before one more entry. -/
inductive Turn (s : List UInt8) where
  /-- The closing mark has been read. -/
  | done (rest : List UInt8) (shorter : rest.length < s.length)
  /-- One more entry begins. -/
  | more (rest : List UInt8) (shorter : rest.length ≤ s.length)

/-- Moves on to the next element of a list. Elements are separated by commas, and no comma stands
before the closing bracket. -/
def nextElement (first : Bool) (s : List UInt8) : Except Fault (Turn s) :=
  match h : skipBlanks s with
  | [] => .error .endInList
  | b :: r =>
    have shorter := length_lt_of_skipBlanks h
    if b == byte ']' then .ok (.done r shorter)
    else if first then .ok (.more (b :: r) shorter)
    else if b == byte ',' then
      -- A comma promises another element.
      match skipBlanks r with
      | [] => .error .endInValue
      | c :: _ =>
        if c == byte ']' then .error .trailingComma else .ok (.more r (Nat.le_of_lt shorter))
    else .error .expectedCommaOrBracket

/-- Moves on to the next key of an object, behind its opening quote. -/
def nextKey (first : Bool) (s : List UInt8) : Except Fault (Turn s) :=
  match h : skipBlanks s with
  | [] => .error .endInObject
  | b :: r =>
    have shorter := length_lt_of_skipBlanks h
    if b == byte '\x7d' then .ok (.done r shorter)
    else if first then
      if b == byte '"' then .ok (.more r (Nat.le_of_lt shorter)) else .error .keyMustBeString
    else if b == byte ',' then
      -- A comma promises another key.
      match h' : skipBlanks r with
      | [] => .error .endInValue
      | c :: r' =>
        have shorter' := length_lt_of_skipBlanks h'
        if c == byte '"' then .ok (.more r' (Nat.le_of_lt (Nat.lt_trans shorter' shorter)))
        else if c == byte '\x7d' then .error .trailingComma
        else .error .keyMustBeString
    else .error .expectedCommaOrBrace

/-- The colon between a key and its value. -/
def colon : Reader Unit := fun s =>
  match h : skipBlanks s with
  | [] => .error .endInObject
  | b :: r =>
    if b == byte ':' then .ok ⟨(), r, length_lt_of_skipBlanks h⟩ else .error .expectedColon

/-- The end of a list of which no more elements are wanted. -/
def closeList : Reader Unit := fun s =>
  match h : skipBlanks s with
  | [] => .error .endInList
  | b :: r =>
    if b == byte ']' then .ok ⟨(), r, length_lt_of_skipBlanks h⟩
    else if b == byte ',' && (skipBlanks r).head? == some (byte ']') then .error .trailingComma
    else .error .trailingCharacters

end TrafficMap.Json
