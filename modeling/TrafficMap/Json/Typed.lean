import TrafficMap.Json.Reader
import TrafficMap.Json.Skip

/-!
# Typed Readers

Readers that accept values of one kind only. What else stands in the place is described in the
fault; to be described it has to be read, and a fault in it comes first.
-/

namespace TrafficMap.Json

/-! ## Mismatches -/

/-- The fault of a value that is not the `expected` one. -/
def mismatch {α : Type} (expected : String) (b : UInt8) (r : List UInt8) :
    Except Fault (Parsed α (b :: r)) :=
  let found : Except Fault (Parsed Found (b :: r)) :=
    scalar Found.null .boolean .ofNumber .string b r
      (if b == byte '[' then .error (.invalidType .sequence expected)
       else if b == byte '\x7b' then .error (.invalidType .map expected)
       else .error .expectedValue)
  found.bind fun p => .error (.invalidType p.value expected)

/-- Reads a value from its first byte on. -/
def atToken {α : Type}
    (f : (b : UInt8) → (r : List UInt8) → Except Fault (Parsed α (b :: r))) : Reader α := fun s =>
  match h : skipBlanks s with
  | [] => .error .endInValue
  | b :: r => (f b r).map (·.within (length_lt_of_skipBlanks h))

/-! ## Simple values -/

def textReader : Reader String :=
  atToken fun b r =>
    if b == byte '"' then (stringTail r).map (·.behind) else mismatch "a string" b r

def numberReader {α : Type} (expected : String) (convert : Number → Except Fault α) : Reader α :=
  atToken fun b r =>
    let number : Option (Except Fault (Parsed Number (b :: r))) :=
      if b == byte '-' then some ((unsignedNumber true r).map (·.behind))
      else if isDigit b then some (unsignedNumber false (b :: r))
      else none
    match number with
    | some p => p.bind fun p => (convert p.value).map fun v => p.map fun _ => v
    | none => mismatch expected b r

/-- Nothing, written `null`. -/
def nullReader : Reader Unit :=
  atToken fun b r =>
    if b == byte 'n' then wordValue nullTail () b r else mismatch "unit" b r

/-- One of a few names, written as a text or as the only key of an object whose value is `null`. -/
def variantReader {α : Type} (names : List String) (ofName : String → Option α) : Reader α :=
  let choose (name : String) : Except Fault α :=
    match ofName name with
    | some v => .ok v
    | none => .error (.unknownVariant name names)
  atToken fun b r =>
    if b == byte '"' then
      -- The short form: the name alone.
      (stringTail r).bind fun p =>
        (choose p.value).map fun v => (p.map fun _ => v).behind
    else if b == byte '\x7b' then
      -- The long form: the name is the only key, and `null` its value.
      let name : Reader String :=
        atToken fun b r =>
          if b == byte '"' then (stringTail r).map (·.behind)
          else mismatch "variant identifier" b r
      (name r).bind fun p =>
        (choose p.value).bind fun v =>
          (colon p.rest).bind fun c =>
            (nullReader c.rest).bind fun n =>
              match h : skipBlanks n.rest with
              | [] => .error .endInObject
              | b' :: q =>
                if b' == byte '\x7d' then
                  .ok ⟨v, q, by
                    have := length_lt_of_skipBlanks h
                    have := n.shorter; have := c.shorter; have := p.shorter
                    simp only [List.length_cons]; omega⟩
                else .error .expectedValue
    else .error .expectedValue

def listReader {α : Type} (item : Reader α) : Reader (List α) :=
  atToken fun b r =>
    if b == byte '[' then (elements item true r).map (·.behind)
    else mismatch "a sequence" b r

/-! ## Records -/

/-- A field of a record that is gathered in a draft of type `σ`. -/
structure RecordField (σ : Type) where
  /-- The keys that mean the field; messages use the first. -/
  keys : List String
  /-- A record without the field is refused. -/
  required : Bool
  isSet : σ → Bool
  reader : σ → Reader σ

/-- The name of a field in messages. -/
def RecordField.name {σ : Type} (f : RecordField σ) : String := f.keys.head?.getD ""

/-- A record: an object with known fields, or the list of their values in order. -/
structure RecordType (σ : Type) where
  title : String
  fields : List (RecordField σ)

namespace RecordType

variable {σ : Type}

/-- The fault of a list that ends before a required field. -/
def tooShort (t : RecordType σ) (length : Nat) : Fault :=
  .invalidLength length s!"{t.title} with {t.fields.length} elements"

/-- Chooses how the value behind a key is read. Unknown keys are passed over, and a known field may
not occur twice. -/
def memberReader (t : RecordType σ) (key : String) (d : σ) : Except Fault (Reader σ) :=
  match t.fields.find? (·.keys.contains key) with
  | none => .ok (skipValue.map fun _ => d)
  | some f => if f.isSet d then .error (.duplicateField f.name) else .ok (f.reader d)

/-- Reads the values of `fields` from a list; `place` is the number of values before them. -/
def itemsReader (t : RecordType σ) (place : Nat) (d : σ) : List (RecordField σ) →
    (s : List UInt8) → Except Fault (Parsed σ s)
  | [], s => (closeList s).map (·.map fun _ => d)
  | f :: fields, s =>
    match nextElement (place == 0) s with
    | .error e => .error e
    | .ok (.done r h) =>
      match (f :: fields).findIdx? (·.required) with
      -- The message counts the values up to the first one that is missed.
      | some i => .error (t.tooShort (place + i))
      | none => .ok ⟨d, r, h⟩
    | .ok (.more r h) =>
      match f.reader d r with
      | .error e => .error e
      | .ok p =>
        (itemsReader t (place + 1) p.value fields p.rest).map
          (·.within (Nat.le_of_lt (Nat.lt_of_lt_of_le p.shorter h)))

/-- Reads a record into the draft `empty`, and what `finish` makes of it. -/
def reader {α : Type} (t : RecordType σ) (empty : σ) (finish : σ → Except Fault α) : Reader α :=
  atToken fun b r =>
    let draft : Except Fault (Parsed σ (b :: r)) :=
      if b == byte '[' then (itemsReader t 0 empty t.fields r).map (·.behind)
      else if b == byte '\x7b' then
        (members t.memberReader true empty r).map (·.behind)
      else mismatch t.title b r
    draft.bind fun p => (finish p.value).map fun v => p.map fun _ => v

end RecordType

/-- The value of a field that may not be missing. -/
def require {α : Type} (name : String) : Option α → Except Fault α
  | some v => .ok v
  | none => .error (.missingField name)

end TrafficMap.Json
