import TrafficMap.Json5.Meaning

/-!
# Typed Values of a JSON5 Document

Values of one kind, taken from a parsed document. What else stands in the place is described in the
fault. A record is an object with known keys, or a list of the values of its fields in order;
unknown keys and further elements do not count, but what stands behind an unknown key has to make
sense by itself.
-/

namespace TrafficMap.Json5

/-! ## Descriptions -/

/-- A value as a message shows it; a string or a number has to make sense for that. -/
def found : Node → Except Fault Found
  | .null => .ok .unit
  | .boolean b => .ok (.boolean b)
  | .string pieces => (textOf pieces).map .string
  | .number literal =>
    if isWhole literal then (wordOf literal).map .integer else (floatOf literal).map .floating
  | .array _ => .ok .sequence
  | .object _ => .ok .map

/-- The fault of a value that is not the `expected` one. -/
def mismatch {α : Type} (expected : String) (node : Node) : Except Fault α := do
  let found ← found node
  .error (.invalidType found expected)

/-! ## Values that nobody asks for -/

mutual

/-- A value makes sense by itself: so do all strings and numbers in it. -/
def check : Node → Except Fault Unit
  | .array items => checkItems items
  | .object members => checkMembers members
  | .string pieces => (textOf pieces).map fun _ => ()
  | .number literal =>
    if isWhole literal then (wordOf literal).map fun _ => ()
    else (floatOf literal).map fun _ => ()
  | _ => .ok ()

def checkItems : List Node → Except Fault Unit
  | [] => .ok ()
  | item :: rest => do
    check item
    checkItems rest

def checkMembers : List (List Piece × Node) → Except Fault Unit
  | [] => .ok ()
  | (key, node) :: rest => do
    let _ ← textOf key
    check node
    checkMembers rest

end

/-! ## Simple values -/

def text : Node → Except Fault String
  | .string pieces => textOf pieces
  | node => mismatch "a string" node

/-- A truth value. -/
def boolean : Node → Except Fault Bool
  | .boolean b => .ok b
  | node => mismatch "a boolean" node

/-- A number, however it is written. -/
def float : Node → Except Fault Float
  | .number literal => floatOf literal
  | _ => .error .number

/-- A number that counts something: its whole part, within the range of the word. -/
def count (node : Node) : Except Fault UInt64 :=
  (float node).map (·.toUInt64)

def coordinate (node : Node) : Except Fault Float32 :=
  (float node).map narrow

def list {α : Type} (item : Node → Except Fault α) : Node → Except Fault (List α)
  | .array items => items.mapM item
  | node => mismatch "a sequence" node

/-- One of a few values by their names, written as a text or as the first key of an object; what
stands behind the key is not looked at. -/
def variant {α : Type} (values : List α) (nameOf : α → String) (node : Node) : Except Fault α :=
  let choose (name : String) : Except Fault α :=
    match values.find? fun v => nameOf v == name with
    | some v => .ok v
    | none => .error (.unknownVariant name (values.map nameOf))
  match node with
  | .string pieces => (textOf pieces).bind choose
  | .object [] => .error .emptyObject
  | .object ((key, _) :: _) => (textOf key).bind choose
  | _ => .error .expectedStringOrObject

/-! ## Records -/

/-- A field of a record that is gathered in a draft of type `σ`. -/
structure RecordField (σ : Type) where
  name : String
  /-- A record without the field is refused. -/
  required : Bool
  isSet : σ → Bool
  add : Node → σ → Except Fault σ

/-- A field that is kept in one part of a draft. -/
def RecordField.of {σ α : Type} (name : String) (required : Bool) (get : σ → Option α)
    (set : σ → α → σ) (read : Node → Except Fault α) : RecordField σ where
  name := name
  required := required
  isSet d := (get d).isSome
  add node d := (read node).map (set d)

/-- A record with a title for messages. -/
structure RecordType (σ : Type) where
  title : String
  fields : List (RecordField σ)

namespace RecordType

variable {σ : Type}

def addMember (t : RecordType σ) (key : List Piece) (node : Node) (d : σ) : Except Fault σ := do
  let name ← textOf key
  match t.fields.find? (·.name == name) with
  | none => (check node).map fun _ => d
  | some f => if f.isSet d then .error (.duplicateField f.name) else f.add node d

def addMembers (t : RecordType σ) (d : σ) : List (List Piece × Node) → Except Fault σ
  | [] => .ok d
  | (key, node) :: rest => (addMember t key node d).bind fun d => addMembers t d rest

/-- Takes the elements of a list as the values of the fields in order. -/
def addItems (t : RecordType σ) (place : Nat) (d : σ) :
    List (RecordField σ) → List Node → Except Fault σ
  | [], _ => .ok d
  | f :: fields, node :: rest => (f.add node d).bind fun d => addItems t (place + 1) d fields rest
  | f :: fields, [] =>
    match (f :: fields).findIdx? (·.required) with
    | some i =>
      .error (.invalidLength (place + i) s!"{t.title} with {t.fields.length} elements")
    | none => .ok d

def draft (t : RecordType σ) (empty : σ) : Node → Except Fault σ
  | .object members => addMembers t empty members
  | .array items => addItems t 0 empty t.fields items
  | node => mismatch t.title node

end RecordType

/-- The value of a field that may not be missing. -/
def require {α : Type} (name : String) : Option α → Except Fault α
  | some v => .ok v
  | none => .error (.missingField name)

end TrafficMap.Json5
