import TrafficMap.Number.Binary

/-!
# JSON Values

A parsed JSON document. Whole numbers that fit a 64-bit word keep their value; every other number is
a float. The members of an object keep their order, and when a key occurs twice the last member
counts.
-/

namespace TrafficMap.Json

/-- A JSON number. -/
inductive Number where
  | natural (n : UInt64)
  /-- A number below zero. -/
  | negative (n : Int64)
  | float (x : Float)
deriving Repr, DecidableEq

/-- A JSON value. -/
inductive Value where
  | null
  | boolean (b : Bool)
  | number (n : Number)
  | string (s : String)
  | array (items : List Value)
  | object (members : List (String × Value))
deriving Repr, Inhabited

/-- The value of the last member with a key. -/
def member? (members : List (String × Value)) (key : String) : Option Value :=
  members.foldl (fun found (k, v) => if k == key then some v else found) none

/-! ## Building values

JSON values from the things a document is made of. A float that is no number has no JSON form and
becomes `null`; a field that is absent is left out of its object.
-/

/-- A signed word. -/
def Number.ofInt64 (n : Int64) : Number :=
  if n < 0 then .negative n else .natural n.toUInt64

namespace Value

def ofFloat (x : Float) : Value :=
  if x.isFinite then .number (.float x) else .null

def ofFloat32 (x : Float32) : Value := ofFloat (widen x)

/-- A signed word. -/
def ofInt64 (n : Int64) : Value := .number (.ofInt64 n)

/-- An object of the fields that are present. -/
def ofFields (fields : List (String × Option Value)) : Value :=
  .object (fields.filterMap fun (key, v) => v.map (key, ·))

end Value

end TrafficMap.Json
