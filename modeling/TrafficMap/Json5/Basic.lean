import TrafficMap.Number.Shortest
import TrafficMap.Text.Quoted

/-!
# JSON5 Documents

A parsed JSON5 document, and the faults that a document may have. Numbers keep their spelling and
strings the way their characters are written, because what they mean is decided only where they are
used.
-/

namespace TrafficMap.Json5

/-! ## Documents -/

/-- A piece of a string or of a name. -/
inductive Piece where
  /-- A character that stands for itself. -/
  | plain (c : Char)
  /-- A character behind a backslash. -/
  | escaped (c : Char)
  /-- The escape of the character zero. -/
  | zero
  /-- An escape by two digits of base 16. -/
  | short (digits : List Char)
  /-- An escape by four digits of base 16. -/
  | long (digits : List Char)
deriving Repr, DecidableEq

/-- A value of a document. -/
inductive Node where
  | null
  | boolean (b : Bool)
  | string (pieces : List Piece)
  | number (literal : List Char)
  | array (items : List Node)
  | object (members : List (List Piece × Node))
deriving Repr, Inhabited

/-! ## Faults

Why a document cannot be used. A text that is no JSON5 at all has one fault; every other fault
concerns a value and is worded in `Fault.message`.
-/

/-- A value that is out of place, as a message shows it. -/
inductive Found where
  | unit
  | boolean (b : Bool)
  | integer (n : Int64)
  | floating (x : Float)
  | string (s : String)
  | sequence
  | map
deriving Repr, DecidableEq

/-- The description of a value in a message. -/
def Found.text : Found → String
  | .unit => "unit value"
  | .boolean b => s!"boolean `{b}`"
  | .integer n => s!"integer `{n.toInt}`"
  | .floating x => "floating point `" ++ floatText .positional x ++ "`"
  | .string s => "string " ++ Text.quoted s
  | .sequence => "sequence"
  | .map => "map"

/-- Why a document cannot be used. -/
inductive Fault where
  /-- The text is no JSON5. -/
  | grammar
  | number
  | integer
  | hexadecimal
  | tooLarge
  | missingTrail
  | expectedTrail
  | unexpectedTrail
  | expectedStringOrObject
  | emptyObject
  | invalidType (found : Found) (expected : String)
  | invalidLength (length : Nat) (expected : String)
  | unknownVariant (name : String) (variants : List String)
  | missingField (name : String)
  | duplicateField (name : String)
deriving Repr, DecidableEq

/-- The wording of a fault. What a text that is no JSON5 is reported with depends on how its grammar
is written down, down to the names of the rules, and only a mark stands here for it. -/
def Fault.message : Fault → String
  | .grammar => "<syntax>"
  | .number => "error parsing number"
  | .integer => "error parsing integer"
  | .hexadecimal => "error parsing hex"
  | .tooLarge => "error parsing number: too large"
  | .missingTrail => "missing unicode trail surrogate"
  | .expectedTrail => "expecting unicode trail surrogate"
  | .unexpectedTrail => "unexpected unicode trail surrogate"
  | .expectedStringOrObject => "expected a string or an object"
  | .emptyObject => "expected a nonempty object"
  | .invalidType found expected => s!"invalid type: {found.text}, expected {expected}"
  | .invalidLength length expected => s!"invalid length {length}, expected {expected}"
  | .unknownVariant name variants => s!"unknown variant `{name}`, {Text.oneOf variants}"
  | .missingField name => s!"missing field `{name}`"
  | .duplicateField name => s!"duplicate field `{name}`"

end TrafficMap.Json5
