import TrafficMap.Json.Basic
import TrafficMap.Number.Shortest
import TrafficMap.Text.Quoted

/-!
# Faults of a JSON Document

Why a document cannot be read: either the text is no JSON, or a value is not what its place asks
for. The wording stands in `Fault.message` and nowhere else.
-/

namespace TrafficMap.Json

/-! ## What was found -/

/-- A value that is out of place, as a message shows it. -/
inductive Found where
  | null
  | boolean (b : Bool)
  | integer (n : Int)
  | floating (x : Float)
  | string (s : String)
  | sequence
  | map
deriving Repr, DecidableEq

namespace Found

/-- What a value looks like from outside. -/
def ofNumber : Number → Found
  | .natural n => .integer n.toNat
  | .negative n => .integer n.toInt
  | .float x => .floating x

/-- What a value looks like from outside. -/
def ofValue : Value → Found
  | .null => .null
  | .boolean b => .boolean b
  | .number n => .ofNumber n
  | .string s => .string s
  | .array _ => .sequence
  | .object _ => .map

/-- The description in a message. -/
def text : Found → String
  | .null => "null"
  | .boolean b => s!"boolean `{b}`"
  | .integer n => s!"integer `{n}`"
  | .floating x => "floating point `" ++ floatText .compact x ++ "`"
  | .string s => "string " ++ Text.quoted s
  | .sequence => "sequence"
  | .map => "map"

end Found

/-! ## Faults -/

/-- Why a document cannot be read. -/
inductive Fault where
  | endInValue
  | endInList
  | endInObject
  | endInString
  | expectedColon
  | expectedCommaOrBracket
  | expectedCommaOrBrace
  | expectedWord
  | expectedValue
  | invalidEscape
  | invalidNumber
  | numberOutOfRange
  | invalidCodePoint
  | controlCharacter
  | keyMustBeString
  | loneSurrogate
  | brokenSurrogatePair
  | trailingComma
  | trailingCharacters
  | tooDeep
  /-- A value of another kind stands where `expected` is needed. -/
  | invalidType (found : Found) (expected : String)
  /-- A value of the right kind cannot be represented. -/
  | invalidValue (found : Found) (expected : String)
  /-- A list has too few elements. -/
  | invalidLength (length : Nat) (expected : String)
  | unknownVariant (name : String) (variants : List String)
  | missingField (name : String)
  | duplicateField (name : String)
deriving Repr, DecidableEq

/-- The wording of a fault, without the place in the document. A real message ends in `at line L
column C` where that is known, and so does the status line that shows it; faults keep no places, so
that end is left out here. -/
def Fault.message : Fault → String
  | .endInValue => "EOF while parsing a value"
  | .endInList => "EOF while parsing a list"
  | .endInObject => "EOF while parsing an object"
  | .endInString => "EOF while parsing a string"
  | .expectedColon => "expected `:`"
  | .expectedCommaOrBracket => "expected `,` or `]`"
  | .expectedCommaOrBrace => "expected `,` or `\x7d`"
  | .expectedWord => "expected ident"
  | .expectedValue => "expected value"
  | .invalidEscape => "invalid escape"
  | .invalidNumber => "invalid number"
  | .numberOutOfRange => "number out of range"
  | .invalidCodePoint => "invalid unicode code point"
  | .controlCharacter => "control character (\\u0000-\\u001F) found while parsing a string"
  | .keyMustBeString => "key must be a string"
  | .loneSurrogate => "lone leading surrogate in hex escape"
  | .brokenSurrogatePair => "unexpected end of hex escape"
  | .trailingComma => "trailing comma"
  | .trailingCharacters => "trailing characters"
  | .tooDeep => "recursion limit exceeded"
  | .invalidType found expected => s!"invalid type: {found.text}, expected {expected}"
  | .invalidValue found expected => s!"invalid value: {found.text}, expected {expected}"
  | .invalidLength length expected => s!"invalid length {length}, expected {expected}"
  | .unknownVariant name variants => s!"unknown variant `{name}`, {Text.oneOf variants}"
  | .missingField name => s!"missing field `{name}`"
  | .duplicateField name => s!"duplicate field `{name}`"

end TrafficMap.Json
