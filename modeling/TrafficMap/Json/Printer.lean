import TrafficMap.Json.Basic
import TrafficMap.Number.Shortest

/-!
# Printing JSON

The text of a JSON value without any blanks. Quotes, backslashes and control characters of a string
are escaped, and nothing else.
-/

namespace TrafficMap.Json

def controlEscape (c : Char) : List Char :=
  ['\\', 'u', '0', '0', Nat.digitChar (c.toNat / 16), Nat.digitChar (c.toNat % 16)]

def escapedChar (c : Char) : List Char :=
  if c = '"' ∨ c = '\\' then ['\\', c]
  else if c = '\n' then ['\\', 'n']
  else if c = '\r' then ['\\', 'r']
  else if c = '\t' then ['\\', 't']
  else if c = '\x08' then ['\\', 'b']
  else if c = '\x0c' then ['\\', 'f']
  else if c.toNat < 0x20 then controlEscape c
  else [c]

def stringText (s : String) : String :=
  String.ofList (['"'] ++ s.toList.flatMap escapedChar ++ ['"'])

def Number.text : Number → String
  | .natural n => toString n.toNat
  | .negative n => toString n.toInt
  | .float x => floatText .compact x

namespace Value

mutual

def text : Value → String
  | .null => "null"
  | .boolean b => toString b
  | .number n => n.text
  | .string s => stringText s
  | .array items => "[" ++ ",".intercalate (itemTexts items) ++ "]"
  | .object members => "\x7b" ++ ",".intercalate (memberTexts members) ++ "\x7d"

def itemTexts : List Value → List String
  | [] => []
  | v :: rest => v.text :: itemTexts rest

def memberTexts : List (String × Value) → List String
  | [] => []
  | (key, v) :: rest => (stringText key ++ ":" ++ v.text) :: memberTexts rest

end

end Value

end TrafficMap.Json
