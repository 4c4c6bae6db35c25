import TrafficMap.Json.Basic

/-!
# Log Records

What the log says: a record has a level, the part of the program it comes from, a message, and named
values. A log shows records as lines of text or as JSON objects.
-/

namespace TrafficMap

/-- How much a log shows, or how important a record is. -/
inductive Verbosity where
  | off
  | error
  | warn
  | info
  | debug
  | trace
deriving Repr, BEq, DecidableEq

/-- The place on the scale from silence to everything. -/
def Verbosity.rank : Verbosity → Nat
  | .off => 0
  | .error => 1
  | .warn => 2
  | .info => 3
  | .debug => 4
  | .trace => 5

def Verbosity.name : Verbosity → String
  | .off => "off"
  | .error => "error"
  | .warn => "warn"
  | .info => "info"
  | .debug => "debug"
  | .trace => "trace"

inductive LogValue where
  | text (s : String)
  | count (n : Nat)
  | flag (b : Bool)
deriving Repr, BEq, DecidableEq

/-- A line of the log. -/
structure LogRecord where
  level : Verbosity
  /-- The part of the program that reports. -/
  target : String
  message : String
  fields : List (String × LogValue)
deriving Repr, BEq, DecidableEq

namespace LogRecord

/-- The record has a value of the given name. The message counts as one. -/
def hasField (r : LogRecord) (name : String) : Bool :=
  name == "message" || r.fields.any (·.1 == name)

/-! ## Lines -/

def valueText : LogValue → String
  | .text s => s
  | .count n => toString n
  | .flag b => toString b

def line (r : LogRecord) : String :=
  r.level.name.toUpper ++ " " ++ r.target ++ ": " ++ r.message ++
    String.join (r.fields.map fun (name, v) => " " ++ name ++ "=" ++ valueText v)

/-! ## Objects -/

def valueJson : LogValue → Json.Value
  | .text s => .string s
  | .count n => .number (.natural (.ofNat n))
  | .flag b => .boolean b

def toValue (r : LogRecord) : Json.Value :=
  let fields := r.fields.map fun (name, v) => (name, valueJson v)
  .object
    [("level", .string r.level.name.toUpper),
     ("fields", .object (("message", .string r.message) :: fields)),
     ("target", .string r.target)]

end LogRecord

end TrafficMap
