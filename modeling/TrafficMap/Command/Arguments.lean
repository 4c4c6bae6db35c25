import TrafficMap.Number.Word
import TrafficMap.Text.Terminal

/-!
# Command Line Arguments

What the arguments of a call ask for. A switch stands behind two hyphens or, if it has a letter,
behind one; letters may be joined. A value follows in the next argument, behind an equals sign, or
directly behind a letter. A value in an argument of its own is only taken up when the next switch is
met, so that an argument that means nothing is reported before it.
-/

namespace TrafficMap

/-! ## Switches

The switches of the command line, and the help text that lists them.
-/

inductive Switch where
  | config
  | endpoint
  | interval
  | demo
  | logLevel
  | help
deriving Repr, BEq, DecidableEq

namespace Switch

def all : List Switch := [.config, .endpoint, .interval, .demo, .logLevel, .help]

def long : Switch → String
  | .config => "config"
  | .endpoint => "endpoint"
  | .interval => "interval-ms"
  | .demo => "demo"
  | .logLevel => "log-level"
  | .help => "help"

def letter? : Switch → Option Char
  | .config => some 'c'
  | .endpoint => some 'e'
  | .help => some 'h'
  | .interval | .demo | .logLevel => none

/-- What the help text calls the value of a switch that takes one. -/
def valueName? : Switch → Option String
  | .config => some "CONFIG"
  | .endpoint => some "ENDPOINT"
  | .interval => some "INTERVAL_MS"
  | .logLevel => some "LOG_LEVEL"
  | .demo | .help => none

def purpose : Switch → String
  | .config => "Path to the configuration file (JSON5 format)"
  | .endpoint => "Snapshot endpoint URL (overrides the configuration)"
  | .interval => "Poll interval in milliseconds (overrides the configuration)"
  | .demo => "Use simulated traffic instead of the endpoint"
  | .logLevel => "Log level (overrides the configuration)"
  | .help => "Print help"

def takesValue (s : Switch) : Bool := s.valueName?.isSome

/-- The switch with the name of its value, as messages show it. -/
def usage (s : Switch) : String :=
  "--" ++ s.long ++
    match s.valueName? with
    | some name => " <" ++ name ++ ">"
    | none => ""

/-- The switch with a name. -/
def ofLong? (name : String) : Option Switch := all.find? (·.long == name)

def ofLetter? (c : Char) : Option Switch := all.find? (·.letter? == some c)

/-! ### Help -/

def column (s : Switch) : String :=
  "  " ++
    (match s.letter? with
      | some c => "-" ++ String.singleton c ++ ", "
      | none => "    ") ++
    s.usage

def columnWidth : Nat := (all.map (·.column.length)).foldl max 0

def helpLine (s : Switch) : String :=
  s.column.pushn ' ' (columnWidth + 2 - s.column.length) ++ s.purpose ++ "\n"

def helpText : String :=
  "Visualize live service-to-service traffic\n\n" ++
    "Usage: trafficscope [OPTIONS]\n\n" ++
    "Options:\n" ++
    String.join (all.map helpLine)

end Switch

/-! ## Arguments -/

/-- What the arguments say. -/
structure Arguments where
  config : Option String
  endpoint : Option String
  intervalMs : Option UInt64
  demo : Bool
  logLevel : Option String
deriving Repr, BEq, DecidableEq

/-- Nothing is said. -/
def Arguments.blank : Arguments := ⟨none, none, none, false, none⟩

inductive UsageFault where
  | unexpectedArgument (text : String)
  | unexpectedValue (switch : Switch) (value : String)
  | missingValue (switch : Switch)
  | repeated (switch : Switch)
  | invalidValue (switch : Switch) (value : String) (fault : WordFault)
deriving Repr, DecidableEq

/-- The wording of a fault. What has been typed is shown without controls of the terminal. -/
def UsageFault.message : UsageFault → String
  | .unexpectedArgument text => s!"unexpected argument '{Text.withoutControls text}' found"
  | .unexpectedValue switch value =>
    let shown := Text.withoutControls value
    s!"unexpected value '{shown}' for '{switch.usage}' found; no more were expected"
  | .missingValue switch => s!"a value is required for '{switch.usage}' but none was supplied"
  | .repeated switch => s!"the argument '{switch.usage}' cannot be used multiple times"
  | .invalidValue switch value fault =>
    let shown := Text.withoutControls value
    s!"invalid value '{shown}' for '{switch.usage}': {fault.message}"

def UsageFault.report (f : UsageFault) : String :=
  s!"error: {f.message}\n\nFor more information, try '--help'.\n"

/-- Why the arguments are not read any further. -/
inductive Halt where
  /-- Help is asked for. -/
  | help
  | fault (f : UsageFault)
deriving Repr, DecidableEq

namespace Arguments

/-! ## Taking up switches -/

/-- The switch has been taken up before. -/
def has (a : Arguments) : Switch → Bool
  | .config => a.config.isSome
  | .endpoint => a.endpoint.isSome
  | .interval => a.intervalMs.isSome
  | .demo => a.demo
  | .logLevel => a.logLevel.isSome
  | .help => false

/-- Takes up a switch with its value. A switch counts once; a path must not be empty. -/
def take (a : Arguments) (switch : Switch) (value : String) : Except Halt Arguments :=
  if a.has switch then .error (.fault (.repeated switch))
  else
    match switch with
    | .config =>
      if value.isEmpty then .error (.fault (.missingValue switch))
      else .ok { a with config := some value }
    | .endpoint => .ok { a with endpoint := some value }
    | .interval =>
      match readWord value with
      | .ok n => .ok { a with intervalMs := some n }
      | .error fault => .error (.fault (.invalidValue switch value fault))
    | .demo => .ok { a with demo := true }
    | .logLevel => .ok { a with logLevel := some value }
    | .help => .error .help

end Arguments

/-! ## Reading -/

/-- A switch whose value is in an argument of its own. -/
structure Pending where
  switch : Switch
  /-- The value, once it has come. -/
  value : Option String
deriving Repr, BEq, DecidableEq

/-- What has been read so far. -/
structure Reading where
  taken : Arguments
  pending : Option Pending
deriving Repr, BEq, DecidableEq

namespace Reading

/-- Takes up the pending switch. -/
def settle (r : Reading) : Except Halt Arguments :=
  match r.pending with
  | none => .ok r.taken
  | some ⟨switch, some value⟩ => r.taken.take switch value
  | some ⟨switch, none⟩ => .error (.fault (.missingValue switch))

def attach (r : Reading) (switch : Switch) (value : String) : Except Halt Reading := do
  -- The switch before this one is settled first, so its fault comes first.
  let taken ← (← r.settle).take switch value
  .ok ⟨taken, none⟩

/-- The switch waits for its value. -/
def await (r : Reading) (switch : Switch) : Except Halt Reading := do
  .ok ⟨← r.settle, some ⟨switch, none⟩⟩

/-- An argument behind two hyphens, with the value behind an equals sign. -/
def readLong (r : Reading) (name : String) (value : Option String) : Except Halt Reading :=
  match Switch.ofLong? name with
  | none => .error (.fault (.unexpectedArgument ("--" ++ name)))
  | some switch =>
    if switch.takesValue then
      match value with
      | some v => r.attach switch v
      | none => r.await switch
    else
      match value with
      | some v => .error (.fault (.unexpectedValue switch v))
      | none => r.attach switch ""

/-- Letters behind one hyphen. What follows a letter that takes a value is the value. -/
def readLetters (r : Reading) : List Char → Except Halt Reading
  | [] => .ok r
  | c :: rest =>
    match Switch.ofLetter? c with
    | none => .error (.fault (.unexpectedArgument ("-" ++ String.singleton c)))
    | some switch =>
      if switch.takesValue then
        match rest with
        | [] => r.await switch
        -- One equals sign between letter and value is no part of the value.
        | '=' :: value => r.attach switch (.ofList value)
        | value => r.attach switch (.ofList value)
      else do
        let r ← r.attach switch ""
        r.readLetters rest

/-- An argument that is no switch: the value of the switch that waits for one. -/
def readPlain (r : Reading) (text : String) : Except Halt Reading :=
  match r.pending with
  -- The value is not looked at before the switch is settled.
  | some ⟨switch, none⟩ => .ok { r with pending := some ⟨switch, some text⟩ }
  | _ => .error (.fault (.unexpectedArgument text))

def readArgument (r : Reading) (text : String) : Except Halt Reading :=
  match text.toList with
  | '-' :: '-' :: cs =>
    let (name, rest) := cs.span (· != '=')
    r.readLong (.ofList name) (if rest.isEmpty then none else some (.ofList (rest.drop 1)))
  -- A single hyphen on its own is no switch.
  | '-' :: c :: cs => r.readLetters (c :: cs)
  | _ => r.readPlain text

/-- All arguments. None may follow two hyphens that stand alone. -/
def readAll (r : Reading) : List String → Except Halt Arguments
  | [] => r.settle
  | "--" :: [] => r.settle
  | "--" :: text :: _ => .error (.fault (.unexpectedArgument text))
  | text :: rest => do
    let r ← r.readArgument text
    r.readAll rest

end Reading

/-- What the arguments of a call ask for. -/
def Arguments.ofList (texts : List String) : Except Halt Arguments :=
  Reading.readAll ⟨.blank, none⟩ texts

end TrafficMap
