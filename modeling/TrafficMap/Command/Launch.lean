import TrafficMap.Command.Arguments
import TrafficMap.Json.Printer
import TrafficMap.Log.Filter
import TrafficMap.Settings.Check
import TrafficMap.Settings.File

/-!
# Launch

From the arguments of a call to a program that is ready to run: the configuration is read, arguments
override it, the result is checked, and the log tells about it.
-/

namespace TrafficMap

/-! ## The configuration file -/

/-- A configuration file, and what reading it gave. -/
structure ConfigFile where
  path : String
  content : Except FileFault String

/-- The file, unless there is none. -/
def ConfigFile.present? (file : ConfigFile) : Option ConfigFile :=
  match file.content with
  | .error .missing | .error .parentNotDirectory => none
  | _ => some file

/-- The directory of configurations: the one that the environment names by an absolute path, or else
the usual one in the home directory. -/
def configDirectory? (named home : Option String) : Option String :=
  match named.filter (·.startsWith "/") with
  | some directory => some directory
  | none => (home.filter (!·.isEmpty)).map (· ++ "/.config")

/-- Where the configuration is when no argument tells. -/
def standardPath (directory : String) : String := directory ++ "/trafficscope/config.json5"

/-! ## Faults -/

/-- Why the program cannot start. -/
inductive StartFault where
  | loading (path : String) (cause : Problem)
  | invalid (cause : Problem)
deriving Repr, DecidableEq

namespace StartFault

/-- What was being done. -/
def context : StartFault → String
  | .loading path _ => "Failed to load config from " ++ Text.quoted path
  | .invalid _ => "Invalid configuration"

/-- What went wrong. -/
def cause : StartFault → Problem
  | .loading _ cause | .invalid cause => cause

/-- The text with four blanks before every line. -/
def indented (s : String) : String :=
  "    " ++ String.ofList (s.toList.flatMap fun c => if c = '\n' then "\n    ".toList else [c])

def report (f : StartFault) : String :=
  s!"Error: {f.context}\n\nCaused by:\n{indented f.cause.message}\n"

end StartFault

/-! ## Settings -/

namespace Arguments

/-- The settings with what the arguments override. -/
def override (a : Arguments) (s : Settings) : Settings :=
  { s with
    endpoint := { s.endpoint with url := a.endpoint.getD s.endpoint.url }
    poll := { s.poll with intervalMs := a.intervalMs.getD s.poll.intervalMs }
    logging := { s.logging with level := a.logLevel.getD s.logging.level } }

/-- The settings of a call, once they have been checked. -/
def settings (a : Arguments) (file : Option ConfigFile) : Except StartFault Settings := do
  let loaded ←
    match file with
    | none => .ok Settings.default
    | some file =>
      (loadSettings Settings.ofNode file.path file.content).mapError (.loading file.path)
  let settings := a.override loaded
  -- What the arguments replace is not checked, only what they replace it with.
  settings.check.mapError .invalid
  .ok settings

end Arguments

/-! ## The log -/

/-- The filter that the environment asks for, if it can be read, and otherwise the configured
one. -/
def LogSettings.filter (s : LogSettings) (environment : Option String) : LogFilter :=
  (environment.bind LogFilter.ofText?).getD (.ofReadable s.level)

/-- What the log tells about the configuration. -/
def loadedRecord (path : Option String) (services : Nat) (demo : Bool) : LogRecord where
  level := .info
  target := "trafficscope"
  message := "Loaded configuration"
  fields :=
    [("config", .text (match path with
        | some path => "Some(" ++ Text.quoted path ++ ")"
        | none => "None")),
     ("services", .count services),
     ("demo", .flag demo)]

/-- What the log tells about the endpoint. -/
def clientRecord (s : EndpointSettings) (services : Nat) : LogRecord where
  level := .info
  target := "trafficscope_common::client"
  message := "Created snapshot client"
  fields :=
    [("url", .text s.url),
     ("timeout_ms", .count s.timeoutMs.toNat),
     ("services", .count services)]

/-! ## Starting -/

/-- A program that is ready to run. -/
structure Start where
  settings : Settings
  /-- Traffic is simulated. -/
  demo : Bool
  /-- What the log shows until then. -/
  log : List LogRecord
deriving Repr

/-- The lines of the log in the configured form. -/
def Start.lines (s : Start) : List String :=
  s.log.map fun r =>
    match s.settings.logging.format with
    | .text => r.line
    | .json => r.toValue.text

/-- Starts with the given arguments; `environment` is the filter that the environment asks for. -/
def Arguments.start (a : Arguments) (file : Option ConfigFile) (environment : Option String) :
    Except StartFault Start := do
  let settings ← a.settings file
  let services := settings.layout.registry.size
  let loaded := loadedRecord (file.map (·.path)) services a.demo
  let records := if a.demo then [loaded] else [loaded, clientRecord settings.endpoint services]
  .ok ⟨settings, a.demo, records.filter (settings.logging.filter environment).shows⟩

end TrafficMap
