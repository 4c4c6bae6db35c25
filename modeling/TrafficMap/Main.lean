import TrafficMap.Command.Launch

/-!
# Command Line

Reads the arguments, the environment and the configuration file, and prints what a start has to say.
A map is drawn by a canvas that a host program provides, and this one has none.
-/

namespace TrafficMap

/-- The environment variable that holds a filter for the log. -/
def filterVariable : String := "RUST_LOG"

/-- The fault behind a failure to read a file. -/
def fileFaultOf : IO.Error → FileFault
  | .inappropriateType _ code _ => if code = 21 then .directory else .parentNotDirectory
  | .permissionDenied .. => .denied
  | .invalidArgument .. => .nameTooLong
  | _ => .missing

def readConfig (path : String) : IO ConfigFile := do
  try
    let bytes ← IO.FS.readBinFile path
    return ⟨path, textOfBytes bytes.toList⟩
  catch e =>
    return ⟨path, .error (fileFaultOf e)⟩

/-- The configuration file that a call uses. -/
def findConfig (a : Arguments) : IO (Option ConfigFile) := do
  match a.config with
  | some path => return some (← readConfig path)
  | none =>
    let directory := configDirectory? (← IO.getEnv "XDG_CONFIG_HOME") (← IO.getEnv "HOME")
    match directory with
    | some directory => return (← readConfig (standardPath directory)).present?
    | none => return none

end TrafficMap

open TrafficMap in
/-- The program. -/
def main (texts : List String) : IO UInt32 := do
  match Arguments.ofList texts with
  | .error .help =>
    IO.print Switch.helpText
    return 0
  | .error (.fault f) =>
    IO.eprint f.report
    return 2
  | .ok arguments =>
    match arguments.start (← findConfig arguments) (← IO.getEnv filterVariable) with
    | .error f =>
      IO.eprint f.report
      return 1
    | .ok start =>
      start.lines.forM IO.println
      IO.eprintln "Error: Application error: no display"
      return 1
