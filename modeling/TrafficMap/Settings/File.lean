import TrafficMap.Endpoint.Problem
import TrafficMap.Json5.Typed
import TrafficMap.Settings.Reader

/-!
# Configuration Files

Settings from a file or from a text, with the problems that can occur on the way.
-/

namespace TrafficMap

open Json5 (Fault Node)

/-- Why the content of a file is not there. -/
inductive FileFault where
  | missing
  | directory
  | parentNotDirectory
  | denied
  | nameTooLong
  | notText
deriving Repr, DecidableEq

/-- The wording of a file fault. -/
def FileFault.message : FileFault → String
  | .missing => "No such file or directory (os error 2)"
  | .directory => "Is a directory (os error 21)"
  | .parentNotDirectory => "Not a directory (os error 20)"
  | .denied => "Permission denied (os error 13)"
  | .nameTooLong => "File name too long (os error 36)"
  | .notText => "stream did not contain valid UTF-8"

/-- The text of a file with the given bytes. -/
def textOfBytes (bytes : List UInt8) : Except FileFault String :=
  match String.fromUTF8? (ByteArray.mk bytes.toArray) with
  | some text => .ok text
  | none => .error .notText

/-- The values of a configuration text. -/
def parseSettings {α : Type} (f : Node → Except Fault α) (text : String) : Except Problem α :=
  match Json5.document f text with
  | .ok v => .ok v
  | .error fault => .error (.configuration ("Failed to parse config: " ++ fault.message))

/-- The values of a configuration file; `content` is what reading it gave. -/
def loadSettings {α : Type} (f : Node → Except Fault α) (path : String)
    (content : Except FileFault String) : Except Problem α :=
  match content with
  | .error fault =>
    .error (.configuration s!"Failed to read config file '{path}': {fault.message}")
  | .ok text =>
    match Json5.document f text with
    | .ok v => .ok v
    | .error fault =>
      .error (.configuration s!"Failed to parse config file '{path}': {fault.message}")

end TrafficMap
