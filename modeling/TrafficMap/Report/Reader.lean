import TrafficMap.Json.Typed
import TrafficMap.Report.Entry

/-!
# Reading Reports

A report is a JSON object with the list of links under `links` or `edges` and, if present, `nodes`,
`timestamp` and `source`; or the list of these four. The top level is strict: the list of links is
required, and none of the four may occur twice. Below it reading is lenient.

There are two ways in: from the bytes of a document, reading from left to right so that the first
fault counts, and from a parsed document. Both gather the fields in a `Draft`.
-/

namespace TrafficMap.Report

open Json (Value Fault Reader RecordField RecordType)

/-! ## Fields -/

inductive Field where
  | services
  | links
  | timestamp
  | source
deriving Repr, DecidableEq

namespace Field

/-- The field that a key means. -/
def ofKey? (key : String) : Option Field :=
  if key = "nodes" then some .services
  else if key = "links" ∨ key = "edges" then some .links
  else if key = "timestamp" then some .timestamp
  else if key = "source" then some .source
  else none

/-- How messages call the field. -/
def name : Field → String
  | .services => "nodes"
  | .links => "links"
  | .timestamp => "timestamp"
  | .source => "source"

end Field

/-- The fields of a report that have been read; each may have been absent so far. That a field was
absent is told apart from a value that says nothing, since a field may come only once. -/
structure Draft where
  services : Option (Option (List (ReportedService Float32)))
  links : Option (List (ReportedLink Float))
  timestamp : Option (Option Moment)
  source : Option (Option String)

namespace Draft

def empty : Draft := ⟨none, none, none, none⟩

def has (d : Draft) : Field → Bool
  | .services => d.services.isSome
  | .links => d.links.isSome
  | .timestamp => d.timestamp.isSome
  | .source => d.source.isSome

/-- Metadata, in order, without the entries that cannot be read; absent when the value is no
list. -/
def servicesOf : Value → Option (List (ReportedService Float32))
  | .array items => some (items.filterMap ReportedService.ofValue?)
  | _ => none

/-- Takes the links from the elements of their list. -/
def putLinks (d : Draft) (items : List Value) : Draft :=
  { d with links := some (items.map ReportedLink.ofValue) }

/-- Takes a field other than the links from its value. -/
def put (d : Draft) (f : Field) (v : Value) : Draft :=
  match f with
  | .services => { d with services := some (servicesOf v) }
  | .timestamp => { d with timestamp := some v.moment? }
  | .source => { d with source := some v.text? }
  | .links => d

/-- The report with the fields that have been read. The links are required. -/
def finish (d : Draft) : Except Fault (Report Float32 Float) :=
  match d.links with
  | none => .error (.missingField Field.links.name)
  | some links =>
    .ok
      { services := d.services.getD none
        links
        timestamp := d.timestamp.getD none
        source := d.source.getD none }

end Draft

/-! ## From a parsed document -/

/-- What stands in the place of a list. -/
def notAList (v : Value) : Fault := .invalidType (.ofValue v) "a sequence"

def addMember (d : Draft) (key : String) (v : Value) : Except Fault Draft :=
  match Field.ofKey? key with
  | none => .ok d
  | some f =>
    if d.has f then .error (.duplicateField f.name)
    else
      match f, v with
      | .links, .array items => .ok (d.putLinks items)
      -- Of all fields only the links have to be of their type.
      | .links, v => .error (notAList v)
      | f, v => .ok (d.put f v)

def addMembers (d : Draft) : List (String × Value) → Except Fault Draft
  | [] => .ok d
  | (key, v) :: rest =>
    match addMember d key v with
    | .ok d => addMembers d rest
    | .error e => .error e

/-- The length that a list of fields lacks. -/
def tooShort (n : Nat) : Fault := .invalidLength n "struct RawSnapshot with 4 elements"

/-- The report in a list of its fields. -/
def ofItems (items : List Value) : Except Fault (Report Float32 Float) :=
  match items with
  | services :: .array links :: rest =>
    if 2 < rest.length then .error .trailingCharacters
    else
      (Draft.empty.put .services services |>.putLinks links).finish.map fun r =>
        { r with timestamp := (rest[0]?).bind (·.moment?), source := (rest[1]?).bind (·.text?) }
  | _ :: v :: _ => .error (notAList v)
  | _ => .error (tooShort 1)

/-- The report in a parsed document. An object is read by its keys, and a list by the places of its
elements. -/
def ofValue : Value → Except Fault (Report Float32 Float)
  | .object members => (addMembers Draft.empty members).bind (·.finish)
  | .array items => ofItems items
  | v => .error (.invalidType (.ofValue v) "struct RawSnapshot")

/-! ## From bytes -/

/-- Depth left for the values of fields. -/
def fieldDepth : Nat := Json.depthLimit - 1

/-- Reads the value of a field that is not yet in the draft. -/
def fieldReader (f : Field) (d : Draft) : Reader Draft :=
  match f with
  | .links => (Json.listReader (Json.value (fieldDepth - 1))).map d.putLinks
  | f => Reader.map (d.put f) (Json.value fieldDepth)

def recordField (f : Field) (keys : List String) : RecordField Draft where
  keys := keys
  required := f = .links
  isSet d := d.has f
  reader := fieldReader f

def recordType : RecordType Draft where
  title := "struct RawSnapshot"
  fields :=
    [recordField .services ["nodes"],
     recordField .links ["links", "edges"],
     recordField .timestamp ["timestamp"],
     recordField .source ["source"]]

/-- The report in the bytes of a document. It is read as it comes, without a parsed document in
between; behind an unknown key a value is passed over. -/
def ofBytes (bytes : List UInt8) : Except Fault (Report Float32 Float) :=
  Json.document (recordType.reader Draft.empty Draft.finish) bytes

end TrafficMap.Report
