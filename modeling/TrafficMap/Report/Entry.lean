import TrafficMap.Json.Basic
import TrafficMap.Report.Basic

/-!
# Entries of a Report

How the values of a parsed document are read as entries of a report. Reading is lenient: a field of
the wrong kind counts as missing, a link that cannot be read is a link without ends, and metadata
without an id are no metadata. An entry may also be written as the list of its fields in their fixed
order.
-/

namespace TrafficMap

open Json (Value Number)

/-! ## Fields -/

def Json.Number.toFloat32 : Number → Float32
  | .natural n => n.toFloat32
  | .negative n => float32OfInt64 n
  | .float x => narrow x

def Json.Number.toFloat : Number → Float
  | .natural n => n.toFloat
  | .negative n => floatOfInt64 n
  | .float x => x

namespace Json.Value

def text? : Value → Option String
  | .string s => some s
  | _ => none

def coordinate? : Value → Option Float32
  | .number n => some n.toFloat32
  | _ => none

def volume? : Value → Option Float
  | .number n => some n.toFloat
  | _ => none

/-- A point in time: a whole number of milliseconds when it fits a signed word, another number, or a
text. -/
def moment? : Value → Option Moment
  | .number (.natural n) =>
    match signedWord? n.toNat with
    | some ms => some (.millis ms)
    | none => some (.fractional n.toFloat)
  | .number (.negative n) => some (.millis n)
  | .number (.float x) => some (.fractional x)
  | .string s => some (.text s)
  | _ => none

end Json.Value

/-! ## Entries -/

/-- The value found for a field, whether by its key or by its place in a list. Entries are read from
these, so nothing depends on how an entry is written. -/
abbrev FieldValues := String → Nat → Option Value

def objectFields (members : List (String × Value)) : FieldValues :=
  fun key _ => Json.member? members key

def listFields (items : List Value) : FieldValues :=
  fun _ place => items[place]?

/-- Metadata with the given fields; the id is required. -/
def ReportedService.ofFields? (field : FieldValues) : Option (ReportedService Float32) := do
  -- Any other field that cannot be read counts as absent.
  let id ← (field "id" 0).bind (·.text?)
  some
    { id
      name := (field "name" 1).bind (·.text?)
      status := (field "status" 2).bind (·.text?)
      x := (field "x" 3).bind (·.coordinate?)
      y := (field "y" 4).bind (·.coordinate?)
      layer := (field "layer" 5).bind (·.text?) }

/-- Metadata as an entry of a document. -/
def ReportedService.ofValue? : Value → Option (ReportedService Float32)
  | .object members => ofFields? (objectFields members)
  | .array items => if items.length ≤ 6 then ofFields? (listFields items) else none
  | _ => none

/-- A link with the given fields. -/
def ReportedLink.ofFields (field : FieldValues) : ReportedLink Float where
  source := (field "source" 0).bind (·.text?)
  target := (field "target" 1).bind (·.text?)
  value := (field "value" 2).bind (·.volume?)
  kind := (field "type" 3).bind (·.text?)

/-- A link as an entry of a document. Every value is one, if only one of which nothing is known. -/
def ReportedLink.ofValue : Value → ReportedLink Float
  | .object members => ofFields (objectFields members)
  | .array items => if items.length ≤ 4 then ofFields (listFields items) else blank
  | _ => blank

end TrafficMap
