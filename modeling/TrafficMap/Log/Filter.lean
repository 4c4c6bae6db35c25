import TrafficMap.Log.Pattern
import TrafficMap.Log.Record
import TrafficMap.Number.Word

/-!
# Log Filters

Which records a log shows. A filter is a list of directives with commas between them. A directive
sets a level, possibly only for the targets that begin with a text: `info`, `app=debug`, or only
`app`, which shows everything. Brackets restrict a directive to spans of the program or to records
with a field, whose value may be compared with a number or a pattern. Of the directives that concern
a record, the most specific one decides, and of equally specific ones the last.
-/

namespace TrafficMap

/-! ## Levels -/

/-- A level by its number or its name in any letter case. -/
def Verbosity.ofText? (s : String) : Option Verbosity :=
  let levels := [Verbosity.off, .error, .warn, .info, .debug, .trace]
  match readWord s with
  | .ok n => levels[n.toNat]?
  | .error _ => levels.find? fun level => level.name == Text.lowered s

/-! ## Directives -/

/-- A field that a record or a span has to have. -/
structure FieldTest where
  name : String
  /-- The value that it has to have. -/
  value : Option String
deriving Repr, BEq, DecidableEq

/-- A part of a filter. -/
structure Directive where
  /-- What the targets begin with. -/
  target : Option String
  /-- The span inside which records count. -/
  span : Option String
  field : Option FieldTest
  verbosity : Verbosity
deriving Repr, BEq, DecidableEq

namespace Directive

/-- The directive concerns a record that stands in no span. -/
def concerns (d : Directive) (r : LogRecord) : Bool :=
  d.span.isNone &&
    d.target.all (fun front => front.toList.isPrefixOf r.target.toList) &&
    d.field.all (fun f => f.value.isNone && r.hasField f.name)

/-- A directive with the first number or text larger is more specific. -/
def specificity (d : Directive) : Nat × Nat × String :=
  (match d.target with
    | some t => t.utf8ByteSize + 1
    | none => 0,
   if d.field.isSome then 1 else 0,
   (d.field.map (·.name)).getD "")

/-- The first directive is more specific than the second. -/
def outranks (d e : Directive) : Bool :=
  let (t, f, name) := d.specificity
  let (t', f', name') := e.specificity
  t' < t || (t == t' && (f' < f || (f == f' && name' < name)))

/-! ## Reading a directive -/

/-- A target may begin with the character. -/
def isTargetStart (c : Char) : Bool :=
  c == '-' || c == ':' || c == '_' || Text.isAlphanumeric c

/-- A directive for everything at all. -/
def everything : Directive := ⟨none, none, none, .trace⟩

/-- A directive for everything from targets that begin with a text. -/
def everythingOf (target : String) : Directive := { everything with target := some target }

/-- The directive with the level that is written behind an equals sign; without one it shows
everything. -/
def withLevel? (d : Directive) (level : List Char) : Option Directive :=
  if level.isEmpty then some { d with verbosity := .trace }
  else (Verbosity.ofText? (.ofList level)).map fun verbosity => { d with verbosity }

/-- The directive, when nothing but blanks or a level follows the brackets. -/
def afterBrackets? (d : Directive) (rest : List Char) : Option Directive :=
  match rest with
  | '=' :: level => d.withLevel? level
  | rest => if rest.all Text.isBlank then some d else none

/-- The text without a sign in front. -/
def unsigned : List Char → List Char
  | '+' :: cs | '-' :: cs => cs
  | cs => cs

/-- The digits of a power of ten behind the letter `e`, or nothing. -/
def isPower : List Char → Bool
  | [] => true
  | c :: cs =>
    let digits := unsigned cs
    (c == 'e' || c == 'E') && !digits.isEmpty && digits.all Char.isDigit

/-- The text is a number in base 10, or a word for what is no finite number. -/
def isNumeric (cs : List Char) : Bool :=
  let cs := unsigned cs
  let (whole, rest) := cs.span Char.isDigit
  let (fraction, rest) :=
    match rest with
    | '.' :: rest => rest.span Char.isDigit
    | rest => ([], rest)
  ["inf", "infinity", "nan"].contains (Text.lowered (.ofList cs)) ||
    (!(whole ++ fraction).isEmpty && isPower rest)

/-- A field, with its value behind an equals sign. The value is a number or a pattern. -/
def fieldTest? (cs : List Char) : Option FieldTest :=
  match cs.span (· != '=') with
  | (name, []) => some ⟨.ofList name, none⟩
  | (name, _ :: rest) =>
    let value := rest.takeWhile (· != '=')
    if isNumeric value || Pattern.isPattern (.ofList value) then
      some ⟨.ofList name, some (.ofList value)⟩
    else none

/-- The directive with what stands behind an opening bracket. -/
def inBrackets? (d : Directive) (cs : List Char) : Option Directive :=
  match cs.span (fun c => c != ']' && c != '\x7b') with
  | (name, ']' :: rest) => { d with span := some (.ofList name) }.afterBrackets? rest
  | (name, '\x7b' :: rest) =>
    let span := if name.isEmpty then none else some (String.ofList name)
    match rest.span (· != '\x7d') with
    -- Braces hold one field.
    | (c :: cs, '\x7d' :: ']' :: after) =>
      (fieldTest? (c :: cs)).bind fun field =>
        { d with span, field := some field }.afterBrackets? after
    | _ => none
  | _ => none

/-- A directive that begins with a target, a level or a bracket. -/
def ofChars? (cs : List Char) : Option Directive :=
  match cs with
  | [] => none
  | '[' :: rest => everything.inBrackets? rest
  | c :: _ =>
    if !isTargetStart c then none
    else
      match cs.span (fun c => c != '=' && c != '[') with
      | (target, '=' :: level) => (everythingOf (.ofList target)).withLevel? level
      | (target, '[' :: rest) => (everythingOf (.ofList target)).inBrackets? rest
      -- A word alone is a level if it can be read as one, and a target otherwise.
      | (word, _) =>
        match Verbosity.ofText? (.ofList word) with
        | some verbosity => some { everything with verbosity }
        | none => some (everythingOf (.ofList word))

/-- A directive. One that begins with a blank cannot set a level, and no target begins as it
does. -/
def ofText? (s : String) : Option Directive :=
  let cs := s.toList
  if cs.head?.any Text.isBlank then
    match ofChars? (cs.dropWhile Text.isBlank) with
    | some _ => if cs.contains '=' then none else some (everythingOf s)
    | none => none
  else ofChars? cs

end Directive

/-! ## Filters -/

/-- The parts of a filter. -/
abbrev LogFilter := List Directive

namespace LogFilter

def pieces (s : String) : List String :=
  (Text.splitList (· == ',') s.toList).map String.ofList

def ofText? (s : String) : Option LogFilter :=
  (pieces s).mapM Directive.ofText?

/-- A filter of the directives that can be read; without any, only errors are shown. -/
def ofReadable (s : String) : LogFilter :=
  match (pieces s).filterMap Directive.ofText? with
  | [] => [{ Directive.everything with verbosity := .error }]
  | directives => directives

/-- The directive that decides about a record. -/
def decisive? (f : LogFilter) (r : LogRecord) : Option Directive :=
  (f.filter (·.concerns r)).foldl
    (fun best d =>
      match best with
      -- Of two that are equally specific the later one stays.
      | some b => if b.outranks d then best else some d
      | none => some d)
    none

def shows (f : LogFilter) (r : LogRecord) : Bool :=
  match f.decisive? r with
  | some d => r.level.rank ≤ d.verbosity.rank
  | none => false

end LogFilter

end TrafficMap
