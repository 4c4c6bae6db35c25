import TrafficMap.Number.Word
import TrafficMap.Text.Alphanumeric
import TrafficMap.Text.Blank

/-!
# Patterns

Which texts are patterns that a text can be compared with: alternatives of items with classes,
groups and signs for repetition. A group may have a name, and a group or a place in it may change
the mode in which the items behind it are understood. Braces and commas stand for other things where
patterns are used, so there is no repetition with a count.
-/

namespace TrafficMap.Pattern

/-! ## Items

The single characters of a pattern, and the escapes with which it names a character, a class of
characters or a place in a text. A reader yields what stands at the front of the characters that it
is given, and the characters behind it.
-/

/-- How a part of a pattern is understood. -/
structure Mode where
  /-- Characters of all scripts count, not only those of ASCII. -/
  anyScript : Bool
  /-- Capital and small letters are the same. -/
  ignoresCase : Bool
  /-- Blanks and comments may stand between the items. -/
  spaced : Bool
deriving Repr, BEq, DecidableEq

/-- The mode at the beginning of a pattern. -/
def Mode.initial : Mode := ⟨true, false, false⟩

inductive Item where
  | char (c : Char)
  /-- The byte with a number of two digits. -/
  | byte (n : Nat)
  /-- A class with a letter of its own. -/
  | shortClass (negated : Bool)
  /-- The begin or the end of a word, or a place that is neither. -/
  | wordEdge
  /-- The begin or the end of the text. -/
  | textEdge
deriving Repr, BEq, DecidableEq

namespace Item

/-- The code point of an item that stands for one character. -/
def codePoint? : Item → Option Nat
  | .char c => some c.toNat
  | .byte n => some n
  | _ => none

/-- The item can be used between others. Letter case, classes and words are only known for ASCII, so
whatever refers to them has to be confined to it. There a byte has to be a character. -/
def fits (m : Mode) : Item → Bool
  | .char _ => !(m.anyScript && m.ignoresCase)
  | .byte n => if m.anyScript then !m.ignoresCase else n < 0x80
  | .shortClass negated => !m.anyScript && !negated
  | .wordEdge => !m.anyScript
  | .textEdge => true

/-- The item can be used in a class. -/
def fitsClass (m : Mode) (item : Item) : Bool :=
  match item with
  | .char c => m.anyScript || c.toNat < 0x80
  | .byte n => m.anyScript || n < 0x80
  | .shortClass negated => !m.anyScript && !negated
  | .wordEdge | .textEdge => false

/-! ### Reading -/

/-- A character given by a number of `count` digits of base 16. -/
def numbered? (count : Nat) (cs : List Char) : Option (Item × List Char) :=
  let digits := cs.take count
  match Text.numberIn? 16 digits with
  | none => none
  | some n =>
    if digits.length < count || !decide n.isValidChar then none
    else some (if count = 2 then .byte n else .char (.ofNat n), cs.drop count)

/-- The character may be escaped to stand for itself. -/
def isEscapable (c : Char) : Bool :=
  c.toNat < 0x80 && !c.isAlphanum && c != '<' && c != '>'

/-- The item behind a backslash. -/
def escape? : List Char → Option (Item × List Char)
  | [] => none
  | 'x' :: cs => numbered? 2 cs
  | 'u' :: cs => numbered? 4 cs
  | 'U' :: cs => numbered? 8 cs
  | c :: cs =>
    let item? : Option Item :=
      if "dsw".toList.contains c then some (.shortClass false)
      else if "DSW".toList.contains c then some (.shortClass true)
      else if "bB<>".toList.contains c then some .wordEdge
      else if "Az".toList.contains c then some .textEdge
      else if "aftnrv".toList.contains c || isEscapable c then some (.char c)
      else none
    item?.map fun item => (item, cs)

/-- An item, escaped or not. -/
def ofChars? : List Char → Option (Item × List Char)
  | [] => none
  | '\\' :: cs => escape? cs
  | c :: cs => some (.char c, cs)

end Item

/-! ## Classes in brackets

A class of characters between brackets holds characters, ranges, named classes and further classes
in brackets, possibly joined by the signs for intersection and difference. A class may be negated.
-/

def classNames : List String :=
  ["alnum", "alpha", "ascii", "blank", "cntrl", "digit", "graph", "lower", "print", "punct",
   "space", "upper", "word", "xdigit"]

/-- A named class behind its opening bracket: whether it is negated, and what follows it. -/
def namedClass? : List Char → Option (Bool × List Char)
  | ':' :: cs =>
    let negated := cs.head? == some '^'
    let cs := if negated then cs.drop 1 else cs
    match cs.span (· != ':') with
    | (name, ':' :: ']' :: rest) =>
      if classNames.contains (.ofList name) then some (negated, rest) else none
    | _ => none
  | _ => none

/-- What follows the hyphens at the begin of a class, or the closing bracket, which stand for
themselves there. -/
def afterFront (cs : List Char) : List Char :=
  match cs with
  | ']' :: rest => rest
  | cs => cs.dropWhile (· == '-')

/-- The begin of a class behind its opening bracket: whether it is negated, and what follows. -/
def classFront : List Char → Bool × List Char
  | '^' :: cs => (true, afterFront cs)
  | cs => (false, afterFront cs)

/-- What follows an item of a class or a range of characters. -/
def afterRange? (m : Mode) (cs : List Char) : Option (List Char) :=
  match Item.ofChars? cs with
  | none => none
  | some (first, rest) =>
    if !first.fitsClass m then none
    else
      match rest with
      | '-' :: rest' =>
        -- In front of a bracket or another hyphen, a hyphen is no sign for a range.
        if rest'.head? == some ']' || rest'.head? == some '-' then some rest
        else
          match Item.ofChars? rest' with
          | none => none
          | some (last, rest) =>
            match first.codePoint?, last.codePoint? with
            | some a, some b => if last.fitsClass m && a ≤ b then some rest else none
            | _, _ => none
      | rest => some rest

/-- What follows one step through a class of which `depth` brackets are open, and how many are open
behind it. -/
def classStep? (m : Mode) (depth : Nat) (cs : List Char) : Option (Nat × List Char) :=
  match cs with
  | [] => none
  | ']' :: rest => some (depth - 1, rest)
  | '[' :: rest =>
    match namedClass? rest with
    | some (negated, rest) => if negated && !m.anyScript then none else some (depth, rest)
    | none =>
      let (negated, rest) := classFront rest
      if negated && !m.anyScript then none else some (depth + 1, rest)
  -- Operators between classes; which characters are left does not matter here.
  | '&' :: '&' :: rest | '-' :: '-' :: rest | '~' :: '~' :: rest => some (depth, rest)
  | c :: rest =>
    if m.spaced && Text.isBlank c then some (depth, rest)
    else (afterRange? m (c :: rest)).map (depth, ·)

/-- What follows a class of which `depth` brackets are open. -/
def afterClass? (m : Mode) (depth : Nat) (cs : List Char) : Option (List Char) :=
  if depth = 0 then some cs
  else
    match classStep? m depth cs with
    | none => none
    | some (depth, rest) =>
      if rest.length < cs.length then afterClass? m depth rest else none
termination_by cs.length

/-- What follows a class behind its opening bracket. -/
def bracket? (m : Mode) (cs : List Char) : Option (List Char) :=
  -- Letters of all scripts cannot be compared without regard to case.
  if m.anyScript && m.ignoresCase then none
  else
    let (negated, rest) := classFront cs
    if negated && !m.anyScript then none else afterClass? m 1 rest

/-! ## Modes -/

/-- Letters that change the mode, and letters without a meaning here. -/
def modeLetters : List Char := "imsURux".toList

/-- The letters in front of a colon or a closing parenthesis; behind a hyphen they turn a mode off.
Each letter occurs once. -/
def areModes (letters : List Char) : Bool :=
  letters.all (fun c => c == '-' || modeLetters.contains c) && decide letters.Nodup &&
    letters.getLast? != some '-'

/-- The mode that letters leave. -/
def Mode.changed (m : Mode) (letters : List Char) : Mode :=
  let (on, off) := letters.span (· != '-')
  let set (c : Char) (before : Bool) : Bool := (before || on.contains c) && !off.contains c
  { anyScript := set 'u' m.anyScript
    ignoresCase := set 'i' m.ignoresCase
    spaced := set 'x' m.spaced }

/-! ## Groups -/

/-- What stands behind an opening parenthesis. -/
inductive GroupFront where
  /-- A group, perhaps with a name. -/
  | group (name : Option String)
  /-- A group with a mode of its own. -/
  | groupIn (letters : List Char)
  /-- No group, but a change of the mode. -/
  | change (letters : List Char)

/-- The text can be the name of a group. -/
def isGroupName (name : List Char) : Bool :=
  match name with
  | [] => false
  | c :: cs =>
    (c == '_' || Text.isAlphabetic c) &&
      cs.all fun c => "_.[]".toList.contains c || Text.isAlphanumeric c

/-- A group with a name that ends at an angle bracket. -/
def namedGroup? (cs : List Char) : Option (GroupFront × List Char) :=
  match cs.span (· != '>') with
  | (name, '>' :: rest) =>
    if isGroupName name then some (.group (some (.ofList name)), rest) else none
  | _ => none

/-- What stands behind an opening parenthesis, and what follows it. -/
def groupFront? : List Char → Option (GroupFront × List Char)
  | '?' :: 'P' :: '<' :: cs => namedGroup? cs
  | '?' :: '<' :: cs => namedGroup? cs
  | '?' :: cs =>
    let (letters, rest) := cs.span fun c => c != ':' && c != ')'
    if !areModes letters then none
    else
      match rest with
      | ':' :: rest => some (.groupIn letters, rest)
      | ')' :: rest => if letters.isEmpty then none else some (.change letters, rest)
      | _ => none
  | cs => some (.group none, cs)

/-! ## Whole patterns -/

/-- Where reading stands in a pattern. -/
structure Place where
  mode : Mode
  /-- The modes around the open groups, the innermost first. -/
  outer : List Mode
  /-- What stands before can be repeated. -/
  repeatable : Bool
  /-- The names of the groups. -/
  names : List String

namespace Place

/-- Behind something that can be repeated. -/
def behindItem (p : Place) : Place := { p with repeatable := true }

/-- A group with a mode begins. -/
def inGroup (p : Place) (m : Mode) : Place :=
  { p with mode := m, outer := p.mode :: p.outer, repeatable := false }

/-- The place behind an opening parenthesis and what belongs to it. -/
def opened? (p : Place) (cs : List Char) : Option (Place × List Char) :=
  match groupFront? cs with
  | none => none
  | some (.group none, rest) => some (p.inGroup p.mode, rest)
  | some (.group (some name), rest) =>
    if p.names.contains name then none
    else some ({ p.inGroup p.mode with names := name :: p.names }, rest)
  | some (.groupIn letters, rest) => some (p.inGroup (p.mode.changed letters), rest)
  | some (.change letters, rest) =>
    some ({ p with mode := p.mode.changed letters, repeatable := false }, rest)

/-- The place behind the next item. -/
def step? (p : Place) (cs : List Char) : Option (Place × List Char) :=
  match cs with
  | [] => none
  | '(' :: rest => p.opened? rest
  | ')' :: rest =>
    match p.outer with
    | [] => none
    | m :: outer => some ({ p with mode := m, outer := outer, repeatable := true }, rest)
  | '|' :: rest => some ({ p with repeatable := false }, rest)
  | '[' :: rest => (bracket? p.mode rest).map (p.behindItem, ·)
  | '*' :: rest | '+' :: rest | '?' :: rest => if p.repeatable then some (p, rest) else none
  | '\x7b' :: _ => none
  | '^' :: rest | '$' :: rest => some (p.behindItem, rest)
  -- Outside of all scripts a point would stand for bytes that are no characters.
  | '.' :: rest => if p.mode.anyScript then some (p.behindItem, rest) else none
  | c :: rest =>
    if p.mode.spaced && Text.isBlank c then some (p, rest)
    else if p.mode.spaced && c == '#' then some (p, rest.dropWhile (· != '\n'))
    else
      match Item.ofChars? cs with
      | some (item, rest) => if item.fits p.mode then some (p.behindItem, rest) else none
      | none => none

/-- The rest of a pattern is well formed. -/
def ends (p : Place) (cs : List Char) : Bool :=
  if cs.isEmpty then p.outer.isEmpty
  else
    match p.step? cs with
    | none => false
    | some (p, rest) => if rest.length < cs.length then ends p rest else false
termination_by cs.length

end Place

def isPattern (s : String) : Bool := Place.ends ⟨.initial, [], false, []⟩ s.toList

end TrafficMap.Pattern
