/-!
# Terminal Controls

What is left of a text when the characters that control a terminal are removed: single controls,
except the ones that act as blanks, and whole sequences that begin with an escape. Some sequences
take up everything up to a sign that ends them. Behind a shown character, what follows is shown up
to the next control, which then counts as part of the sequence before it.
-/

namespace TrafficMap.Text

/-- Where a terminal stands in a text. -/
inductive TerminalState where
  /-- In no sequence. -/
  | plain
  /-- Behind an escape. -/
  | escape
  /-- Behind an escape and signs that only a further sign completes. -/
  | escapeOpen
  /-- In a control sequence, which a letter ends. -/
  | control
  /-- In a command for the system, which a bell ends. -/
  | command
  /-- In front of the body of a device control string. -/
  | deviceFront
  /-- In a string that only a terminator ends. -/
  | body
deriving Repr, BEq, DecidableEq

namespace TerminalState

/-- A control that acts as a blank. -/
def isBlankControl (c : Char) : Bool := c == '\t' || c == '\n' || c == '\x0c' || c == '\r'

def shows (s : TerminalState) (c : Char) : Bool :=
  match s with
  | .plain => isBlankControl c || (0x20 ≤ c.toNat && c != '\x7f')
  | .escape | .escapeOpen | .control => isBlankControl c
  | .command | .deviceFront | .body => false

/-- One of the bytes of a character is the terminator of strings. -/
def holdsTerminator (c : Char) : Bool :=
  0x80 ≤ c.toNat && (String.singleton c).toUTF8.toList.contains 0x9c

/-- The state behind a character that belongs to a sequence. -/
def next (s : TerminalState) (c : Char) : TerminalState :=
  let within (first last : Char) : Bool := first ≤ c && c ≤ last
  -- An escape begins a sequence wherever it stands, and these two cancel any.
  if c == '\x1b' then .escape
  else if c == '\x18' || c == '\x1a' then .plain
  else
    match s with
    | .plain => .plain
    | .escape =>
      if c == '[' then .control
      else if c == ']' then .command
      else if c == 'P' then .deviceFront
      else if c == 'X' || c == '^' || c == '_' then .body
      else if within ' ' '/' then .escapeOpen
      else if within '0' '~' then .plain
      else .escape
    | .escapeOpen => if within '0' '~' then .plain else .escapeOpen
    | .control => if within '@' '~' then .plain else .control
    | .command => if c == '\x07' then .plain else .command
    | .deviceFront => if c == ':' || within '@' '~' then .body else .deviceFront
    | .body => if holdsTerminator c then .plain else .body

/-- The characters that are shown, from a state on. `showing` holds behind a shown character. -/
def shown (s : TerminalState) (showing : Bool) : List Char → List Char
  | [] => []
  | c :: cs =>
    if (if showing then plain else s).shows c then
      c :: shown (if c.toNat < 0x80 then s else .plain) true cs
    else shown (s.next c) false cs

end TerminalState

/-- The text without the characters that control a terminal. -/
def withoutControls (s : String) : String :=
  String.ofList (TerminalState.plain.shown false s.toList)

end TrafficMap.Text
