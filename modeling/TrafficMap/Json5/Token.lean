import TrafficMap.Json5.Basic
import TrafficMap.Number.Word
import TrafficMap.Text.Category
import TrafficMap.Text.Parsed

/-!
# JSON5 Tokens

Blanks and comments, strings, names and numbers of a JSON5 document. A token that is not well formed
has no reading.
-/

namespace TrafficMap.Json5

open Text (Runs category)

/-! ## Characters of names

A name begins with a letter, a dollar sign or a low line. Behind its first character it may also
hold marks, digits, connectors, the two joiners of zero width, and signs that modify a letter.
-/

/-- Letters that have no category yet. -/
def newLetters : Runs := [(0x58b, 0x58b), (0xa7dd, 0xa7dd), (0x1d6a6, 0x1d6a6)]

/-- Signs that modify a letter, besides marks and letters. -/
def diacritics : Runs :=
  [(0x5e, 0x5e), (0x60, 0x60), (0xa8, 0xa8), (0xaf, 0xaf), (0xb4, 0xb4), (0xb7, 0xb8),
   (0x2c2, 0x2c5), (0x2d2, 0x2df), (0x2e5, 0x2eb), (0x2ed, 0x2ed), (0x2ef, 0x2ff), (0x375, 0x375),
   (0x384, 0x385), (0xf3e, 0xf3f), (0x1063, 0x1064), (0x1069, 0x106d), (0x1087, 0x108c),
   (0x108f, 0x108f), (0x109a, 0x109b), (0x1715, 0x1715), (0x1734, 0x1734), (0x1abe, 0x1abe),
   (0x1b44, 0x1b44), (0x1baa, 0x1baa), (0x1bf2, 0x1bf3), (0x1cd3, 0x1cd3), (0x1ce1, 0x1ce1),
   (0x1cf7, 0x1cf7), (0x1fbd, 0x1fbd), (0x1fbf, 0x1fc1), (0x1fcd, 0x1fcf), (0x1fdd, 0x1fdf),
   (0x1fed, 0x1fef), (0x1ffd, 0x1ffe), (0x302e, 0x302f), (0x309b, 0x309c), (0xa700, 0xa716),
   (0xa720, 0xa721), (0xa789, 0xa78a), (0xa92e, 0xa92e), (0xa953, 0xa953), (0xa9c0, 0xa9c0),
   (0xaa7b, 0xaa7b), (0xaa7d, 0xaa7d), (0xab5b, 0xab5b), (0xab6a, 0xab6b), (0xabec, 0xabec),
   (0xff3e, 0xff3e), (0xff40, 0xff40), (0xffe3, 0xffe3), (0x111c0, 0x111c0), (0x11235, 0x11235),
   (0x1134d, 0x1134d), (0x113cf, 0x113cf), (0x116b6, 0x116b6), (0x1193d, 0x1193d),
   (0x11f41, 0x11f41), (0x16ff0, 0x16ff1), (0x1d16d, 0x1d172)]

def isNameStart (c : Char) : Bool :=
  c == '$' || c == '_' || category c == .letter || newLetters.has c

def isNamePart (c : Char) : Bool :=
  isNameStart c || c == '\u200C' || c == '\u200D' ||
    match category c with
    | .mark | .digit | .connector => true
    | _ => diacritics.has c

/-! ## Readers -/

/-- A function that reads the front of a document, or fails. -/
abbrev Reader (α : Type) := (s : List Char) → Option (Parsed α s)

/-! ## Blanks and comments -/

def isLineEnd (c : Char) : Bool :=
  c == '\n' || c == '\r' || c == '\u2028' || c == '\u2029'

/-- The characters that may stand between tokens. -/
def isBlank (c : Char) : Bool :=
  let n := c.toNat
  n == 0x09 || n == 0x0B || n == 0x0C || n == 0x20 || n == 0xA0 || n == 0xFEFF || n == 0x1680 ||
    (0x2000 ≤ n && n ≤ 0x200A) || n == 0x202F || n == 0x205F || n == 0x3000 || isLineEnd c

/-- What follows the end of a block comment. -/
def afterBlock : List Char → Option (List Char)
  | [] => none
  | '*' :: '/' :: s => some s
  | _ :: s => afterBlock s

/-- What follows the end of a line comment. -/
def afterLine (s : List Char) : List Char := s.dropWhile (!isLineEnd ·)

theorem length_afterBlock_le {s r : List Char} (h : afterBlock s = some r) :
    r.length ≤ s.length := by
  fun_induction afterBlock s with
  | case1 => simp at h
  | case2 s => simp only [Option.some.injEq] at h; subst h; simp only [List.length_cons]; omega
  | case3 c s _ ih => exact Nat.le_succ_of_le (ih h)

theorem length_dropWhile_le (p : Char → Bool) (s : List Char) :
    (s.dropWhile p).length ≤ s.length := by
  induction s with
  | nil => exact Nat.le_refl _
  | cons c s ih =>
    rw [List.dropWhile_cons]
    split
    · exact Nat.le_succ_of_le ih
    · exact Nat.le_refl _

/-- The document from its next token on. A comment that does not end is no comment. -/
def skipBlanks (s : List Char) : List Char :=
  match s with
  | [] => []
  | '/' :: '/' :: r =>
    have := length_dropWhile_le (!isLineEnd ·) r
    skipBlanks (afterLine r)
  | '/' :: '*' :: r =>
    match h : afterBlock r with
    | some q =>
      have := length_afterBlock_le h
      skipBlanks q
    | none => '/' :: '*' :: r
  | c :: r => if isBlank c then skipBlanks r else c :: r
termination_by s.length
decreasing_by all_goals simp only [afterLine, List.length_cons]; omega

theorem length_skipBlanks_le (s : List Char) : (skipBlanks s).length ≤ s.length := by
  fun_induction skipBlanks s with
  | case1 => exact Nat.le_refl _
  | case2 r h ih =>
    simp only [afterLine, List.length_cons] at ih ⊢; omega
  | case3 r q h hq ih => simp only [List.length_cons]; omega
  | case4 => exact Nat.le_refl _
  | case5 c r _ _ h ih => exact Nat.le_succ_of_le ih
  | case6 => exact Nat.le_refl _

theorem length_lt_of_skipBlanks {s r : List Char} {c : Char} (h : skipBlanks s = c :: r) :
    r.length < s.length := by
  have := length_skipBlanks_le s
  rw [h] at this
  exact this

/-! ## Escapes -/

def isHexDigit (c : Char) : Bool := (Text.digitIn? 16 c).isSome

/-- Exactly `n` digits of base 16, and what follows them. -/
def hexDigits? : (n : Nat) → (s : List Char) → Option (List Char × Rest s)
  | 0, s => some ([], .whole s)
  | _ + 1, [] => none
  | n + 1, c :: s =>
    if isHexDigit c then
      (hexDigits? n s).map fun (ds, q) => (c :: ds, q.behind)
    else none

/-- The letter of an escape with a meaning of its own, or a character that an escape may not begin
with. -/
def isEscapeDigitOrMark (c : Char) : Bool := c.isDigit || c == 'x' || c == 'u'

/-- The piece behind a backslash; a line may be continued behind one, which adds nothing. -/
def escape : (s : List Char) → Option (List Piece × Skipped s)
  | [] => none
  -- A line that ends with two characters is continued behind both.
  | '\r' :: '\n' :: r => some ([], (Skipped.first '\n' r).behind)
  | c :: r =>
    if isLineEnd c then some ([], .first c r)
    else if c = '0' then some ([.zero], .first c r)
    else if c = 'x' then
      (hexDigits? 2 r).map fun (ds, q) => ([.short ds], .ofRest q)
    else if c = 'u' then
      (hexDigits? 4 r).map fun (ds, q) => ([.long ds], .ofRest q)
    else if isEscapeDigitOrMark c then none
    else some ([.escaped c], .first c r)

/-! ## Strings and names -/

/-- The pieces of a string up to the quote that ends it. -/
def stringTail (quote : Char) (s : List Char) : Option (Parsed (List Piece) s) :=
  match s with
  | [] => none
  | c :: r =>
    if c = quote then some ((Skipped.first c r).parsed [])
    else if c = '\\' then
      match escape r with
      | none => none
      | some (pieces, q) =>
        have := q.2
        (stringTail quote q.1).map fun p =>
          ((p.map (pieces ++ ·)).within (Nat.le_of_lt q.2)).behind
    -- Only a backslash continues a string on the next line.
    else if isLineEnd c then none
    else
      (stringTail quote r).map fun p => (p.map (Piece.plain c :: ·)).behind
termination_by s.length
decreasing_by all_goals simp only [List.length_cons]; omega

/-- One character of a name that satisfies `p`, or any one given by number. -/
def namePiece (p : Char → Bool) : (s : List Char) → Option (Parsed Piece s)
  | '\\' :: 'u' :: r =>
    (hexDigits? 4 r).map fun (ds, q) => ((Skipped.ofRest q).parsed (.long ds)).behind
  | c :: r => if p c then some ((Skipped.first c r).parsed (.plain c)) else none
  | [] => none

/-- The characters of a name behind the first, as many as there are. -/
def nameTail (s : List Char) : List Piece × Rest s :=
  match namePiece isNamePart s with
  | none => ([], .whole s)
  | some p =>
    have := p.shorter
    let (pieces, q) := nameTail p.rest
    (p.value :: pieces, (p.skipped.andRest q).toRest)
termination_by s.length

def name : Reader (List Piece) := fun s =>
  (namePiece isNameStart s).map fun p =>
    let (pieces, q) := nameTail p.rest
    (p.skipped.andRest q).parsed (p.value :: pieces)

/-- A string with either kind of quotes. -/
def string : Reader (List Piece)
  | [] => none
  | c :: r =>
    if c = '"' ∨ c = '\'' then (stringTail c r).map (·.behind) else none

/-! ## Numbers -/

/-- The rest of a document behind a spelling. -/
abbrev Spelled (s : List Char) := List Char × Rest s

/-- As many characters with a property as there are. -/
def run (p : Char → Bool) (s : List Char) : Spelled s :=
  (s.takeWhile p, ⟨s.dropWhile p, length_dropWhile_le p s⟩)

/-- The digits of a power of ten behind `front`, if there are any. -/
def powerDigits (front : List Char) (s : List Char) : Spelled (front ++ s) :=
  match run Char.isDigit s with
  | ([], _) => ([], .whole (front ++ s))
  | (ds, ⟨q, h⟩) => (front ++ ds, ⟨q, by rw [List.length_append]; omega⟩)

/-- A power of ten, if a whole one follows. -/
def exponent (s : List Char) : Spelled s :=
  match s with
  | c :: d :: r =>
    if c = 'e' ∨ c = 'E' then
      if d = '+' ∨ d = '-' then powerDigits [c, d] r else powerDigits [c] (d :: r)
    else ([], .whole (c :: d :: r))
  | s => ([], .whole s)

/-- A whole number without a zero in front of other digits. -/
def wholeNumber? (s : List Char) : Option (Spelled s) :=
  match s with
  | '0' :: r => some (['0'], (Rest.whole r).behind)
  | s =>
    match run Char.isDigit s with
    | ([], _) => none
    | found => some found

def decimal? (s : List Char) : Option (Spelled s) :=
  match wholeNumber? s with
  | some (ds, ⟨r, h⟩) =>
    match r, h with
    | '.' :: q, h =>
      let (fs, ⟨q', h'⟩) := run Char.isDigit q
      let (es, ⟨q'', h''⟩) := exponent q'
      some (ds ++ '.' :: fs ++ es, ⟨q'', by simp only [List.length_cons] at h; omega⟩)
    | r, h =>
      let (es, ⟨q, hq⟩) := exponent r
      some (ds ++ es, ⟨q, Nat.le_trans hq h⟩)
  -- Without a whole number there must be digits behind the point.
  | none =>
    match s with
    | '.' :: q =>
      match run Char.isDigit q with
      | ([], _) => none
      | (fs, ⟨q', h'⟩) =>
        let (es, ⟨q'', h''⟩) := exponent q'
        some ('.' :: fs ++ es, ⟨q'', by simp only [List.length_cons]; omega⟩)
    | _ => none

def hexNumber? (s : List Char) : Option (Spelled s) :=
  match s with
  | '0' :: x :: r =>
    if x = 'x' ∨ x = 'X' then
      match run isHexDigit r with
      | ([], _) => none
      | (ds, ⟨q, h⟩) => some ('0' :: x :: ds, ⟨q, by simp only [List.length_cons]; omega⟩)
    else none
  | _ => none

def wordNumber? (s : List Char) : Option (Spelled s) :=
  let word (w : List Char) : Option (Spelled s) :=
    if w.isPrefixOf s then some (w, ⟨s.drop w.length, by simp only [List.length_drop]; omega⟩)
    else none
  (word "Infinity".toList).orElse fun _ => word "NaN".toList

def unsignedNumber? (s : List Char) : Option (Spelled s) :=
  (hexNumber? s).orElse fun _ => (decimal? s).orElse fun _ => wordNumber? s

def number (s : List Char) : Option (Spelled s) :=
  match s with
  | [] => none
  | c :: r =>
    if c = '+' ∨ c = '-' then
      (unsignedNumber? r).map fun (ds, q) => (c :: ds, q.behind)
    else unsignedNumber? (c :: r)

end TrafficMap.Json5
