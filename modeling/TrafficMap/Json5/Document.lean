import TrafficMap.Json5.Token

/-!
# Parsing JSON5

The grammar of JSON5 documents. A comma may follow the last entry of a list or an object. The
nesting of lists and objects is bounded by the length of the document, so that length serves as the
depth.
-/

namespace TrafficMap.Json5

/-! ## Lists of entries -/

/-- Entries separated by commas, up to the closing mark. -/
def entries {α : Type} (entry : Reader α) (closing : Char) (s : List Char) :
    Option (Parsed (List α) s) :=
  match h : skipBlanks s with
  | [] => none
  | c :: r =>
    have shorter := length_lt_of_skipBlanks h
    if c = closing then some ⟨[], r, shorter⟩
    else
      match entry (c :: r) with
      | none => none
      | some p =>
        have := p.shorter
        -- Behind an entry there is a comma or the closing mark.
        match h' : skipBlanks p.rest with
        | [] => none
        | d :: q =>
          have := length_lt_of_skipBlanks h'
          if d = ',' then
            have : q.length < s.length := by simp only [List.length_cons] at *; omega
            (entries entry closing q).map fun ps =>
              ⟨p.value :: ps.value, ps.rest, by have := ps.shorter; omega⟩
          else if d = closing then
            some ⟨[p.value], q, by simp only [List.length_cons] at *; omega⟩
          else none
termination_by s.length

def pair (value : Reader Node) : Reader (List Piece × Node) := fun s =>
  match (string s).orElse fun _ => name s with
  | none => none
  | some key =>
    match h : skipBlanks key.rest with
    | [] => none
    | c :: r =>
      have := length_lt_of_skipBlanks h
      have := key.shorter
      if c = ':' then
        (value (skipBlanks r)).map fun v =>
          ⟨(key.value, v.value), v.rest, by
            have := v.shorter; have := length_skipBlanks_le r; omega⟩
      else none

/-! ## Values -/

def word (letters : String) (node : Node) : Reader Node := fun s =>
  let w := letters.toList
  if h : w.isPrefixOf s ∧ w ≠ [] then
    some ⟨node, s.drop w.length, by
      have hs : w.length ≤ s.length := (List.isPrefixOf_iff_prefix.1 h.1).length_le
      have hw : 0 < w.length := List.length_pos_iff.2 h.2
      rw [List.length_drop]; omega⟩
  else none

def numberNode : Reader Node := fun s =>
  match number s with
  | none => none
  | some (literal, ⟨r, _⟩) =>
    if h : r.length < s.length then some ⟨.number literal, r, h⟩ else none

/-- A value that begins at once; lists and objects may enclose one another up to a depth. -/
def value : Nat → Reader Node
  | depth, s =>
    match depth, s with
    | _, [] => none
    | 0, _ => none
    | depth + 1, c :: r =>
      if c = '[' then
        (entries (value depth) ']' r).map fun p => (p.map Node.array).behind
      else if c = '\x7b' then
        (entries (pair (value depth)) '\x7d' r).map fun p =>
          (p.map Node.object).behind
      else if c = '"' ∨ c = '\'' then (string (c :: r)).map (·.map Node.string)
      else
        (word "null" .null (c :: r)).orElse fun _ =>
          (word "true" (.boolean true) (c :: r)).orElse fun _ =>
            (word "false" (.boolean false) (c :: r)).orElse fun _ => numberNode (c :: r)

/-- The value that fills a document. -/
def parse? (text : String) : Option Node := do
  let s := skipBlanks text.toList
  let p ← value (s.length + 1) s
  if (skipBlanks p.rest).isEmpty then some p.value else none

end TrafficMap.Json5
