import TrafficMap.Url.Direction
import TrafficMap.Url.Joining
import TrafficMap.Url.NameForm
import TrafficMap.Url.Punycode

/-!
# Domain Names

The form in which a domain name is looked up, and which names have one. Each character is brought
into the form that it has in names, and the result is composed. Then every label has to be well
formed: it holds no character that separates the parts of a URL, does not begin with a mark, and its
joiners are in place. A label in Punycode has to stand for such a label that holds a character
beyond ASCII. The labels of a name with characters that are written from the right have to have
clear directions.
-/

namespace TrafficMap.Url

/-! ## Characters -/

/-- Characters that no domain name holds. -/
def isForbidden (c : Char) : Bool :=
  c.toNat ≤ 0x20 || c == '\x7f' || "#%/:<>?@[\\]^|".toList.contains c

/-- The character is beyond ASCII. -/
def isBeyondAscii (c : Char) : Bool := 0x80 ≤ c.toNat

/-- The character may not begin a label. -/
def isMark (c : Char) : Bool :=
  match Text.category c with
  | .mark | .enclosingMark | .spacingMark => true
  | _ => false

/-- The characters in the form that they have in names, composed. -/
def nameForm? (cs : List Char) : Option (List Char) :=
  (cs.mapM form?).map fun forms => Text.composed forms.flatten

/-! ## Labels -/

/-- The characters of a label that is encoded may have this number at most. -/
def encodedLimit : Nat := 2000

/-- The characters of a label beyond ASCII may have this number at most. -/
def labelLimit : Nat := 1000

/-- The characters that the encoded part of a label stands for. They are in their form already and
do not end the label. -/
def decodedLabel? (encoded : List Char) : Option (List Char) :=
  if encoded.any isBeyondAscii || encoded.getLast?.getD '-' == '-' ||
      encodedLimit < encoded.length then none
  else
    (Punycode.decode? encoded).filter fun label =>
      label.any isBeyondAscii && !label.contains '.' &&
        label.all (fun c => form? c == some [c]) && Text.composed label == label

def label? (label : List Char) : Option (List Char) :=
  match label with
  | 'x' :: 'n' :: '-' :: '-' :: encoded => decodedLabel? encoded
  | label => some label

/-- A label that holds the given characters is well formed by itself. -/
def isWellFormed (label : List Char) : Bool :=
  !label.any isForbidden && !label.head?.any isMark && joinersFit [] label &&
    !(label.any isBeyondAscii && labelLimit < label.length)

def labelsOf : List Char → List (List Char)
  | [] => [[]]
  | c :: cs =>
    if c = '.' then [] :: labelsOf cs
    else
      match labelsOf cs with
      | [] => [[c]]
      | label :: labels => (c :: label) :: labels

/-! ## Names -/

/-- The form in which a name is looked up. -/
def domain? (cs : List Char) : Option (List Char) := do
  let name ← nameForm? cs
  let labels ← (labelsOf name).mapM label?
  if labels.all isWellFormed && areDirected labels then some name else none

end TrafficMap.Url
