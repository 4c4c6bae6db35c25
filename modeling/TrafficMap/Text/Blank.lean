/-!
# Blanks

The white space of the Unicode character database (property `White_Space`), and the two operations
on texts that refer to it: removing blanks at both ends, and splitting into words.
-/

namespace TrafficMap.Text

/-! ## The property -/

/-- The character has the property `White_Space`. -/
def isBlank (c : Char) : Bool :=
  let n := c.toNat
  (9 ≤ n && n ≤ 13) || n == 0x20 || n == 0x85 || n == 0xA0 || n == 0x1680 ||
    (0x2000 ≤ n && n ≤ 0x200A) || n == 0x2028 || n == 0x2029 || n == 0x202F || n == 0x205F ||
    n == 0x3000

/-! ## Ends and words -/

/-- The characters that are left when those satisfying `p` are removed at both ends. -/
def stripList (p : Char → Bool) (cs : List Char) : List Char :=
  ((cs.dropWhile p).reverse.dropWhile p).reverse

/-- The text without the blanks at its ends. -/
def trim (s : String) : String :=
  String.ofList (stripList isBlank s.toList)

/-- The maximal runs of characters that do not satisfy `p`, in order. -/
def splitList (p : Char → Bool) : List Char → List (List Char)
  | [] => []
  | c :: cs =>
    if p c then splitList p cs
    else
      -- A character joins the first run behind it only if that begins right there.
      match cs, splitList p cs with
      | [], _ => [[c]]
      | d :: _, words =>
        if p d then [c] :: words
        else
          match words with
          | [] => [[c]]
          | word :: rest => (c :: word) :: rest

/-- The words of a text: its maximal runs without a blank. -/
def words (s : String) : List String :=
  (splitList isBlank s.toList).map String.ofList

/-! ## Letter case -/

/-- The text with the capital letters of ASCII made small. -/
def lowered (s : String) : String :=
  String.ofList (s.toList.map Char.toLower)

end TrafficMap.Text
