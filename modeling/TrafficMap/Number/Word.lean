/-!
# Words

Whole numbers of 64 bits: which numbers a signed word holds, and how a word is read as somebody
types it, in decimal digits, possibly after a plus sign. Such a text is read from left to right, and
the first thing that is wrong with it is reported.

Digits have a value in every base up to 16.
-/

namespace TrafficMap

/-! ## Digits -/

namespace Text

/-- The value of a digit in a base up to 16. -/
def digitIn? (base : Nat) (c : Char) : Option Nat :=
  let value? : Option Nat :=
    if c.isDigit then some (c.toNat - '0'.toNat)
    else if 'a' ≤ c ∧ c ≤ 'f' then some (c.toNat - 'a'.toNat + 10)
    else if 'A' ≤ c ∧ c ≤ 'F' then some (c.toNat - 'A'.toNat + 10)
    else none
  value?.filter (· < base)

/-- The number with the given digits. -/
def numberIn? (base : Nat) (cs : List Char) : Option Nat :=
  (cs.mapM (digitIn? base)).map fun ds => ds.foldl (fun n d => base * n + d) 0

end Text

/-! ## Signed words -/

/-- The signed word that is equal to a number. -/
def signedWord? (n : Int) : Option Int64 :=
  if Int64.minValue.toInt ≤ n ∧ n ≤ Int64.maxValue.toInt then some (Int64.ofInt n) else none

theorem signedWord?_eq_some_iff {n : Int} {w : Int64} : signedWord? n = some w ↔ w.toInt = n := by
  constructor
  · intro h
    rw [signedWord?, Option.ite_none_right_eq_some] at h
    obtain ⟨⟨hlow, hhigh⟩, hw⟩ := h
    rw [← Option.some.inj hw]
    exact Int64.toInt_ofInt_of_le hlow (Int.lt_add_one_of_le hhigh)
  · rintro rfl
    rw [signedWord?, if_pos ⟨w.minValue_le_toInt, w.toInt_le⟩, Int64.ofInt_toInt]

/-- The signed word nearest to a number. -/
def saturate (n : Int) : Int64 :=
  if n < Int64.minValue.toInt then Int64.minValue
  else if Int64.maxValue.toInt < n then Int64.maxValue
  else Int64.ofInt n

/-! ## Words as texts -/

/-- Why a text is no whole number of 64 bits. -/
inductive WordFault where
  | empty
  | digit
  | tooLarge
deriving Repr, DecidableEq

def WordFault.message : WordFault → String
  | .empty => "cannot parse integer from empty string"
  | .digit => "invalid digit found in string"
  | .tooLarge => "number too large to fit in target type"

/-- The number that `n` and further digits make. -/
def readDigits (n : Nat) : List Char → Except WordFault Nat
  | [] => .ok n
  | c :: rest =>
    if !c.isDigit then .error .digit
    else
      let next := 10 * n + (c.toNat - '0'.toNat)
      if next < UInt64.size then readDigits next rest else .error .tooLarge

def readWord (s : String) : Except WordFault UInt64 :=
  match s.toList with
  | [] => .error .empty
  | ['+'] => .error .digit
  | '+' :: digits => (readDigits 0 digits).map UInt64.ofNat
  | digits => (readDigits 0 digits).map UInt64.ofNat

end TrafficMap
