/-!
# Random Numbers

A generator of 64-bit words with a state of four words, and the numbers in a range that are made
from them. A number below `n` is the high half of a word times `n`; where the low half is so large
that the range might be met unevenly, the high half of a second product decides whether to go one
up.
-/

namespace TrafficMap

/-! ## The generator -/

/-- State of the generator. -/
structure Generator where
  s0 : UInt64
  s1 : UInt64
  s2 : UInt64
  s3 : UInt64
deriving Repr, BEq, DecidableEq

/-- The word turned left by `n` bits, for `n` between 1 and 63. -/
def rotateLeft (x n : UInt64) : UInt64 := (x <<< n) ||| (x >>> (64 - n))

/-- One step of the generator that spreads a seed: its next state and its word. -/
def spreadSeed (state : UInt64) : UInt64 × UInt64 :=
  let state := state + 0x9e3779b97f4a7c15
  let z := (state ^^^ (state >>> 30)) * 0xbf58476d1ce4e5b9
  let z := (z ^^^ (z >>> 27)) * 0x94d049bb133111eb
  (state, z ^^^ (z >>> 31))

namespace Generator

/-- The generator that a seed begins. -/
def ofSeed (seed : UInt64) : Generator :=
  let (seed, s0) := spreadSeed seed
  let (seed, s1) := spreadSeed seed
  let (seed, s2) := spreadSeed seed
  let (_, s3) := spreadSeed seed
  ⟨s0, s1, s2, s3⟩

/-- The next word of 64 bits. -/
def word (g : Generator) : UInt64 × Generator :=
  let result := rotateLeft (g.s0 + g.s3) 23 + g.s0
  let t := g.s1 <<< 17
  let s2 := g.s2 ^^^ g.s0
  let s3 := g.s3 ^^^ g.s1
  let s1 := g.s1 ^^^ s2
  let s0 := g.s0 ^^^ s3
  (result, ⟨s0, s1, s2 ^^^ t, rotateLeft s3 45⟩)

/-- The high half of the next word. -/
def halfWord (g : Generator) : UInt32 × Generator :=
  let (w, g) := g.word
  ((w >>> 32).toUInt32, g)

/-! ## Numbers in a range -/

/-- A float from `low` up to `high`: the high bits of a word, taken as a fraction of the range. -/
def float (low high : Float) (g : Generator) : Float × Generator :=
  let (w, g) := g.word
  let share := Float.ofBits ((0x3FF0000000000000 : UInt64) ||| (w >>> 12)) - 1.0
  (share * (high - low) + low, g)

end Generator

/-- The upper half of the product of `n` and one of `words` words. -/
def upperHalf (words word n : Nat) : Nat := word * n / words

/-- The lower half of the product of `n` and one of `words` words. -/
def lowerHalf (words word n : Nat) : Nat := word * n % words

/-- The lower half for the first word is so large that a second word is drawn. -/
def needsSecond (words n first : Nat) : Bool := words - n < lowerHalf words first n

/-- The number below `n` that the first word stands for. The second word counts only where it is
needed: its upper half, added to the first word's lower half, may carry. -/
def scaleWord (words n first second : Nat) : Nat :=
  if needsSecond words n first && words ≤ lowerHalf words first n + upperHalf words second n then
    upperHalf words first n + 1
  else upperHalf words first n

theorem upperHalf_lt {words n word : Nat} (hn : 0 < n) (hw : word < words) :
    upperHalf words word n < n := by
  have hpos : 0 < words := Nat.lt_of_le_of_lt (Nat.zero_le word) hw
  rw [upperHalf, Nat.div_lt_iff_lt_mul hpos, Nat.mul_comm n]
  exact Nat.mul_lt_mul_of_pos_right hw hn

/-- The carry never leaves the range: a lower half that is that large does not occur below the
top. -/
theorem upperHalf_succ_lt {words n word : Nat} (hb : n ≤ words) (hn : 0 < n) (hw : word < words)
    (hneed : needsSecond words n word = true) : upperHalf words word n + 1 < n := by
  have hlow : words - n < word * n % words := of_decide_eq_true hneed
  have hsplit := Nat.div_add_mod (word * n) words
  have hle : word * n + n ≤ words * n := by
    have := Nat.mul_le_mul_right n (Nat.succ_le_of_lt hw)
    rwa [Nat.succ_mul] at this
  have hhigh := upperHalf_lt hn hw
  rw [upperHalf] at hhigh ⊢
  rcases Nat.lt_or_ge (word * n / words + 1) n with h | h
  · exact h
  · -- otherwise the product would lie in the topmost part of the range
    have heq : word * n / words + 1 = n := by omega
    have : words * (word * n / words) + words = words * n := by
      rw [← Nat.mul_succ, Nat.succ_eq_add_one, heq]
    omega

theorem scaleWord_lt {words n first second : Nat} (hn : 0 < n) (hb : n ≤ words)
    (hf : first < words) : scaleWord words n first second < n := by
  rw [scaleWord]
  split
  · next h => exact upperHalf_succ_lt hb hn hf (Bool.and_eq_true_iff.1 h).1
  · exact upperHalf_lt hn hf

namespace Generator

/-- A number below `n`, made from half words. -/
def below (n : Nat) (hn : 0 < n) (hb : n ≤ UInt32.size) (g : Generator) : Fin n × Generator :=
  let (first, g) := g.halfWord
  let (second, g) :=
    if needsSecond UInt32.size n first.toNat then g.halfWord else (0, g)
  (⟨scaleWord UInt32.size n first.toNat second.toNat, scaleWord_lt hn hb first.toNat_lt⟩, g)

/-- A number below `n`, made from whole words. -/
def belowWide (n : Nat) (hn : 0 < n) (hb : n ≤ UInt64.size) (g : Generator) : Fin n × Generator :=
  let (first, g) := g.word
  let (second, g) :=
    if needsSecond UInt64.size n first.toNat then g.word else (0, g)
  (⟨scaleWord UInt64.size n first.toNat second.toNat, scaleWord_lt hn hb first.toNat_lt⟩, g)

end Generator

end TrafficMap
