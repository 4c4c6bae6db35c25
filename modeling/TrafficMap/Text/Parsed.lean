/-!
# Parsed Prefixes

What a reader of a list of symbols has found at its front: a value, and a rest that is shorter.
Loops over a document end because the rest gets shorter.
-/

namespace TrafficMap

/-- A value read from the front of `s`, and the symbols after it. -/
structure Parsed {β : Type} (α : Type) (s : List β) where
  value : α
  rest : List β
  shorter : rest.length < s.length

namespace Parsed

variable {α γ β : Type} {s r : List β}

/-- The same value as read from a longer document that ends the same way. -/
def within (p : Parsed α r) (h : r.length ≤ s.length) : Parsed α s :=
  ⟨p.value, p.rest, Nat.lt_of_lt_of_le p.shorter h⟩

/-- The same value as read behind one more symbol. -/
def behind {b : β} (p : Parsed α r) : Parsed α (b :: r) := p.within (Nat.le_succ _)

/-- Another value read from the same symbols. -/
def map (f : α → γ) (p : Parsed α s) : Parsed γ s := ⟨f p.value, p.rest, p.shorter⟩

end Parsed

/-! ## Rests without a value -/

/-- What follows a part of `s` that may be empty. -/
abbrev Rest {β : Type} (s : List β) := { r : List β // r.length ≤ s.length }

/-- What follows a part of `s` that is not empty. -/
abbrev Skipped {β : Type} (s : List β) := { r : List β // r.length < s.length }

variable {β : Type} {s r : List β} {b : β}

def Rest.whole (s : List β) : Rest s := ⟨s, Nat.le_refl _⟩

/-- The rest behind one more symbol. -/
def Rest.behind (q : Rest r) : Rest (b :: r) := ⟨q.1, Nat.le_succ_of_le q.2⟩

/-- A value that the part that has been read stands for. -/
def Skipped.parsed {α : Type} (v : α) (q : Skipped s) : Parsed α s := ⟨v, q.1, q.2⟩

/-- The part that a value stands for has been read. -/
def Parsed.skipped {α : Type} (p : Parsed α s) : Skipped s := ⟨p.rest, p.shorter⟩

def Skipped.first (b : β) (r : List β) : Skipped (b :: r) := ⟨r, Nat.lt_succ_self _⟩

/-- One symbol has been read, and a part that may be empty. -/
def Skipped.ofRest (q : Rest r) : Skipped (b :: r) := ⟨q.1, Nat.lt_succ_of_le q.2⟩

/-- The rest behind one more symbol. -/
def Skipped.behind (q : Skipped r) : Skipped (b :: r) := ⟨q.1, Nat.lt_succ_of_lt q.2⟩

/-- At least nothing has been read. -/
def Skipped.toRest (q : Skipped s) : Rest s := ⟨q.1, Nat.le_of_lt q.2⟩

/-- Two parts have been read, of which the second may be empty. -/
def Skipped.andRest (q : Skipped s) (p : Rest q.1) : Skipped s := ⟨p.1, Nat.lt_of_le_of_lt p.2 q.2⟩

/-- Two parts have been read. -/
def Skipped.trans (q : Skipped s) (p : Skipped q.1) : Skipped s := ⟨p.1, Nat.lt_trans p.2 q.2⟩

end TrafficMap
