import TrafficMap.Json.Skip
import TrafficMap.Proofs.Json.Grammar

/-!
# JSON: What Readers Find

A reader's result is bound to the document that it reads, since it proves that the rest is shorter.
What it has found is told here without that bond, and without the fault where there is one, so that
the steps of a reader can be put together by equations.
-/

namespace TrafficMap.Json

/-! ## Found values -/

variable {α β : Type} {s r : List UInt8} {p : List UInt8 → Prop}

/-- The value that a reader has found and what follows it, the fault left out of account. Readers
carry along a proof that the rest has become shorter; statements about what is read are about
outcomes, in which that proof does not occur. -/
def outcome (e : Except Fault (Parsed α s)) : Option (α × List UInt8) :=
  e.toOption.map fun q => (q.value, q.rest)

/-- What follows a part that has been passed over. -/
def remainder (e : Except Fault { r : List UInt8 // p r }) : Option (List UInt8) :=
  e.toOption.map Subtype.val

/-- What a part stands for and what follows it. -/
def taken (e : Except Fault (α × { r : List UInt8 // p r })) : Option (α × List UInt8) :=
  e.toOption.map fun q => (q.1, q.2.1)

@[simp]
theorem outcome_ok (q : Parsed α s) : outcome (.ok q) = some (q.value, q.rest) := rfl

@[simp]
theorem outcome_error (f : Fault) : outcome (.error f : Except Fault (Parsed α s)) = none := rfl

theorem outcome_bind (e : Except Fault β) (f : β → Except Fault (Parsed α s)) :
    outcome (e >>= f) = e.toOption.bind fun v => outcome (f v) := by
  cases e <;> rfl

@[simp]
theorem outcome_behind {b : UInt8} (e : Except Fault (Parsed α r)) :
    outcome (e.map fun q => (q.behind : Parsed α (b :: r))) = outcome e := by
  cases e <;> rfl

@[simp]
theorem outcome_within (e : Except Fault (Parsed α r)) (h : r.length ≤ s.length) :
    outcome (e.map fun q => q.within h) = outcome e := by
  cases e <;> rfl

@[simp]
theorem outcome_map (g : α → β) (e : Except Fault (Parsed α s)) :
    outcome (e.map fun q => q.map g) = (outcome e).map (Prod.map g id) := by
  cases e <;> rfl

@[simp]
theorem outcome_map_behind {b : UInt8} (g : α → β) (e : Except Fault (Parsed α r)) :
    outcome (e.map fun q => ((q.map g).behind : Parsed β (b :: r))) =
      (outcome e).map (Prod.map g id) := by
  cases e <;> rfl

@[simp]
theorem remainder_ok (q : { r : List UInt8 // p r }) : remainder (.ok q) = some q.1 := rfl

theorem remainder_bind (e : Except Fault β)
    (f : β → Except Fault { r : List UInt8 // p r }) :
    remainder (e >>= f) = e.toOption.bind fun v => remainder (f v) := by
  cases e <;> rfl

@[simp]
theorem taken_error (f : Fault) :
    taken (.error f : Except Fault (α × { r : List UInt8 // p r })) = none := rfl

@[simp]
theorem taken_ok (q : α × { r : List UInt8 // p r }) : taken (.ok q) = some (q.1, q.2.1) := rfl

/-! ## Blanks and words -/

theorem isBlank_byte (w : Blank) : isBlank w.byte = true := by cases w <;> rfl

theorem skipBlanks_blanks (ws : List Blank) (s : List UInt8) :
    skipBlanks (blanks ws ++ s) = skipBlanks s := by
  induction ws with
  | nil => rfl
  | cons w ws ih =>
    change skipBlanks (w.byte :: (blanks ws ++ s)) = _
    rw [skipBlanks, if_pos (isBlank_byte w), ih]

theorem skipBlanks_cons {b : UInt8} (h : isBlank b = false) (s : List UInt8) :
    skipBlanks (b :: s) = b :: s := by
  rw [skipBlanks, h]
  rfl

theorem remainder_word (ws r : List UInt8) : remainder (word ws (ws ++ r)) = some r := by
  induction ws with
  | nil => rfl
  | cons w ws ih =>
    rw [List.cons_append, word, if_pos (beq_self_eq_true w), ← ih]
    cases word ws (ws ++ r) <;> rfl

end TrafficMap.Json
