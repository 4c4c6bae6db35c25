import Mathlib
import TrafficMap.Json.Typed
import TrafficMap.Proofs.Json.Skipping

/-!
# JSON: Typed Readers

What typed readers make of values as the grammar writes them: a list is read where the value means
one, and an object is read as a record member by member.
-/

namespace TrafficMap.Json

variable {α σ : Type} {s r : List UInt8}

/-! ## Lists -/

theorem outcome_atToken {b : UInt8}
    {f : (b : UInt8) → (r : List UInt8) → Except Fault (Parsed α (b :: r))}
    (h : skipBlanks s = b :: r) : outcome (atToken f s) = outcome (f b r) := by
  rw [atToken.eq_def]
  split
  next h' => cases h.symm.trans h'
  next h' =>
    cases h.symm.trans h'
    exact outcome_within ..

/-- Describing a value is no way to accept it. -/
theorem outcome_mismatch (expected : String) (b : UInt8) (r : List UInt8) :
    outcome (mismatch expected b r : Except Fault (Parsed α (b :: r))) = none := by
  rw [mismatch]
  generalize scalar _ _ _ _ b r _ = found
  cases found <;> rfl

/-- The elements of a list. -/
def itemsOf? : Value → Option (List Value)
  | .array items => some items
  | _ => none

theorem itemsOf?_eq_none {v : Value} (h : ∀ items, v ≠ .array items) : itemsOf? v = none := by
  cases v with
  | array items => exact absurd rfl (h items)
  | _ => rfl

/-- Where a value is no list, it means none. -/
theorem Tree.bind_itemsOf?_eq_none {t : Tree} (h : ∀ items, t ≠ .array items) (depth : Nat) :
    (t.value? (depth + 2)).bind itemsOf? = none := by
  rw [Option.bind_eq_none_iff]
  intro v hv
  apply itemsOf?_eq_none
  rintro items rfl
  cases t with
  | array items => exact h items rfl
  | _ => simp [Tree.value?] at hv

/-- A value is read as a list of values where it means one. -/
theorem outcome_listReader (t : Tree) (inner : Nat) (h : skipBlanks s = t.bytes ++ r) :
    outcome (listReader (value (inner + 1)) s) =
      ((t.value? (inner + 2)).bind itemsOf?).map fun items => (items, r) := by
  -- The reader looks at one byte to tell a list from anything else.
  by_cases harray : ∃ items, t = .array items
  · obtain ⟨items, rfl⟩ := harray
    rw [Tree.bytes, List.cons_append] at h
    have hitems : outcome (elements (value (inner + 1)) true (items.bytes true ++ r)) =
        (items.list.mapM fun t : Tree => t.value? (inner + 1)).map fun vs => (vs, r) :=
      outcome_elements items (fun t _ s r => outcome_value t) rfl
    rw [listReader, outcome_atToken h, if_pos (beq_self_eq_true _), outcome_behind, hitems,
      Tree.value?, Items.values?_eq_mapM]
    simp [Option.bind_map, Function.comp_def, itemsOf?]
  · have harray (items : Items) : t ≠ .array items := fun ht => harray ⟨items, ht⟩
    obtain ⟨b, bs, hbytes, -⟩ := t.exists_bytes_eq_cons
    rw [hbytes, List.cons_append] at h
    rw [listReader, outcome_atToken h, if_neg (by simpa using Tree.first_ne_bracket hbytes harray),
      outcome_mismatch, Tree.bind_itemsOf?_eq_none harray]
    rfl

/-! ## Records -/

namespace RecordType

/-- An object is read as a record member by member. -/
theorem outcome_reader (type : RecordType σ) (empty : σ) (finish : σ → Except Fault α)
    {take : String → Tree → σ → Option σ} (members : Members)
    (hmember : ∀ m ∈ members.list, ∀ key d {s r}, skipBlanks s = m.2.bytes ++ r → EndsNumber r →
      ((type.memberReader key d).toOption.bind fun f => outcome (f s)) =
        (take key m.2 d).map fun d => (d, r))
    (h : skipBlanks s = (Tree.object members).bytes ++ r) :
    outcome (type.reader empty finish s) =
      ((gatherMembers take empty members.list).bind fun d => (finish d).toOption).map
        fun v => (v, r) := by
  have hmembers : outcome (Json.members type.memberReader true empty (members.bytes true ++ r)) =
      (gatherMembers take empty members.list).map fun d => (d, r) :=
    outcome_members members hmember rfl
  -- Success and failure of the two steps, members and completion, without the rest's length.
  have hsteps {s : List UInt8} (e : Except Fault (Parsed σ s)) :
      outcome (e.bind fun p => (finish p.value).map fun v => p.map fun _ => v) =
        (outcome e).bind fun q => (finish q.1).toOption.map fun v => (v, q.2) := by
    cases e with
    | error f => rfl
    | ok p =>
      rw [outcome_ok, Option.bind_some]
      change outcome ((finish p.value).map fun v => p.map fun _ => v) = _
      cases finish p.value <;> rfl
  rw [Tree.bytes, List.cons_append] at h
  rw [reader, outcome_atToken h]
  refine (hsteps _).trans ?_
  rw [if_neg (by decide), if_pos (beq_self_eq_true _), outcome_behind, hmembers]
  cases gatherMembers take empty members.list <;> rfl

end RecordType

/-! ## Documents -/

/-- A document is what its value is read as. -/
theorem toOption_document {f : Reader α} {v : Option α} {after : List Blank}
    (h : outcome (f s) = v.map fun v => (v, blanks after)) : (document f s).toOption = v := by
  -- Behind the value only blanks are left, which the end of a document allows.
  have hend : endOfDocument (blanks after) = .ok () := by
    have hblanks := skipBlanks_blanks after []
    rw [List.append_nil] at hblanks
    rw [endOfDocument, hblanks]
    rfl
  have hsteps : (document f s).toOption =
      (outcome (f s)).bind fun q => (endOfDocument q.2).toOption.map fun _ => q.1 := by
    rw [document]
    cases f s with
    | error f => rfl
    | ok q =>
      rw [outcome_ok, Option.bind_some]
      change (endOfDocument q.rest >>= fun _ => Except.ok q.value).toOption = _
      cases endOfDocument q.rest <;> rfl
  rw [hsteps, h]
  cases v with
  | none => rfl
  | some v => rw [Option.map_some, Option.bind_some, hend]; rfl

end TrafficMap.Json
