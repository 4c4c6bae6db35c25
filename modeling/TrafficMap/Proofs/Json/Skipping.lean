import Mathlib
import TrafficMap.Proofs.Json.Values

/-!
# JSON: Passing Over Values

Every value that the grammar writes is passed over, whatever it means and however deeply it is
nested. What is passed over along with it are the lists and objects around it that are still open.
-/

namespace TrafficMap.Json

variable {stack : List Enclosing} {e : Enclosing} {s r : List UInt8}

/-! ## Open lists and objects -/

theorem remainder_skipRest_nil (opened : Bool) (s : List UInt8) :
    remainder (skipRest opened [] s) = some s := by
  rw [skipRest.eq_def]
  rfl

theorem remainder_skipRest_close {opened : Bool} (h : skipBlanks s = e.closing :: r) :
    remainder (skipRest opened (e :: stack) s) = remainder (skipRest false stack r) := by
  rw [skipRest.eq_def]
  dsimp only
  split
  next h' => cases h.symm.trans h'
  next h' =>
    cases h.symm.trans h'
    rw [if_pos (beq_self_eq_true _)]
    cases skipRest false stack r <;> rfl

/-- The first entry behind an opening mark. -/
theorem remainder_skipRest_first {b : UInt8} (h : skipBlanks s = b :: r) (hclose : b ≠ e.closing) :
    remainder (skipRest true (e :: stack) s) =
      (remainder (skipToValue e (b :: r))).bind fun q => remainder (skipAll (e :: stack) q) := by
  rw [skipRest.eq_def]
  dsimp only
  split
  next h' => cases h.symm.trans h'
  next h' =>
    cases h.symm.trans h'
    -- Right behind the opening mark no comma is asked for.
    rw [if_neg (by simpa using hclose), dif_pos rfl]
    cases skipToValue e (b :: r) with
    | error f => rfl
    | ok q =>
      dsimp only
      rw [remainder_ok, Option.bind_some]
      cases skipAll (e :: stack) q.1 <;> rfl

/-- Another entry behind a comma. -/
theorem remainder_skipRest_comma (h : skipBlanks s = byte ',' :: r) :
    remainder (skipRest false (e :: stack) s) =
      (remainder (skipToValue e r)).bind fun q => remainder (skipAll (e :: stack) q) := by
  -- A comma closes neither a list nor an object, so the test for the end fails.
  have hclose : (byte ',' == e.closing) = false := by cases e <;> rfl
  rw [skipRest.eq_def]
  dsimp only
  split
  next h' => cases h.symm.trans h'
  next h' =>
    cases h.symm.trans h'
    rw [hclose, if_neg (by decide), dif_neg (by decide), if_pos (beq_self_eq_true _)]
    cases skipToValue e r with
    | error f => rfl
    | ok q =>
      dsimp only
      rw [remainder_ok, Option.bind_some]
      cases skipAll (e :: stack) q.1 <;> rfl

theorem remainder_skipAll_opening {b : UInt8} (h : skipBlanks s = b :: r)
    (hb : b = byte '[' ∧ e = .list ∨ b = byte '\x7b' ∧ e = .object) :
    remainder (skipAll stack s) = remainder (skipRest true (e :: stack) r) := by
  rw [skipAll.eq_def]
  split
  next h' => cases h.symm.trans h'
  next h' =>
    cases h.symm.trans h'
    obtain ⟨rfl, rfl⟩ | ⟨rfl, rfl⟩ := hb
    · rw [if_pos (beq_self_eq_true _)]
      cases skipRest true (.list :: stack) r <;> rfl
    · rw [if_neg (by decide), if_pos (beq_self_eq_true _)]
      cases skipRest true (.object :: stack) r <;> rfl

theorem remainder_skipAll_scalar {b : UInt8} (h : skipBlanks s = b :: r)
    (hb : isOpening b = false) :
    remainder (skipAll stack s) =
      (remainder (skipScalar b r)).bind fun q => remainder (skipRest false stack q) := by
  obtain ⟨hlist, hobject⟩ := Bool.or_eq_false_iff.mp hb
  -- Well-founded recursion: the equation is unfolded once, never by `simp`.
  rw [skipAll.eq_def]
  split
  next h' => cases h.symm.trans h'
  next h' =>
    cases h.symm.trans h'
    rw [hlist, hobject, if_neg (by decide), if_neg (by decide)]
    cases skipScalar b r with
    | error f => rfl
    | ok q =>
      dsimp only
      rw [remainder_ok, Option.bind_some]
      cases skipRest false stack q.1 <;> rfl

/-! ## Scalars and keys -/

theorem remainder_skipWord (tail : List UInt8) (b : UInt8) (r : List UInt8) :
    remainder (skipWord tail (tail ++ r) b) = some r := by
  rw [skipWord, ← remainder_word tail r]
  cases word tail (tail ++ r) <;> rfl

/-- A scalar is passed over whatever it means. -/
theorem exists_skipScalar (t : Tree) (hr : EndsNumber r)
    (harray : ∀ items, t ≠ .array items) (hobject : ∀ members, t ≠ .object members) :
    ∃ b bs, t.bytes = b :: bs ∧ isOpening b = false ∧
      remainder (skipScalar b (bs ++ r)) = some r := by
  cases t with
  | null => exact ⟨_, _, rfl, rfl, remainder_skipWord nullTail _ r⟩
  | boolean b =>
    cases b with
    | true => exact ⟨_, _, rfl, rfl, remainder_skipWord trueTail _ r⟩
    | false => exact ⟨_, _, rfl, rfl, remainder_skipWord falseTail _ r⟩
  | number n =>
    have hbody := remainder_skipNumber n hr
    rw [Tree.bytes, Numeral.bytes]
    -- The minus sign is dispatched like a word, while the first digit is handed back to the number.
    cases n.minus with
    | true =>
      refine ⟨_, _, rfl, rfl, ?_⟩
      rw [← hbody]
      change remainder ((skipNumber (n.body ++ r)).map Skipped.behind) = _
      cases skipNumber (n.body ++ r) <;> rfl
    | false =>
      obtain ⟨b, bs, hbytes, hb, -⟩ := n.whole.digits.exists_bytes_eq_cons
      rw [if_neg (by decide), Numeral.body, hbytes, List.cons_append]
      refine ⟨_, _, rfl, ?_, ?_⟩
      · rw [isOpening, beq_of_isDigit hb rfl, beq_of_isDigit hb rfl]
        rfl
      · rw [skipScalar, beq_of_isDigit hb rfl, beq_of_isDigit hb rfl, beq_of_isDigit hb rfl,
          beq_of_isDigit hb rfl, hb, ← hbody, Numeral.body, hbytes]
        rfl
  | string ps =>
    refine ⟨_, _, rfl, rfl, ?_⟩
    -- The position that is counted along the way is forgotten by `remainder`.
    have hsteps (s : List UInt8) :
        remainder (skipScalar (byte '"') s) = remainder (skipString s) := by
      change remainder ((skipString s).map Skipped.behind) = _
      cases skipString s <;> rfl
    rw [hsteps, remainder_skipString]
  | array items => exact absurd rfl (harray items)
  | object members => exact absurd rfl (hobject members)

theorem remainder_skipKey (key : List Piece) (beforeColon : List Blank)
    (h : skipBlanks s =
      byte '"' :: (stringBody key ++ (blanks beforeColon ++ (byte ':' :: r)))) :
    remainder (skipKey s) = some r := by
  -- The steps with the positions forgotten: a string, then the colon behind it.
  have hsteps {body : List UInt8} (h : skipBlanks s = byte '"' :: body) :
      remainder (skipKey s) =
        (remainder (skipString body)).bind fun q => (outcome (colon q)).map Prod.snd := by
    rw [skipKey.eq_def]
    split
    next h' => cases h.symm.trans h'
    next h' =>
      cases h.symm.trans h'
      rw [if_pos (beq_self_eq_true _)]
      cases skipString body with
      | error f => rfl
      | ok q =>
        rw [remainder_ok, Option.bind_some]
        cases hcolon : colon q.1 with
        | error f => simp [remainder_bind, hcolon, Except.toOption]
        | ok c => simp [remainder_bind, hcolon, Except.toOption]
  rw [hsteps h, remainder_skipString, Option.bind_some, outcome_colon]
  rfl

/-! ## Whole values -/

/-- Passes over the entry that is due and goes on behind it. -/
theorem remainder_skipRest_entry {opened : Bool} {x : List UInt8} {t : Tree}
    {result : Option (List UInt8)}
    (h : skipBlanks s = skipBlanks (comma opened ++ x))
    (hfirst : ∃ b y, skipBlanks x = b :: y ∧ isBlank b = false ∧ b ≠ e.closing)
    (hvalue : ∀ q, skipBlanks q = skipBlanks x →
      ∃ q', remainder (skipToValue e q) = some q' ∧ skipBlanks q' = t.bytes ++ r)
    (htree : ∀ q, skipBlanks q = t.bytes ++ r → remainder (skipAll (e :: stack) q) = result) :
    remainder (skipRest opened (e :: stack) s) = result := by
  obtain ⟨b, y, hx, hb, hclose⟩ := hfirst
  -- The blanks before a first entry are gone already; those behind a comma are not.
  cases opened with
  | true =>
    rw [comma, if_pos rfl, List.nil_append, hx] at h
    obtain ⟨q', hq', hblanks⟩ := hvalue (b :: y) (by rw [hx, skipBlanks_cons hb])
    rw [remainder_skipRest_first h hclose, hq', Option.bind_some, htree q' hblanks]
  | false =>
    rw [comma, if_neg (by decide), List.singleton_append, skipBlanks_cons rfl] at h
    obtain ⟨q', hq', hblanks⟩ := hvalue x rfl
    rw [remainder_skipRest_comma h, hq', Option.bind_some, htree q' hblanks]

theorem remainder_skipRest_items :
    ∀ (items : Items) {opened : Bool} {s : List UInt8},
      (∀ t ∈ items.list, ∀ {s r}, skipBlanks s = t.bytes ++ r → EndsNumber r →
        remainder (skipAll (.list :: stack) s) = remainder (skipRest false (.list :: stack) r)) →
      skipBlanks s = skipBlanks (items.bytes opened ++ r) →
      remainder (skipRest opened (.list :: stack) s) = remainder (skipRest false stack r)
  | .close gap, opened, s, _, h => by
    rw [Items.bytes, List.append_assoc, skipBlanks_blanks, List.singleton_append,
      skipBlanks_cons rfl] at h
    exact remainder_skipRest_close h
  | .item before tree after others, opened, s, hitem, h => by
    obtain ⟨htree, hothers⟩ := List.forall_mem_cons.mp hitem
    obtain ⟨b, bs, hbytes, hb, hclose⟩ := tree.exists_bytes_eq_cons
    simp only [Items.bytes, List.append_assoc] at h
    have hvalue := tree.skipBlanks_blanks before (blanks after ++ (others.bytes false ++ r))
    refine remainder_skipRest_entry h ⟨b, _, by rw [hvalue, hbytes]; rfl, hb, hclose⟩
      (fun q hq => ⟨q, rfl, hq.trans hvalue⟩) fun q hq => ?_
    rw [htree hq (endsNumber_blanks after (others.endsNumber r))]
    exact remainder_skipRest_items others hothers (skipBlanks_blanks after _)

theorem remainder_skipRest_members :
    ∀ (members : Members) {opened : Bool} {s : List UInt8},
      (∀ m ∈ members.list, ∀ {s r}, skipBlanks s = m.2.bytes ++ r → EndsNumber r →
        remainder (skipAll (.object :: stack) s) =
          remainder (skipRest false (.object :: stack) r)) →
      skipBlanks s = skipBlanks (members.bytes opened ++ r) →
      remainder (skipRest opened (.object :: stack) s) = remainder (skipRest false stack r)
  | .close gap, opened, s, _, h => by
    rw [Members.bytes, List.append_assoc, skipBlanks_blanks, List.singleton_append,
      skipBlanks_cons rfl] at h
    exact remainder_skipRest_close h
  | .member before key beforeColon afterColon tree after others, opened, s, hmember, h => by
    obtain ⟨htree, hothers⟩ := List.forall_mem_cons.mp hmember
    simp only [Members.bytes, List.append_assoc, List.cons_append] at h
    -- The key and its colon stand between the mark and the value; for a list there is nothing.
    have hkey {q : List UInt8} (y : List UInt8)
        (hq : skipBlanks q = skipBlanks (blanks before ++ (byte '"' :: (stringBody key ++
          (blanks beforeColon ++ (byte ':' :: y)))))) :
        remainder (skipToValue .object q) = some y := by
      rw [skipBlanks_blanks, skipBlanks_cons rfl] at hq
      rw [← remainder_skipKey key beforeColon hq]
      change remainder ((skipKey q).map Skipped.toRest) = _
      cases skipKey q <;> rfl
    refine remainder_skipRest_entry h
      ⟨byte '"', _, by rw [skipBlanks_blanks, skipBlanks_cons rfl], rfl, by decide⟩
      (fun q hq => ⟨_, hkey _ hq, tree.skipBlanks_blanks ..⟩) fun q hq => ?_
    rw [htree hq (endsNumber_blanks after (others.endsNumber r))]
    exact remainder_skipRest_members others hothers (skipBlanks_blanks after _)

/-- A value is passed over whatever it means. No depth limits it, and half a surrogate pair or a
number beyond all floats does not matter. -/
theorem remainder_skipAll (t : Tree) : ∀ {stack : List Enclosing} {s r : List UInt8},
    skipBlanks s = t.bytes ++ r → EndsNumber r →
      remainder (skipAll stack s) = remainder (skipRest false stack r) := by
  -- Induction on the tree, with the stack general: an array or object is passed over by the loop
  -- for its entries, which calls back for each of them.
  induction t using Tree.forall_of with
  | scalar t harray hobject =>
    intro stack s r h hr
    obtain ⟨b, bs, hbytes, hb, hscalar⟩ := exists_skipScalar t hr harray hobject
    rw [hbytes] at h
    rw [remainder_skipAll_scalar h hb]
    exact congrArg (Option.bind · _) hscalar
  | array items ih =>
    intro stack s r h hr
    rw [Tree.bytes, List.cons_append] at h
    rw [remainder_skipAll_opening h (.inl ⟨rfl, rfl⟩)]
    exact remainder_skipRest_items items (fun t ht s r => ih t ht) rfl
  | object members ih =>
    intro stack s r h hr
    rw [Tree.bytes, List.cons_append] at h
    rw [remainder_skipAll_opening h (.inr ⟨rfl, rfl⟩)]
    exact remainder_skipRest_members members (fun m hm s r => ih m hm) rfl

theorem outcome_skipValue (t : Tree) (h : skipBlanks s = t.bytes ++ r) (hr : EndsNumber r) :
    outcome (skipValue s) = some ((), r) := by
  have hsteps : outcome (skipValue s) = (remainder (skipAll [] s)).map fun q => ((), q) := by
    rw [skipValue]
    cases skipAll [] s <;> rfl
  rw [hsteps, remainder_skipAll t h hr, remainder_skipRest_nil]
  rfl

end TrafficMap.Json
