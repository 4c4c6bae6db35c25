import Mathlib
import TrafficMap.Proofs.Json.Numerals

/-!
# JSON: Whole Values

A value as the grammar writes it is read as the value that it means, or not at all if it means none
or is deeper than it is followed. Lists and objects are read entry by entry, so the proof is by
induction on the tree, with one lemma for either loop.
-/

namespace TrafficMap.Json

variable {α σ : Type} {s r : List UInt8}

/-! ## First bytes -/

theorem Items.endsNumber (items : Items) (r : List UInt8) :
    EndsNumber (items.bytes false ++ r) := by
  cases items with
  | close gap =>
    rw [bytes, List.append_assoc]
    exact endsNumber_blanks gap (endsNumber_cons (by decide) _)
  | item => exact endsNumber_cons (by decide) _

theorem Members.endsNumber (members : Members) (r : List UInt8) :
    EndsNumber (members.bytes false ++ r) := by
  cases members with
  | close gap =>
    rw [bytes, List.append_assoc]
    exact endsNumber_blanks gap (endsNumber_cons (by decide) _)
  | member => exact endsNumber_cons (by decide) _

/-- The first byte of a value is neither a blank nor the end of a list. -/
theorem Tree.exists_bytes_eq_cons (t : Tree) :
    ∃ b bs, t.bytes = b :: bs ∧ isBlank b = false ∧ b ≠ byte ']' := by
  cases t with
  -- Only a number does not show its first byte: a minus sign or a digit.
  | number n =>
    obtain ⟨b, bs, hbytes, hb, -⟩ := n.whole.digits.exists_bytes_eq_cons
    rw [bytes, Numeral.bytes, Numeral.body, hbytes]
    cases n.minus with
    | true => exact ⟨_, _, rfl, by decide⟩
    | false =>
      exact ⟨b, _, rfl, isBlank_of_isDigit hb, beq_eq_false_iff_ne.mp (beq_of_isDigit hb rfl)⟩
  | boolean b => cases b <;> exact ⟨_, _, rfl, by decide⟩
  | _ => exact ⟨_, _, rfl, by decide⟩

/-- Only a list begins with an opening bracket. -/
theorem Tree.first_ne_bracket {t : Tree} {b : UInt8} {bs : List UInt8} (h : t.bytes = b :: bs)
    (harray : ∀ items, t ≠ .array items) : b ≠ byte '[' := by
  cases t with
  | array items => exact absurd rfl (harray items)
  | number n =>
    -- Numbers are the only trees that do not show their first byte: it may be a digit or the sign.
    obtain ⟨c, cs, hbytes, hc, -⟩ := n.whole.digits.exists_bytes_eq_cons
    rw [bytes, Numeral.bytes, Numeral.body, hbytes] at h
    cases hminus : n.minus with
    | true =>
      rw [hminus] at h
      cases h
      decide
    | false =>
      rw [hminus] at h
      cases h
      exact beq_eq_false_iff_ne.mp (beq_of_isDigit hc rfl)
  | boolean b => cases b <;> cases h <;> decide
  | _ =>
    cases h
    decide

theorem Tree.skipBlanks_bytes (t : Tree) (r : List UInt8) :
    skipBlanks (t.bytes ++ r) = t.bytes ++ r := by
  obtain ⟨b, bs, hbytes, hb, -⟩ := t.exists_bytes_eq_cons
  rw [hbytes, List.cons_append, skipBlanks_cons hb]

theorem Tree.skipBlanks_blanks (t : Tree) (ws : List Blank) (r : List UInt8) :
    skipBlanks (blanks ws ++ (t.bytes ++ r)) = t.bytes ++ r := by
  rw [Json.skipBlanks_blanks, t.skipBlanks_bytes]

/-! ## Reading scalars -/

section Scalars

variable {null : α} {boolean : Bool → α} {number : Number → α} {string : String → α}

theorem outcome_wordValue (tail : List UInt8) (v : α) (b : UInt8) (r : List UInt8) :
    outcome (wordValue tail v b (tail ++ r)) = some (v, r) := by
  have hsteps : outcome (wordValue tail v b (tail ++ r)) =
      (remainder (word tail (tail ++ r))).map fun rest => (v, rest) := by
    rw [wordValue]
    cases word tail (tail ++ r) <;> rfl
  rw [hsteps, remainder_word]
  rfl

theorem outcome_scalar_number {b : UInt8} (hb : isDigit b = true) (s : List UInt8)
    (o : Except Fault (Parsed α (b :: s))) :
    outcome (scalar null boolean number string b s o) =
      (outcome (unsignedNumber false (b :: s))).map (Prod.map number id) := by
  rw [scalar, beq_of_isDigit hb rfl, beq_of_isDigit hb rfl, beq_of_isDigit hb rfl,
    beq_of_isDigit hb rfl, hb]
  exact outcome_map ..

theorem outcome_scalar_minus (s : List UInt8) (o : Except Fault (Parsed α (byte '-' :: s))) :
    outcome (scalar null boolean number string (byte '-') s o) =
      (outcome (unsignedNumber true s)).map (Prod.map number id) :=
  outcome_map_behind ..

theorem outcome_scalar_string (s : List UInt8) (o : Except Fault (Parsed α (byte '"' :: s))) :
    outcome (scalar null boolean number string (byte '"') s o) =
      (outcome (stringTail s)).map (Prod.map string id) :=
  outcome_map_behind ..

end Scalars

/-- Reads a value of which the first byte is known. -/
theorem outcome_value_cons {depth : Nat} {b : UInt8} (h : skipBlanks s = b :: r) :
    outcome (value depth s) = outcome (scalar Value.null .boolean .number .string b r
      (if isOpening b then
        match depth with
        | inner + 2 => container (value (inner + 1)) b r
        | _ => .error .tooDeep
      else .error .expectedValue)) := by
  -- The reader matches on the text without blanks and keeps the equation, so the match is split and
  -- not rewritten.
  rw [value.eq_def]
  dsimp only
  split
  next h' => cases h.symm.trans h'
  next b' r' h' =>
    cases h.symm.trans h'
    exact outcome_within ..

/-- A scalar is read as what it means, at any depth. -/
theorem outcome_value_scalar (t : Tree) (h : skipBlanks s = t.bytes ++ r) (hr : EndsNumber r)
    (harray : ∀ items, t ≠ .array items) (hobject : ∀ members, t ≠ .object members) (depth : Nat) :
    outcome (value depth s) = (t.value? depth).map fun v => (v, r) := by
  cases t with
  | null => rw [outcome_value_cons h]; exact outcome_wordValue nullTail ..
  | boolean b =>
    cases b with
    | true => rw [outcome_value_cons h]; exact outcome_wordValue trueTail ..
    | false => rw [outcome_value_cons h]; exact outcome_wordValue falseTail ..
  | number n =>
    have hbody := outcome_unsignedNumber n hr
    rw [Tree.bytes, Numeral.bytes] at h
    have hmeans : (n.number?.map fun v => (v, r)).map (Prod.map Value.number id) =
        ((Tree.number n).value? depth).map fun v => (v, r) := by
      simp [Tree.value?, Function.comp_def]
    -- With and without a minus sign the body is the same; the sign is in what it means.
    rw [← hmeans, ← hbody]
    cases hminus : n.minus with
    | true =>
      rw [hminus, if_pos rfl, List.cons_append] at h
      rw [outcome_value_cons h, outcome_scalar_minus]
    | false =>
      obtain ⟨b, bs, hbytes, hb, -⟩ := n.whole.digits.exists_bytes_eq_cons
      rw [hminus, if_neg (by decide), Numeral.body, hbytes] at h
      rw [outcome_value_cons h, outcome_scalar_number hb, Numeral.body, hbytes]
      rfl
  | string ps =>
    rw [Tree.bytes, List.cons_append] at h
    rw [outcome_value_cons h, outcome_scalar_string, outcome_stringTail, Tree.value?]
    simp [Function.comp_def]
  | array items => exact absurd rfl (harray items)
  | object members => exact absurd rfl (hobject members)

/-! ## Reading lists -/

theorem nextElement_cons {first : Bool} {b : UInt8} (h : skipBlanks s = b :: r) :
    nextElement first s =
      if b == byte ']' then .ok (.done r (length_lt_of_skipBlanks h))
      else if first then .ok (.more (b :: r) (length_lt_of_skipBlanks h))
      else if b == byte ',' then
        match skipBlanks r with
        | [] => .error .endInValue
        | c :: _ =>
          if c == byte ']' then .error .trailingComma
          else .ok (.more r (Nat.le_of_lt (length_lt_of_skipBlanks h)))
      else .error .expectedCommaOrBracket := by
  rw [nextElement.eq_def]
  split
  next h' => cases h.symm.trans h'
  next h' =>
    cases h.symm.trans h'
    rfl

/-- Where another element is due, it is the next one. -/
theorem nextElement_item (t : Tree) {first : Bool} (before : List Blank)
    (h : skipBlanks s = skipBlanks (comma first ++ (blanks before ++ (t.bytes ++ r)))) :
    ∃ s' hs', nextElement first s = .ok (.more s' hs') ∧ skipBlanks s' = t.bytes ++ r := by
  obtain ⟨b, bs, hbytes, hb, hclose⟩ := t.exists_bytes_eq_cons
  rw [hbytes, List.cons_append] at h ⊢
  have hgap : skipBlanks (blanks before ++ (b :: (bs ++ r))) = b :: (bs ++ r) := by
    rw [skipBlanks_blanks, skipBlanks_cons hb]
  cases first with
  | true =>
    rw [comma, if_pos rfl, List.nil_append, hgap] at h
    refine ⟨b :: (bs ++ r), length_lt_of_skipBlanks h, ?_, skipBlanks_cons hb _⟩
    rw [nextElement_cons h, beq_eq_false_iff_ne.mpr hclose]
    rfl
  | false =>
    -- The reader looks behind the comma and goes on right after it.
    rw [comma, if_neg (by decide), List.singleton_append, skipBlanks_cons rfl] at h
    refine ⟨_, Nat.le_of_lt (length_lt_of_skipBlanks h), ?_, hgap⟩
    simp [nextElement_cons h, hgap, hclose, show byte ',' ≠ byte ']' by decide]

/-- The elements of a list are read one by one. What an item is read as is a parameter, so lists of
values and lists of records go through the same lemma. -/
theorem outcome_elements {item : Reader α} {means : Tree → Option α} :
    ∀ (items : Items) {first : Bool} {s : List UInt8},
      (∀ t ∈ items.list, ∀ {s r}, skipBlanks s = t.bytes ++ r → EndsNumber r →
        outcome (item s) = (means t).map fun v => (v, r)) →
      skipBlanks s = skipBlanks (items.bytes first ++ r) →
      outcome (elements item first s) = (items.list.mapM means).map fun vs => (vs, r)
  | .close gap, first, s, _, h => by
    rw [Items.bytes, List.append_assoc, skipBlanks_blanks, List.singleton_append,
      skipBlanks_cons rfl] at h
    rw [elements, nextElement_cons h]
    rfl
  | .item before tree after others, first, s, hitem, h => by
    obtain ⟨htree, hothers⟩ := List.forall_mem_cons.mp hitem
    simp only [Items.bytes, List.append_assoc] at h
    obtain ⟨s', hs', hturn, hnext⟩ := nextElement_item tree before h
    -- The equation of the loop without its proofs that each step gets shorter.
    have hsteps : outcome (elements item first s) = (outcome (item s')).bind fun v =>
        (outcome (elements item false v.2)).map (Prod.map (v.1 :: ·) id) := by
      rw [elements, hturn]
      dsimp only
      cases item s' with
      | error f => rfl
      | ok v =>
        dsimp only
        rw [outcome_ok, Option.bind_some]
        cases elements item false v.rest <;> rfl
    rw [hsteps, htree hnext (endsNumber_blanks after (others.endsNumber r))]
    -- The induction hypothesis, behind the comma: `first` is false there.
    have hrest :=
      outcome_elements others hothers (skipBlanks_blanks after (others.bytes false ++ r))
    rw [Items.list, List.mapM_cons]
    cases means tree with
    | none => rfl
    | some v =>
      rw [Option.map_some, Option.bind_some, hrest]
      cases others.list.mapM means <;> rfl

/-! ## Reading objects -/

theorem nextKey_quote {first : Bool} (before : List Blank)
    (h : skipBlanks s = skipBlanks (comma first ++ (blanks before ++ (byte '"' :: r)))) :
    ∃ hs, nextKey first s = .ok (.more r hs) := by
  have hgap : skipBlanks (blanks before ++ (byte '"' :: r)) = byte '"' :: r := by
    rw [skipBlanks_blanks, skipBlanks_cons rfl]
  cases first with
  | true =>
    rw [comma, if_pos rfl, List.nil_append, hgap] at h
    refine ⟨Nat.le_of_lt (length_lt_of_skipBlanks h), ?_⟩
    rw [nextKey.eq_def]
    split
    next h' => cases h.symm.trans h'
    next h' =>
      cases h.symm.trans h'
      rfl
  | false =>
    rw [comma, if_neg (by decide), List.singleton_append, skipBlanks_cons rfl] at h
    refine ⟨Nat.le_of_lt
      (Nat.lt_trans (length_lt_of_skipBlanks hgap) (length_lt_of_skipBlanks h)), ?_⟩
    rw [nextKey.eq_def]
    split
    next h' => cases h.symm.trans h'
    next h' =>
      cases h.symm.trans h'
      -- Neither the end of the object nor a mark that is missing: the comma, and a key behind it.
      simp only [show (byte ',' == byte '\x7d') = false from rfl, beq_self_eq_true, if_true,
        Bool.false_eq_true, if_false]
      split
      next h' => cases hgap.symm.trans h'
      next h' =>
        cases hgap.symm.trans h'
        rfl

theorem nextKey_close {first : Bool} (h : skipBlanks s = byte '\x7d' :: r) :
    nextKey first s = .ok (.done r (length_lt_of_skipBlanks h)) := by
  rw [nextKey.eq_def]
  split
  next h' => cases h.symm.trans h'
  next h' =>
    cases h.symm.trans h'
    rfl

theorem outcome_colon (beforeColon : List Blank) (r : List UInt8) :
    outcome (colon (blanks beforeColon ++ (byte ':' :: r))) = some ((), r) := by
  have h : skipBlanks (blanks beforeColon ++ (byte ':' :: r)) = byte ':' :: r := by
    rw [skipBlanks_blanks, skipBlanks_cons rfl]
  rw [colon.eq_def]
  split
  next h' => cases h.symm.trans h'
  next h' =>
    cases h.symm.trans h'
    rfl

/-- Reads the member that is due, and the members behind it. -/
theorem outcome_members_more {field : String → σ → Except Fault (Reader σ)} {first : Bool}
    {gathered : σ} {hr : r.length ≤ s.length} (h : nextKey first s = .ok (.more r hr)) :
    outcome (Json.members field first gathered s) =
      (outcome (stringTail r)).bind fun k => (field k.1 gathered).toOption.bind fun f =>
        (outcome (colon k.2)).bind fun c => (outcome (f c.2)).bind fun v =>
          outcome (Json.members field false v.1 v.2) := by
  -- One `cases` for each reader that is called in turn, and its failure is that of the whole.
  rw [Json.members, h]
  dsimp only
  cases stringTail r with
  | error f => rfl
  | ok k =>
    simp only [outcome_ok, Option.bind_some]
    cases field k.value gathered with
    | error f => rfl
    | ok f =>
      simp only [Except.toOption, Option.bind_some]
      cases colon k.rest with
      | error f => rfl
      | ok c =>
        simp only [outcome_ok, Option.bind_some]
        cases f c.rest with
        | error f => rfl
        | ok v =>
          simp only [outcome_ok, Option.bind_some]
          cases Json.members field false v.value v.rest <;> rfl

/-- Gathers members in order, each with its key. -/
def gatherMembers (take : String → Tree → σ → Option σ) (gathered : σ)
    (ms : List (List Piece × Tree)) : Option σ :=
  ms.foldlM (fun g m => (text? m.1).bind fun key => take key m.2 g) gathered

/-- The members of an object are read one by one, each with what has been gathered before it. A
record and an object of values differ only in what a member adds to what has been gathered. -/
theorem outcome_members {field : String → σ → Except Fault (Reader σ)}
    {take : String → Tree → σ → Option σ} :
    ∀ (members : Members) {first : Bool} {gathered : σ} {s : List UInt8},
      (∀ m ∈ members.list, ∀ key g {s r}, skipBlanks s = m.2.bytes ++ r → EndsNumber r →
        ((field key g).toOption.bind fun f => outcome (f s)) =
          (take key m.2 g).map fun g => (g, r)) →
      skipBlanks s = skipBlanks (members.bytes first ++ r) →
      outcome (Json.members field first gathered s) =
        (gatherMembers take gathered members.list).map fun g => (g, r)
  | .close gap, first, gathered, s, _, h => by
    rw [Members.bytes, List.append_assoc, skipBlanks_blanks, List.singleton_append,
      skipBlanks_cons rfl] at h
    rw [Json.members, nextKey_close h]
    rfl
  | .member before key beforeColon afterColon tree after others, first, gathered, s, hfield, h => by
    obtain ⟨htree, hothers⟩ := List.forall_mem_cons.mp hfield
    simp only [Members.bytes, List.append_assoc, List.cons_append] at h
    obtain ⟨hs, hturn⟩ := nextKey_quote before h
    rw [outcome_members_more hturn, outcome_stringTail, Members.list, gatherMembers,
      List.foldlM_cons]
    -- A key that is no text fails the object at once, before its value is looked at.
    cases text? key with
    | none => rfl
    | some name =>
      have hhead := htree name gathered
        (tree.skipBlanks_blanks afterColon (blanks after ++ (others.bytes false ++ r)))
        (endsNumber_blanks after (others.endsNumber r))
      simp only [Option.map_some, Option.bind_some, outcome_colon]
      -- What is gathered up to here is what the field's reader starts from.
      rw [← Option.bind_assoc, hhead]
      cases take name tree gathered with
      | none => rfl
      | some g => exact outcome_members others hothers (skipBlanks_blanks after _)

/-! ## Reading values -/

/-- Puts a member in front of those before it. -/
def consMember (depth : Nat) (key : String) (t : Tree) (before : List (String × Value)) :
    Option (List (String × Value)) :=
  (t.value? depth).map fun v => (key, v) :: before

theorem Members.gatherMembers_eq (depth : Nat) :
    ∀ (members : Members) (before : List (String × Value)),
      gatherMembers (consMember depth) before members.list =
        (members.values? depth).map fun vs => vs.reverse ++ before
  | .close _, before => rfl
  | .member _ key _ _ tree _ others, before => by
    have hothers := Members.gatherMembers_eq depth others
    rw [gatherMembers, Members.list, List.foldlM_cons, Members.values?]
    cases text? key with
    | none => rfl
    | some name =>
      rw [Option.bind_some, consMember]
      cases tree.value? depth with
      | none => rfl
      | some v =>
        -- Members are pushed in front, and turned round at the end.
        refine (hothers ((name, v) :: before)).trans ?_
        cases others.values? depth with
        | none => rfl
        | some vs => simp

/-- A value is read as what it means. -/
theorem outcome_value (t : Tree) : ∀ {depth : Nat} {s r : List UInt8},
    skipBlanks s = t.bytes ++ r → EndsNumber r →
      outcome (value depth s) = (t.value? depth).map fun v => (v, r) := by
  induction t using Tree.forall_of with
  | scalar t harray hobject =>
    intro depth s r h hr
    exact outcome_value_scalar t h hr harray hobject depth
  | array items ih =>
    intro depth s r h hr
    rw [Tree.bytes, List.cons_append] at h
    rw [outcome_value_cons h]
    match depth with
    -- The reader gives up at the bracket.
    | 0 | 1 => rfl
    | inner + 2 =>
      have hitems : outcome (elements (value (inner + 1)) true (items.bytes true ++ r)) =
          (items.list.mapM fun t : Tree => t.value? (inner + 1)).map fun vs => (vs, r) :=
        outcome_elements items (fun t ht s r => ih t ht) rfl
      refine (outcome_map_behind ..).trans ?_
      rw [hitems, Tree.value?, Items.values?_eq_mapM]
      simp [Function.comp_def]
  | object members ih =>
    intro depth s r h hr
    rw [Tree.bytes, List.cons_append] at h
    rw [outcome_value_cons h]
    match depth with
    | 0 | 1 => rfl
    | inner + 2 =>
      have hmembers : outcome (Json.members (fun key before =>
            .ok ((value (inner + 1)).map fun v => (key, v) :: before)) true []
              (members.bytes true ++ r)) =
          (gatherMembers (consMember (inner + 1)) [] members.list).map fun vs => (vs, r) := by
        refine outcome_members members (fun m hm key before s r h hr => ?_) rfl
        refine (outcome_map ..).trans ?_
        rw [ih m hm h hr, consMember]
        simp [Function.comp_def]
      refine (outcome_map_behind ..).trans ?_
      rw [hmembers, Members.gatherMembers_eq, Tree.value?]
      simp [Function.comp_def]

end TrafficMap.Json
