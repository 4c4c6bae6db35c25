import TrafficMap.Text.Blank

/-!
# Text: Pieces and Words

A text is split into pieces at every character that satisfies a predicate: there is one piece more
than there are such characters, pieces may be empty, and joining them by such a character makes a
text that splits into the same pieces. Words are the pieces that are not empty.
-/

namespace TrafficMap.Text

/-! ## Joining -/

section

variable {α : Type} {sep : List α}

theorem intercalate_append_cons (front piece : List α) (pieces : List (List α)) :
    sep.intercalate ((front ++ piece) :: pieces) = front ++ sep.intercalate (piece :: pieces) := by
  cases pieces with
  | nil => simp
  | cons next pieces => simp [List.append_assoc]

theorem mem_or_exists_of_mem_intercalate {pieces : List (List α)} {a : α}
    (h : a ∈ sep.intercalate pieces) : a ∈ sep ∨ ∃ piece ∈ pieces, a ∈ piece := by
  induction pieces with
  | nil => cases h
  | cons piece pieces ih =>
    -- The separator stands between two pieces only, so the last piece is a case of its own.
    cases pieces with
    | nil =>
      rw [List.intercalate_singleton] at h
      exact .inr ⟨piece, List.mem_singleton_self _, h⟩
    | cons next pieces =>
      rw [List.intercalate_cons_cons, List.mem_append, List.mem_append] at h
      obtain (h | h) | h := h
      · exact .inr ⟨piece, List.mem_cons_self, h⟩
      · exact .inl h
      · obtain hsep | ⟨found, hfound, ha⟩ := ih h
        · exact .inl hsep
        · exact .inr ⟨found, List.mem_cons_of_mem _ hfound, ha⟩

end

/-! ## Splitting -/

section

variable {α : Type} {p : α → Bool}

/-- A character that splits begins a new piece, and any other one belongs to the first piece. -/
theorem exists_splitOnP_cons (p : α → Bool) (a : α) (as : List α) :
    ∃ piece pieces, as.splitOnP p = piece :: pieces ∧
      (a :: as).splitOnP p =
        if p a then [] :: piece :: pieces else (a :: piece) :: pieces := by
  obtain ⟨piece, pieces, hpieces⟩ := List.exists_cons_of_ne_nil (List.splitOnP_ne_nil p as)
  refine ⟨piece, pieces, hpieces, ?_⟩
  rw [List.splitOnP_cons_eq_if_modifyHead, hpieces, List.modifyHead_cons]

/-- No piece holds what splits. -/
theorem eq_false_of_mem_splitOnP {as piece : List α} (h : piece ∈ as.splitOnP p) :
    ∀ a ∈ piece, p a = false := by
  induction as generalizing piece with
  | nil =>
    rw [List.splitOnP_nil, List.mem_singleton] at h
    simp [h]
  | cons a as ih =>
    -- An element either begins a piece of its own or joins the first piece of the rest.
    obtain ⟨first, rest, hrest, hcons⟩ := exists_splitOnP_cons p a as
    rw [hrest] at ih
    rw [hcons] at h
    cases hsplits : p a with
    | true =>
      rw [hsplits, if_pos rfl, List.mem_cons] at h
      obtain rfl | h := h
      · simp
      · exact ih h
    | false =>
      rw [hsplits, if_neg Bool.false_ne_true, List.mem_cons] at h
      obtain rfl | h := h
      · exact List.forall_mem_cons.mpr ⟨hsplits, ih List.mem_cons_self⟩
      · exact ih (List.mem_cons_of_mem _ h)

theorem length_splitOnP (p : α → Bool) (as : List α) :
    (as.splitOnP p).length = as.countP p + 1 := by
  induction as with
  | nil => rfl
  | cons a as ih =>
    obtain ⟨piece, pieces, hpieces, hcons⟩ := exists_splitOnP_cons p a as
    rw [hpieces] at ih
    rw [hcons, List.countP_cons, ← Nat.add_right_comm, ← ih]
    split <;> rfl

/-- Pieces are found again between what joins them. -/
theorem splitOnP_intercalate {sep : α} (hsep : p sep = true) {pieces : List (List α)}
    (hne : pieces ≠ []) (h : ∀ piece ∈ pieces, ∀ a ∈ piece, p a = false) :
    ([sep].intercalate pieces).splitOnP p = pieces := by
  induction pieces with
  | nil => exact absurd rfl hne
  | cons piece pieces ih =>
    rw [List.forall_mem_cons] at h
    -- The last piece has no separator behind it.
    cases pieces with
    | nil => rw [List.intercalate_singleton, List.splitOnP_eq_singleton h.1]
    | cons next pieces =>
      rw [List.intercalate_cons_cons, List.append_assoc, List.singleton_append,
        List.splitOnP_append_cons_of_forall_mem h.1 sep hsep, ih (List.cons_ne_nil _ _) h.2]

end

/-! ## Words -/

/-- **Words are the pieces that are not empty.** The program builds words from the end of the text,
character by character; the pieces are those of the library. -/
theorem splitList_eq_filter (p : Char → Bool) (cs : List Char) :
    splitList p cs = (cs.splitOnP p).filter (· ≠ []) := by
  induction cs with
  | nil => rfl
  | cons c cs ih =>
    obtain ⟨piece, pieces, hpieces, hcons⟩ := exists_splitOnP_cons p c cs
    rw [hpieces] at ih
    rw [hcons]
    unfold splitList
    rw [ih]
    cases hc : p c with
    | true => simp
    | false =>
      cases cs with
      | nil => simp_all
      | cons d ds =>
        -- A word goes on where the next character belongs to it as well.
        obtain ⟨next, rest, hrest, hcons'⟩ := exists_splitOnP_cons p d ds
        rw [hpieces] at hcons'
        cases hd : p d with
        | true =>
          obtain ⟨rfl, rfl⟩ : piece = [] ∧ pieces = next :: rest := by simpa [hd] using hcons'
          simp [hd]
        | false =>
          obtain ⟨rfl, rfl⟩ : piece = d :: next ∧ pieces = rest := by simpa [hd] using hcons'
          simp [hd]

end TrafficMap.Text
