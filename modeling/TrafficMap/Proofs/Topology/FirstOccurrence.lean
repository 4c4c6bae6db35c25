import TrafficMap.Topology.Snapshot

/-!
# Topology: First Occurrences

What `distinctOn` keeps: a sublist in which every key of the original list occurs, and occurs once.
A list that repeats no key is left alone.

`IsFirstOccurrences` says the same of the keys without an algorithm: which keys there are, and in
which order they stand. It leaves no choice, so it is what a reader of the result may rely on.
-/

namespace TrafficMap

/-- The elements of `all`, each once, in the order in which they first occur there. It determines
the list, so what keeps first occurrences is told by what it is applied to. -/
structure IsFirstOccurrences {β : Type} [BEq β] (ks all : List β) : Prop where
  mem_iff : ∀ k, k ∈ ks ↔ k ∈ all
  /-- What stands earlier occurs earlier for the first time. -/
  ordered : ks.Pairwise fun a b => all.idxOf a < all.idxOf b

variable {α β : Type} [BEq β] [LawfulBEq β] (key : α → β)

/-! ## What is kept -/

omit [LawfulBEq β] in
theorem distinctOn_sublist (xs : List α) : (distinctOn key xs).Sublist xs := by
  induction xs with
  | nil => exact List.Sublist.refl []
  | cons x xs ih =>
    rw [distinctOn]
    exact (List.filter_sublist.trans ih).cons_cons x

/-- Of the elements with one key a single one is kept. -/
theorem nodup_map_distinctOn (xs : List α) : ((distinctOn key xs).map key).Nodup := by
  induction xs with
  | nil => exact List.nodup_nil
  | cons x xs ih =>
    rw [distinctOn, List.map_cons, List.nodup_cons]
    constructor
    · intro hmem
      obtain ⟨y, hy, hkey⟩ := List.mem_map.mp hmem
      have hne := (List.mem_filter.mp hy).2
      simp [hkey] at hne
    · exact ih.sublist (List.filter_sublist.map key)

/-- No key is lost. -/
theorem mem_map_distinctOn {xs : List α} {k : β} :
    k ∈ (distinctOn key xs).map key ↔ k ∈ xs.map key := by
  constructor
  · exact fun h => ((distinctOn_sublist key xs).map key).subset h
  · intro h
    induction xs with
    | nil => exact h
    | cons x xs ih =>
      rw [distinctOn, List.map_cons, List.mem_cons]
      by_cases hk : k = key x
      · exact Or.inl hk
      · obtain ⟨y, hy, rfl⟩ := List.mem_map.mp (ih ((List.mem_cons.mp h).resolve_left hk))
        exact Or.inr (List.mem_map.mpr ⟨y, List.mem_filter.mpr ⟨hy, by simpa using hk⟩, rfl⟩)

/-- Where no key repeats there is nothing to drop. -/
theorem distinctOn_eq_self {xs : List α} (h : (xs.map key).Nodup) : distinctOn key xs = xs := by
  induction xs with
  | nil => rfl
  | cons x xs ih =>
    rw [List.map_cons, List.nodup_cons] at h
    rw [distinctOn, ih h.2, List.filter_eq_self.mpr]
    intro y hy
    have hne : key y ≠ key x := fun heq => h.1 (heq ▸ List.mem_map_of_mem hy)
    simpa using hne

/-! ## Order -/

/-- Keys other than the first one are found one place later in a longer list. -/
theorem idxOf_cons_of_bne {k l : β} (ks : List β) (h : (l != k) = true) :
    (k :: ks).idxOf l = ks.idxOf l + 1 := by
  have hne : (k == l) = false := beq_false_of_ne (Ne.symm (bne_iff_ne.mp h))
  rw [List.idxOf_cons, hne, cond_false]

/-- What is kept stands in the order of first occurrences. -/
theorem pairwise_distinctOn (xs : List α) :
    (distinctOn key xs).Pairwise fun x y =>
      (xs.map key).idxOf (key x) < (xs.map key).idxOf (key y) := by
  induction xs with
  | nil => exact List.Pairwise.nil
  | cons x xs ih =>
    rw [distinctOn, List.map_cons]
    apply List.Pairwise.cons
    · intro y hy
      have hne : (key y != key x) = true := (List.mem_filter.mp hy).2
      rw [List.idxOf_cons_self, idxOf_cons_of_bne (xs.map key) hne]
      exact Nat.succ_pos _
    · rw [List.pairwise_filter]
      refine ih.imp ?_
      intro y z hlt hy hz
      rw [idxOf_cons_of_bne (xs.map key) hy, idxOf_cons_of_bne (xs.map key) hz]
      exact Nat.succ_lt_succ hlt

theorem isFirstOccurrences_distinctOn (xs : List α) :
    IsFirstOccurrences ((distinctOn key xs).map key) (xs.map key) where
  mem_iff _ := mem_map_distinctOn key
  ordered := List.pairwise_map.mpr (pairwise_distinctOn key xs)

/-! ## Which of several is kept -/

/-- Of the elements with one key the first one is kept. -/
theorem find?_of_mem_distinctOn {xs : List α} {x : α} (h : x ∈ distinctOn key xs) :
    xs.find? (key · == key x) = some x := by
  induction xs with
  | nil => cases h
  | cons y ys ih =>
    rw [distinctOn, List.mem_cons] at h
    rcases h with rfl | h
    · rw [List.find?_cons, beq_self_eq_true]
    · obtain ⟨hmem, hne⟩ := List.mem_filter.mp h
      have hother : (key y == key x) = false := beq_false_of_ne (Ne.symm (bne_iff_ne.mp hne))
      rw [List.find?_cons, hother]
      exact ih hmem

/-- Whether keys are singled out before or after makes no difference. -/
theorem filter_distinctOn (p : β → Bool) (xs : List α) :
    (distinctOn key xs).filter (fun x => p (key x)) =
      distinctOn key (xs.filter fun x => p (key x)) := by
  induction xs with
  | nil => rfl
  | cons x xs ih =>
    cases hp : p (key x) with
    | true =>
      rw [distinctOn, List.filter_cons, List.filter_cons, hp, if_pos rfl, if_pos rfl, distinctOn,
        ← ih, List.filter_filter, List.filter_filter]
      simp only [Bool.and_comm]
    | false =>
      rw [distinctOn, List.filter_cons, List.filter_cons, hp, if_neg Bool.false_ne_true,
        if_neg Bool.false_ne_true, ← ih, List.filter_filter]
      apply List.filter_congr
      intro y _
      -- An element that satisfies the predicate has another key than one that does not.
      cases hy : p (key y) with
      | false => rfl
      | true =>
        have hne : key y ≠ key x := by
          intro heq
          rw [heq, hp] at hy
          cases hy
        simpa using hne

/-- An element whose key has occurred before may as well be left out. -/
theorem distinctOn_append_of_mem {before : List α} {x : α} (h : key x ∈ before.map key)
    (after : List α) :
    distinctOn key (before ++ x :: after) = distinctOn key (before ++ after) := by
  induction before with
  | nil => cases h
  | cons b before ih =>
    rw [List.cons_append, List.cons_append, distinctOn, distinctOn]
    by_cases hkey : key x = key b
    · rw [filter_distinctOn key (· != key b), filter_distinctOn key (· != key b),
        List.filter_append, List.filter_append, List.filter_cons_of_neg (by simp [hkey])]
    · rw [ih ((List.mem_cons.mp h).resolve_left hkey)]

end TrafficMap
