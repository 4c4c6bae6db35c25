import TrafficMap.Text.Blank

/-!
# Text: Padding and Digits

Two simple things that a reader takes from a text, described without an algorithm. `trim` leaves
what is there with blanks before and after, and whatever has no blank inside is found between any
blanks. Decimal digits are a whole number: `naturalOf?` knows nothing of how numbers are printed,
and printed digits are read as the number they were printed for.
-/

namespace TrafficMap.Text

/-! ## Lists of characters -/

/-- What `stripList` removes at either end satisfies the predicate. -/
theorem exists_padding_stripList (p : Char → Bool) (cs : List Char) :
    ∃ before after, cs = before ++ stripList p cs ++ after ∧
      (∀ c ∈ before, p c = true) ∧ (∀ c ∈ after, p c = true) := by
  refine ⟨cs.takeWhile p, ((cs.dropWhile p).reverse.takeWhile p).reverse, ?_, ?_, ?_⟩
  · rw [stripList, List.append_assoc, ← List.reverse_append, List.takeWhile_append_dropWhile,
      List.reverse_reverse, List.takeWhile_append_dropWhile]
  · exact List.all_eq_true.mp List.all_takeWhile
  · intro c hc
    exact List.all_eq_true.mp List.all_takeWhile c (List.mem_reverse.mp hc)

theorem dropWhile_eq_self_of_none {p : Char → Bool} {core : List Char}
    (h : ∀ c ∈ core, p c = false) : core.dropWhile p = core := by
  cases core with
  | nil => rfl
  | cons c rest => exact List.dropWhile_cons_of_neg (by simp [h c List.mem_cons_self])

theorem stripList_padded {p : Char → Bool} {before core after : List Char}
    (hbefore : ∀ c ∈ before, p c = true) (hcore : ∀ c ∈ core, p c = false)
    (hafter : ∀ c ∈ after, p c = true) :
    stripList p (before ++ core ++ after) = core := by
  -- With nothing inside, the first of the two passes already takes everything.
  cases core with
  | nil =>
    have hall : ∀ c ∈ before ++ after, p c = true :=
      fun c hc => (List.mem_append.mp hc).elim (hbefore c) (hafter c)
    have hnil : (before ++ after ++ []).dropWhile p = [] := List.dropWhile_append_of_pos hall
    rw [List.append_nil] at hnil
    rw [stripList, List.append_nil, hnil]
    rfl
  | cons c rest =>
    -- From the front, then turned round from the back.
    have hfront : (before ++ (c :: rest) ++ after).dropWhile p = (c :: rest) ++ after := by
      rw [List.append_assoc, List.dropWhile_append_of_pos hbefore, List.cons_append]
      exact List.dropWhile_cons_of_neg (by simp [hcore c List.mem_cons_self])
    have hback : ∀ d ∈ after.reverse, p d = true := fun d hd => hafter d (List.mem_reverse.mp hd)
    have hrest : ∀ d ∈ (c :: rest).reverse, p d = false :=
      fun d hd => hcore d (List.mem_reverse.mp hd)
    rw [stripList, hfront, List.reverse_append, List.dropWhile_append_of_pos hback,
      dropWhile_eq_self_of_none hrest, List.reverse_reverse]

/-! ## Texts -/

/-- The text is `core` with nothing but blanks before and after it. -/
def IsPadded (s : String) (core : List Char) : Prop :=
  ∃ before after, s.toList = before ++ core ++ after ∧
    (∀ c ∈ before, isBlank c = true) ∧ (∀ c ∈ after, isBlank c = true)

theorem isPadded_trim (s : String) : IsPadded s (trim s).toList := by
  rw [trim, String.toList_ofList]
  exact exists_padding_stripList isBlank s.toList

/-- Between blanks there is only one text without a blank. -/
theorem IsPadded.trim_eq {s : String} {core : List Char} (h : IsPadded s core)
    (hcore : ∀ c ∈ core, isBlank c = false) : (trim s).toList = core := by
  obtain ⟨before, after, hs, hbefore, hafter⟩ := h
  rw [trim, String.toList_ofList, hs]
  exact stripList_padded hbefore hcore hafter

/-! ## Letter case -/

/-- No blank is a capital letter. -/
theorem toLower_of_isBlank {c : Char} (h : isBlank c = true) : c.toLower = c := by
  have hcapital : ¬ (c.val ≥ 'A'.val ∧ c.val ≤ 'Z'.val) := by
    simp only [isBlank, Bool.or_eq_true, Bool.and_eq_true, decide_eq_true_eq, beq_iff_eq,
      Char.toNat] at h
    simp only [ge_iff_le, UInt32.le_iff_toNat_le]
    have hA : 'A'.val.toNat = 65 := rfl
    have hZ : 'Z'.val.toNat = 90 := rfl
    omega
  exact dif_neg hcapital

/-- A word of which no letter is a blank when made small has no blank at all. -/
theorem not_isBlank_of_toLower {core : List Char} {word : List Char}
    (hword : ∀ c ∈ word, isBlank c = false) (h : core.map Char.toLower = word) :
    ∀ c ∈ core, isBlank c = false := by
  intro c hc
  rw [← Bool.not_eq_true]
  intro hblank
  have hmem : c.toLower ∈ word := h ▸ List.mem_map_of_mem hc
  rw [toLower_of_isBlank hblank] at hmem
  rw [hword c hmem] at hblank
  cases hblank

/-- The trimmed text is, up to the case of ASCII letters, a word without blanks exactly when the
text is that word between blanks. -/
theorem lowered_trim_eq_iff (s : String) {word : List Char}
    (hword : ∀ c ∈ word, isBlank c = false) :
    lowered (trim s) = String.ofList word ↔
      ∃ core, IsPadded s core ∧ core.map Char.toLower = word := by
  rw [lowered, String.ofList_inj]
  constructor
  · intro h
    exact ⟨(trim s).toList, isPadded_trim s, h⟩
  · rintro ⟨core, hpadded, hcore⟩
    rw [hpadded.trim_eq (not_isBlank_of_toLower hword hcore), hcore]

/-- The text is the word between blanks, in whatever letter case. Words in a report are compared
like this. -/
def Spells (s word : String) : Prop :=
  ∃ core, IsPadded s core ∧ core.map Char.toLower = word.toList

theorem spells_iff (s : String) {word : String} (hword : ∀ c ∈ word.toList, isBlank c = false) :
    Spells s word ↔ lowered (trim s) = word := by
  have h := lowered_trim_eq_iff s hword
  rw [String.ofList_toList] at h
  exact h.symm

end TrafficMap.Text

/-! ## Whole numbers -/

namespace TrafficMap

/-- The number that decimal digits denote, one digit at least. -/
def naturalOf? (cs : List Char) : Option Nat :=
  if cs ≠ [] ∧ cs.all Char.isDigit then some (Nat.ofDigitChars 10 cs 0) else none

theorem isDigit_of_mem_toDigits {n : Nat} {c : Char} (h : c ∈ Nat.toDigits 10 n) :
    c.isDigit = true :=
  Nat.isDigit_of_mem_toDigits (by decide) (by decide) h

theorem naturalOf?_toDigits (n : Nat) : naturalOf? (Nat.toDigits 10 n) = some n := by
  have hdigits : (Nat.toDigits 10 n).all Char.isDigit = true := by
    rw [List.all_eq_true]
    intro c
    exact isDigit_of_mem_toDigits
  rw [naturalOf?, if_pos ⟨Nat.toDigits_ne_nil, hdigits⟩, Nat.ofDigitChars_ten_toDigits]

end TrafficMap
