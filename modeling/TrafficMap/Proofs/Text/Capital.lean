import TrafficMap.Text.Uppercase

/-!
# Text: Capital Letters

What the table of capitals guarantees. Every character has a capital of one character or more; a
character of a capital is its own capital, so that writing capitals twice changes nothing; and no
capital holds a space or a mark of punctuation that separates words.

The table is finite, and the facts about it are decided by going through its entries. That no
capital is among the entries would take millions of comparisons; as sets of binary digits, the two
are compared at once.
-/

namespace TrafficMap.Text

/-! ## The entries of the table -/

/-- The code points that a shift moves. -/
def Shift.points (shift : Shift) : List Nat :=
  (List.range ((shift.last - shift.first) / shift.step + 1)).map fun k =>
    shift.first + k * shift.step

theorem Shift.mem_points {shift : Shift} {n : Nat} (h : shift.contains n = true) :
    n ∈ shift.points := by
  simp only [contains, Bool.and_eq_true, decide_eq_true_eq, beq_iff_eq] at h
  obtain ⟨⟨hfirst, hlast⟩, hstep⟩ := h
  -- The number of steps from the first code point is what `points` counts.
  have hcount : (n - shift.first) / shift.step < (shift.last - shift.first) / shift.step + 1 :=
    Nat.lt_succ_of_le (Nat.div_le_div_right (by omega))
  have hpoint : shift.first + (n - shift.first) / shift.step * shift.step = n := by
    have hdivision := Nat.div_add_mod (n - shift.first) shift.step
    rw [Nat.mul_comm] at hdivision
    omega
  exact List.mem_map.mpr ⟨_, List.mem_range.mpr hcount, hpoint⟩

/-- All code points with an entry, each with the code points of its capital. -/
def capitalEntries : List (Nat × List Nat) :=
  capitalSequences ++
    capitalRuns.flatMap fun shift => shift.points.map fun n => (n, [shift.apply n])

/-- A capital comes from an entry of the table, or it is the character itself. -/
theorem uppercase_eq (c : Char) :
    uppercase c = [c] ∨
      ∃ capital, (c.toNat, capital) ∈ capitalEntries ∧ uppercase c = capital.map Char.ofNat := by
  -- The sequences are looked up first, then the shifts of whole ranges.
  unfold uppercase
  split
  case h_1 sequence hsequence =>
    obtain ⟨before, after, htable, -⟩ := List.lookup_eq_some_iff.mp hsequence
    have hmem : (c.toNat, sequence) ∈ capitalSequences := by simp [htable]
    exact .inr ⟨sequence, List.mem_append_left _ hmem, rfl⟩
  case h_2 =>
    split
    case h_1 shift hshift =>
      have hcontains : shift.contains c.toNat = true := by
        simpa using List.find?_some hshift
      have hpoint := Shift.mem_points hcontains
      refine .inr ⟨[shift.apply c.toNat], List.mem_append_right _ ?_, rfl⟩
      exact List.mem_flatMap.mpr
        ⟨shift, List.mem_of_find?_eq_some hshift, List.mem_map.mpr ⟨_, hpoint, rfl⟩⟩
    case h_2 => exact .inl rfl

/-! ## Sets of code points as numbers -/

/-- The number whose binary digits tell which numbers a list has. -/
def bits (ns : List Nat) : Nat :=
  ns.foldr (fun n rest => 1 <<< n ||| rest) 0

theorem testBit_bits (ns : List Nat) (n : Nat) : (bits ns).testBit n = decide (n ∈ ns) := by
  induction ns with
  | nil => simp [bits]
  | cons m ns ih =>
    have hcons : bits (m :: ns) = 1 <<< m ||| bits ns := rfl
    rw [hcons, Nat.testBit_or, ih, Nat.one_shiftLeft, Nat.testBit_two_pow]
    simp [List.mem_cons, eq_comm]

/-- Lists whose numbers have no digit in common have no element in common. -/
theorem notMem_of_land_bits {ms ns : List Nat} (h : bits ms &&& bits ns = 0) :
    ∀ n ∈ ms, n ∉ ns := by
  intro n hms hns
  -- A common element would be a common digit.
  have hcommon : (bits ms &&& bits ns).testBit n = true := by
    rw [Nat.testBit_and, testBit_bits, testBit_bits, decide_eq_true hms, decide_eq_true hns]
    rfl
  rw [h, Nat.zero_testBit] at hcommon
  cases hcommon

/-! ## Capitals -/

/-- Every entry holds characters, one at least. -/
theorem capitalEntries_valid :
    ∀ entry ∈ capitalEntries, entry.2 ≠ [] ∧ ∀ n ∈ entry.2, n.isValidChar := by
  decide +kernel

/-- The code points that no capital holds: separators, and whatever has an entry itself. -/
def excludedPoints : List Nat :=
  [' ', '-', '.', '_'].map Char.toNat ++ capitalEntries.map (·.1)

theorem capitals_apart :
    bits (capitalEntries.flatMap (·.2)) &&& bits excludedPoints = 0 := by
  decide +kernel

theorem uppercase_ne_nil (c : Char) : uppercase c ≠ [] := by
  obtain hself | ⟨capital, hentry, hcapital⟩ := uppercase_eq c
  · rw [hself]
    exact List.cons_ne_nil _ _
  · rw [hcapital]
    exact mt List.map_eq_nil_iff.mp (capitalEntries_valid _ hentry).1

/-- A character without an entry is its own capital, and the characters of an entry are none of the
excluded ones. -/
theorem eq_or_notMem_excludedPoints {c d : Char} (h : d ∈ uppercase c) :
    d = c ∧ uppercase c = [c] ∨ d.toNat ∉ excludedPoints := by
  obtain hself | ⟨capital, hentry, hcapital⟩ := uppercase_eq c
  · rw [hself, List.mem_singleton] at h
    exact .inl ⟨h, hself⟩
  · rw [hcapital] at h
    obtain ⟨n, hn, rfl⟩ := List.mem_map.mp h
    -- The table holds numbers, and only those of characters come back from a character.
    have hvalid := (capitalEntries_valid _ hentry).2 n hn
    have htoNat : (Char.ofNat n).toNat = n := by
      rw [Char.ofNat, dif_pos hvalid]
      rfl
    rw [htoNat]
    exact .inr (notMem_of_land_bits capitals_apart n (List.mem_flatMap.mpr ⟨_, hentry, hn⟩))

/-- **The characters of a capital are capitals**: nothing happens to them when they are written as
capitals again. It is a fact about the tables: no capital that they give is itself an entry of
them. -/
theorem uppercase_of_mem_uppercase {c d : Char} (h : d ∈ uppercase c) : uppercase d = [d] := by
  obtain ⟨rfl, hself⟩ | hexcluded := eq_or_notMem_excludedPoints h
  · exact hself
  · obtain hself | ⟨capital, hentry, -⟩ := uppercase_eq d
    · exact hself
    · exact absurd (List.mem_append_right _ (List.mem_map_of_mem hentry)) hexcluded

/-- Writing capitals makes no separators. -/
theorem eq_or_notSeparator_of_mem_uppercase {c d : Char} (h : d ∈ uppercase c) :
    d = c ∨ d ∉ [' ', '-', '.', '_'] := by
  obtain ⟨heq, -⟩ | hexcluded := eq_or_notMem_excludedPoints h
  · exact .inl heq
  · exact .inr fun hd => hexcluded (List.mem_append_left _ (List.mem_map_of_mem hd))

end TrafficMap.Text
