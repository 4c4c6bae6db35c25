import TrafficMap.Proofs.Text.Capital
import TrafficMap.Proofs.Text.Pieces
import TrafficMap.Report.Normal

/-!
# Display Names by Words

A display name is made in one pass over the characters of an id, which keeps in mind where a word
begins. The result is described here without a pass: the id is split at its separators, every piece
is capitalized, and the pieces are joined by spaces.

Whatever else a display name is follows from that. It has no separator but the spaces that join its
pieces, so it splits into these pieces again, and capitalizing them once more changes nothing.
-/

namespace TrafficMap

/-! ## Separators -/

theorem isSeparator_eq : isSeparator = fun c => decide (c ∈ [' ', '-', '.', '_']) := by
  funext c
  rw [Bool.eq_iff_iff]
  simp only [isSeparator, Bool.or_eq_true, beq_iff_eq, decide_eq_true_eq, List.mem_cons,
    List.not_mem_nil, or_false]
  constructor
  · rintro (((rfl | rfl) | rfl) | rfl) <;> simp
  · rintro (rfl | rfl | rfl | rfl) <;> simp

/-- The capital of a character that separates nothing does not separate anything either. -/
theorem isSeparator_of_mem_uppercase {c d : Char} (hc : isSeparator c = false)
    (hd : d ∈ Text.uppercase c) : isSeparator d = false := by
  obtain rfl | hapart := Text.eq_or_notSeparator_of_mem_uppercase hd
  · exact hc
  · rw [isSeparator_eq]
    exact decide_eq_false hapart

/-! ## Words -/

/-- A word with its first character written as a capital. -/
def capitalized : List Char → List Char
  | [] => []
  | c :: cs => Text.uppercase c ++ cs

/-- A capital stays what it is, even if it is several characters. -/
theorem capitalized_capitalized (word : List Char) :
    capitalized (capitalized word) = capitalized word := by
  cases word with
  | nil => rfl
  | cons c cs =>
    obtain ⟨d, ds, hcapital⟩ := List.exists_cons_of_ne_nil (Text.uppercase_ne_nil c)
    have hself : Text.uppercase d = [d] :=
      Text.uppercase_of_mem_uppercase (hcapital ▸ List.mem_cons_self)
    simp only [capitalized, hcapital, List.cons_append, hself, List.nil_append]

theorem isSeparator_of_mem_capitalized {word : List Char}
    (h : ∀ c ∈ word, isSeparator c = false) : ∀ c ∈ capitalized word, isSeparator c = false := by
  cases word with
  | nil => exact h
  | cons first rest =>
    intro c hc
    rw [capitalized, List.mem_append] at hc
    obtain hc | hc := hc
    · exact isSeparator_of_mem_uppercase (h first List.mem_cons_self) hc
    · exact h c (List.mem_cons_of_mem _ hc)

/-! ## One pass -/

/-- What the pass makes of a piece, at the start of a word or within a word. -/
def written (wordStart : Bool) (piece : List Char) : List Char :=
  if wordStart then capitalized piece else piece

/-- **One pass is splitting, capitalizing and joining.** Only for the first piece it matters whether
a word starts there; every other piece follows a separator. -/
theorem displayChars_eq (wordStart : Bool) {cs piece : List Char} {pieces : List (List Char)}
    (h : cs.splitOnP isSeparator = piece :: pieces) :
    displayChars wordStart cs =
      [' '].intercalate (written wordStart piece :: pieces.map capitalized) := by
  induction cs generalizing wordStart piece pieces with
  | nil =>
    obtain ⟨rfl, rfl⟩ : [] = piece ∧ [] = pieces := by simpa using h
    cases wordStart <;> rfl
  | cons c cs ih =>
    obtain ⟨next, rest, hrest, hcons⟩ := Text.exists_splitOnP_cons isSeparator c cs
    rw [hcons] at h
    unfold displayChars
    cases hseparator : isSeparator c with
    | true =>
      -- A separator ends a piece without characters, and a word starts behind it.
      obtain ⟨rfl, rfl⟩ : [] = piece ∧ next :: rest = pieces := by simpa [hseparator] using h
      have hnil : written wordStart [] = [] := by cases wordStart <;> rfl
      rw [if_pos rfl, ih true hrest, hnil, List.map_cons, List.intercalate_cons_cons]
      rfl
    | false =>
      -- Any other character belongs to the piece, the rest of which is no start of a word.
      obtain ⟨rfl, rfl⟩ : c :: next = piece ∧ rest = pieces := by simpa [hseparator] using h
      rw [if_neg Bool.false_ne_true, ih false hrest]
      cases wordStart with
      | true => exact (Text.intercalate_append_cons (Text.uppercase c) next _).symm
      | false => exact (Text.intercalate_append_cons [c] next _).symm

def namePieces (id : String) : List (List Char) :=
  (id.toList.splitOnP isSeparator).map capitalized

theorem toList_displayName (id : String) :
    (displayName id).toList = [' '].intercalate (namePieces id) := by
  obtain ⟨piece, pieces, hpieces⟩ :=
    List.exists_cons_of_ne_nil (List.splitOnP_ne_nil isSeparator id.toList)
  rw [displayName, String.toList_ofList, displayChars_eq true hpieces, namePieces, hpieces]
  rfl

theorem isSeparator_of_mem_namePieces {id : String} :
    ∀ piece ∈ namePieces id, ∀ c ∈ piece, isSeparator c = false := by
  intro piece hpiece
  obtain ⟨word, hword, rfl⟩ := List.mem_map.mp hpiece
  exact isSeparator_of_mem_capitalized (Text.eq_false_of_mem_splitOnP hword)

/-- The pieces can be read off the name. -/
theorem splitOnP_displayName (id : String) :
    (displayName id).toList.splitOnP isSeparator = namePieces id := by
  have hne : namePieces id ≠ [] := mt List.map_eq_nil_iff.mp (List.splitOnP_ne_nil _ _)
  rw [toList_displayName]
  exact Text.splitOnP_intercalate rfl hne isSeparator_of_mem_namePieces

/-! ## What a name holds -/

theorem eq_space_of_mem_displayName {id : String} {c : Char} (h : c ∈ (displayName id).toList)
    (hc : isSeparator c = true) : c = ' ' := by
  rw [toList_displayName] at h
  obtain h | ⟨piece, hpiece, h⟩ := Text.mem_or_exists_of_mem_intercalate h
  · exact List.mem_singleton.mp h
  · rw [isSeparator_of_mem_namePieces piece hpiece c h] at hc
    cases hc

/-- Every separator of the id is a space of the name, and there are no other spaces. -/
theorem count_space_displayName (id : String) :
    (displayName id).toList.count ' ' = id.toList.countP isSeparator := by
  -- Id and name have as many pieces, and so as many separators.
  have hpieces := congrArg List.length (splitOnP_displayName id)
  rw [namePieces, List.length_map, Text.length_splitOnP, Text.length_splitOnP] at hpieces
  have hspaces : (displayName id).toList.count ' ' =
      (displayName id).toList.countP isSeparator := by
    apply List.countP_congr
    intro c hc
    rw [beq_iff_eq]
    exact ⟨fun heq => heq ▸ rfl, eq_space_of_mem_displayName hc⟩
  omega

/-- **A name of a name is the name.** What was a separator is a space now, and a space is one as
well; so it is split at the same places, and capitals stay as they are. -/
theorem displayName_displayName (id : String) : displayName (displayName id) = displayName id := by
  rw [← String.toList_inj, toList_displayName, toList_displayName id, namePieces,
    splitOnP_displayName, namePieces, List.map_map]
  exact congrArg _ (List.map_congr_left fun word _ => capitalized_capitalized word)

/-! ## Main statement -/

/-- **Display names by words.** A display name is the id, split at each of its separators, with the
first character of every piece written as a capital, joined by one space for each separator. No
other separator is left, and the name of the name is the name itself.

The program goes through the characters once and remembers whether a word begins
(`displayChars_eq`). What is used of Unicode is that a capital is no separator and that it is its
own capital, both facts about the tables. -/
theorem displayName_consists_of_words (id : String) :
    (displayName id).toList =
        [' '].intercalate
          ((id.toList.splitOnP fun c => decide (c ∈ [' ', '-', '.', '_'])).map capitalized) ∧
      (displayName id).toList.count ' ' =
        id.toList.countP (fun c => decide (c ∈ [' ', '-', '.', '_'])) ∧
      (∀ c ∈ ['-', '_', '.'], c ∉ (displayName id).toList) ∧
      displayName (displayName id) = displayName id := by
  rw [← isSeparator_eq]
  refine ⟨toList_displayName id, count_space_displayName id, ?_, displayName_displayName id⟩
  intro c hc hmem
  have hseparator : isSeparator c = true := by
    rw [isSeparator_eq]
    simp only [List.mem_cons, List.not_mem_nil, or_false] at hc
    obtain rfl | rfl | rfl := hc <;> rfl
  -- Whatever separator is left is a space, and these three are none.
  rw [eq_space_of_mem_displayName hmem hseparator] at hc
  simp at hc

/-- A word may be empty, and a capital may be more than one character. -/
example : displayName "-ßeta_.v2" = " SSeta  V2" := by rfl

end TrafficMap
