import Mathlib.Tactic.Linarith
import Mathlib.Tactic.Ring
import TrafficMap.Proofs.Text.Pieces
import TrafficMap.View.Painting

/-!
# Views: The Lines of a Name

A service carries its name on its disc: one label for each word, cut to six characters, all of them
below each other. Computed exactly, the lines are evenly spaced, and as far above the center of the
disc as below it.
-/

namespace TrafficMap

/-! ## Labels -/

section

variable {κ : Type} [Scalar κ] (p : Projection κ) (service : Service κ) (selected : Bool)

/-- The labels that a service has on the map. -/
def nameLabels : List (Label κ) :=
  (serviceMarks p service selected).filterMap (·.label?)

/-- Rings and disc are no labels, so the labels are the lines of the name. -/
theorem nameLabels_eq :
    nameLabels p service selected =
      (shortenedWords service.name).zipIdx.map fun line =>
        .centered line.1
          ⟨(p.toScreen service.position).x, (p.toScreen service.position).y +
            p.scale (lineOffset (shortenedWords service.name).length line.2)⟩
          Palette.text (p.scale 9.0) := by
  -- The ring is there only for the selected service, and has no text in either case.
  have hselection : (selectionMarks p (p.toScreen service.position) (p.scale discRadius)
      selected).filterMap (·.label?) = [] := by
    cases selected <;> rfl
  simp only [nameLabels, serviceMarks, List.filterMap_append, hselection, nameMarks,
    List.filterMap_map]
  exact congrFun List.filterMap_eq_map _

/-! ## Contents -/

/-- The words of a name are its pieces between blanks, as far as they are not empty. -/
theorem toList_shortenedWords (name : String) :
    (shortenedWords name).map String.toList =
      ((name.toList.splitOnP Text.isBlank).filter (· ≠ [])).map (·.take 6) := by
  rw [shortenedWords, Text.words, Text.splitList_eq_filter, List.map_map, List.map_map]
  refine List.map_congr_left fun word _ => ?_
  simp only [Function.comp_apply, String.toList_ofList]
  rfl

theorem content_nameLabels :
    (nameLabels p service selected).map (·.content) = shortenedWords service.name := by
  rw [nameLabels_eq, List.map_map]
  exact List.zipIdx_map_fst 0 (shortenedWords service.name)

theorem length_nameLabels :
    (nameLabels p service selected).length = (shortenedWords service.name).length := by
  rw [← content_nameLabels p service selected, List.length_map]

/-- A line is never empty, and holds no blank. -/
theorem isLine_of_mem_shortenedWords {name line : String} (h : line ∈ shortenedWords name) :
    line ≠ "" ∧ ∀ c ∈ line.toList, Text.isBlank c = false := by
  have hmem : line.toList ∈ (shortenedWords name).map String.toList := List.mem_map_of_mem h
  rw [toList_shortenedWords] at hmem
  obtain ⟨word, hword, hline⟩ := List.mem_map.mp hmem
  obtain ⟨hpiece, hnonempty⟩ := List.mem_filter.mp hword
  -- Cutting leaves at least the first character of a word.
  have hlist : line.toList ≠ [] := by
    have hne : word ≠ [] := of_decide_eq_true hnonempty
    simp [← hline, hne]
  refine ⟨fun hempty => hlist (congrArg String.toList hempty), fun c hc => ?_⟩
  rw [← hline] at hc
  exact Text.eq_false_of_mem_splitOnP hpiece c (List.mem_of_mem_take hc)

theorem centered_of_mem_nameLabels {label : Label κ} (h : label ∈ nameLabels p service selected) :
    label.alignX = .center ∧ label.alignY = .center ∧
      label.position.x = (p.toScreen service.position).x := by
  rw [nameLabels_eq] at h
  obtain ⟨line, -, rfl⟩ := List.mem_map.mp h
  exact ⟨rfl, rfl, rfl⟩

end

/-! ## Offsets -/

/-- The lines are eleven units apart, and the middle of them is the center. -/
theorem lineOffset_rat (n i : ℕ) : (lineOffset n i : ℚ) = 11 * (i - (n - 1 : ℕ) / 2) := by
  show -((n - 1 : ℕ) : ℚ) * (11.0 : ℚ) / (2.0 : ℚ) + (i : ℚ) * (11.0 : ℚ) = _
  norm_num
  ring

/-- The line with a number from above and the line with this number from below. -/
theorem lineOffset_reflect {n i : ℕ} (h : i < n) :
    (lineOffset n (n - 1 - i) : ℚ) = -lineOffset n i := by
  have hcast : ((n - 1 - i : ℕ) : ℚ) = (n - 1 : ℕ) - i := Nat.cast_sub (Nat.le_sub_one_of_lt h)
  rw [lineOffset_rat, lineOffset_rat, hcast]
  ring

theorem lineOffset_succ_sub (n i : ℕ) : (lineOffset n (i + 1) - lineOffset n i : ℚ) = 11 := by
  rw [lineOffset_rat, lineOffset_rat]
  push_cast
  ring

section

variable (p : Projection ℚ) (service : Service ℚ) (selected : Bool)

/-- How far below the center of the disc a label stands. -/
def offsetOf (label : Label ℚ) : ℚ := label.position.y - (p.toScreen service.position).y

theorem offsetOf_getElem_nameLabels {i : ℕ} (h : i < (nameLabels p service selected).length) :
    offsetOf p service (nameLabels p service selected)[i] =
      p.scale (lineOffset (nameLabels p service selected).length i) := by
  rw [length_nameLabels]
  simp only [nameLabels_eq, List.getElem_map, List.getElem_zipIdx, Nat.zero_add]
  exact add_sub_cancel_left _ _

end

/-! ## Main statement -/

/-- **Names are shown word by word, around the center.** A service has one label for each word of
its name, in order: the first six characters of the word, or the word if it has no more. No label is
empty or holds a blank, and the middle of each stands above, below or at the center of the disc.
Computed exactly, lines with the same number from above and from below are as far from the center,
and each line is eleven units below the one before it.

The first part holds of floats too; distances are computed over rational numbers, since adding
floats is not associative. -/
theorem name_lines_complete_and_centered :
    (∀ {κ : Type} [Scalar κ] (p : Projection κ) (service : Service κ) (selected : Bool),
      let words := (service.name.toList.splitOnP Text.isBlank).filter (· ≠ [])
      let labels := nameLabels p service selected
      labels.map (·.content.toList) = words.map (·.take 6) ∧ (labels = [] ↔ words = []) ∧
        ∀ label ∈ labels, label.content ≠ "" ∧
          (∀ c ∈ label.content.toList, Text.isBlank c = false) ∧
          label.alignX = .center ∧ label.alignY = .center ∧
          label.position.x = (p.toScreen service.position).x) ∧
    ∀ (p : Projection ℚ) (service : Service ℚ) (selected : Bool),
      let labels := nameLabels p service selected
      (∀ i (_ : i < labels.length), offsetOf p service labels[labels.length - 1 - i] =
        -offsetOf p service labels[i]) ∧
        ∀ i (_ : i + 1 < labels.length),
          offsetOf p service labels[i + 1] - offsetOf p service labels[i] = p.scale 11 := by
  refine ⟨?contents, ?offsets⟩
  case contents =>
    intro κ _ p service selected words labels
    have hcontent : labels.map (·.content.toList) = words.map (·.take 6) := by
      -- Contents and positions are zipped, so the contents are those of the list before the
      -- positions.
      rw [← toList_shortenedWords, ← content_nameLabels p service selected, List.map_map]
      rfl
    refine ⟨hcontent, ?_, ?_⟩
    · rw [← List.map_eq_nil_iff, hcontent, List.map_eq_nil_iff]
    · intro label hlabel
      have hline : label.content ∈ shortenedWords service.name := by
        rw [← content_nameLabels p service selected]
        exact List.mem_map_of_mem hlabel
      obtain ⟨hne, hblank⟩ := isLine_of_mem_shortenedWords hline
      exact ⟨hne, hblank, centered_of_mem_nameLabels p service selected hlabel⟩
  case offsets =>
    intro p service selected labels
    refine ⟨fun i hi => ?_, fun i hi => ?_⟩
    · rw [offsetOf_getElem_nameLabels, offsetOf_getElem_nameLabels, lineOffset_reflect hi]
      exact neg_mul _ _
    · rw [offsetOf_getElem_nameLabels, offsetOf_getElem_nameLabels]
      -- Each line is moved by a multiple of the zoom, so the zoom comes out of the difference.
      show _ * p.zoom - _ * p.zoom = 11 * p.zoom
      rw [← sub_mul, lineOffset_succ_sub]

end TrafficMap
