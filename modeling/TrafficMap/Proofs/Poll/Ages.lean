import TrafficMap.Poll.Age
import TrafficMap.Proofs.Text.Padding

/-!
# Ages in Whole Units

What the text of an age says. `readAge?` knows nothing of how ages are printed: it reads the digits
in front, and takes the rest for the unit.

An age counts the whole units in the time that has passed, in the largest unit of which there is at
least one. This alone makes it grow with that time, also where the unit changes. Times that lie
further apart than 64 bits can tell do no harm: in one direction they count as the largest duration,
in the other one as none.
-/

namespace TrafficMap

/-! ## Words as numbers -/

/-- Saturated arithmetic is exact arithmetic held between the two bounds. -/
theorem toInt_saturate (n : Int) :
    (saturate n).toInt = max Int64.minValue.toInt (min n Int64.maxValue.toInt) := by
  have hmin := Int64.toInt_minValue
  have hmax := Int64.toInt_maxValue
  unfold saturate
  split
  case isTrue hlow => omega
  case isFalse hlow =>
    split
    case isTrue hhigh => omega
    case isFalse hhigh =>
      rw [Int64.toInt_ofInt_of_le (by omega) (by omega)]
      omega

theorem toInt_max (a b : Int64) : (max a b).toInt = max a.toInt b.toInt := by
  show (if a ≤ b then b else a).toInt = max a.toInt b.toInt
  rw [Int.max_def]
  simp only [Int64.le_iff_toInt_le]
  split <;> rfl

/-! ## Reading ages -/

/-- The unit that stands behind a count. -/
def AgeUnit.ofSuffix? : List Char → Option AgeUnit
  | ['s', ' ', 'a', 'g', 'o'] => some .second
  | ['m', ' ', 'a', 'g', 'o'] => some .minute
  | ['h', ' ', 'a', 'g', 'o'] => some .hour
  | _ => none

/-- Digits, followed by a unit. -/
def readAge? (text : String) : Option Age := do
  let count ← naturalOf? (text.toList.takeWhile Char.isDigit)
  let unit ← AgeUnit.ofSuffix? (text.toList.dropWhile Char.isDigit)
  some ⟨count, unit⟩

/-- What is printed of an age is read as this age and no other. -/
theorem readAge?_text (a : Age) : readAge? a.text = some a := by
  obtain ⟨count, unit⟩ := a
  have hdigits : ∀ c ∈ Nat.toDigits 10 count, c.isDigit = true := by
    intro c
    exact isDigit_of_mem_toDigits
  have htext : (Age.text ⟨count, unit⟩).toList =
      Nat.toDigits 10 count ++ (unit.letter ++ " ago").toList := by
    simp [Age.text]
  rw [readAge?, htext, List.takeWhile_append_of_pos hdigits, List.dropWhile_append_of_pos hdigits]
  -- No unit begins with a digit, so the digits end where the count ends.
  have hafter : (unit.letter ++ " ago").toList.takeWhile Char.isDigit = [] := by
    cases unit <;> rfl
  have hsuffix : AgeUnit.ofSuffix? ((unit.letter ++ " ago").toList.dropWhile Char.isDigit) =
      some unit := by
    cases unit <;> rfl
  rw [hafter, List.append_nil, naturalOf?_toDigits, hsuffix]
  rfl

/-! ## Whole units -/

/-- Different units are at least a factor of sixty apart. -/
theorem AgeUnit.eq_or_far (u v : AgeUnit) :
    u = v ∨ (u ≠ .hour ∧ v ≠ .second ∧ 60 * u.seconds ≤ v.seconds) ∨
      (v ≠ .hour ∧ u ≠ .second ∧ 60 * v.seconds ≤ u.seconds) := by
  cases u <;> cases v <;> decide

namespace Age

/-- The age counts the whole units in a duration of so many milliseconds. There are less than sixty
where a larger unit follows, and there is one at least where a smaller unit precedes. -/
structure IsFloorOf (a : Age) (duration : Int) : Prop where
  le : a.count * a.unit.seconds * 1000 ≤ duration
  lt : duration < (a.count + 1 : Nat) * a.unit.seconds * 1000
  count_lt : a.unit ≠ .hour → a.count < 60
  count_pos : a.unit ≠ .second → 1 ≤ a.count

/-- Rounding down to whole seconds first and to whole units of them then is rounding down once. -/
theorem isFloorOf_ofSeconds (milliseconds : Nat) :
    (ofSeconds (milliseconds / 1000)).IsFloorOf milliseconds := by
  -- One unit for each branch, and for each the two bounds of the floor and the range of the unit.
  unfold ofSeconds
  split
  case isTrue hseconds =>
    refine ⟨?_, ?_, fun _ => hseconds, fun hunit => absurd rfl hunit⟩ <;>
      simp only [AgeUnit.seconds] <;> omega
  case isFalse hseconds =>
    split
    case isTrue hminutes =>
      refine ⟨?_, ?_, fun _ => ?_, fun _ => ?_⟩ <;> simp only [AgeUnit.seconds] <;> omega
    case isFalse hminutes =>
      refine ⟨?_, ?_, fun hunit => absurd rfl hunit, fun _ => ?_⟩ <;>
        simp only [AgeUnit.seconds] <;> omega

/-- **A longer duration has no smaller age**, whatever units the two are counted in. A unit begins
where the one before it has counted sixty, so going over to it never loses anything. -/
theorem IsFloorOf.seconds_le {a b : Age} {d e : Int} (ha : a.IsFloorOf d) (hb : b.IsFloorOf e)
    (h : d ≤ e) : a.seconds ≤ b.seconds := by
  -- What `a` counts lies below the next whole unit of `b`.
  have hbelow : a.seconds < (b.count + 1) * b.unit.seconds := by
    have hle := ha.le
    have hlt := hb.lt
    rw [seconds]
    omega
  obtain hunit | ⟨hsmall, hlarge, hfactor⟩ | ⟨hsmall, hlarge, hfactor⟩ :=
    AgeUnit.eq_or_far a.unit b.unit
  · rw [seconds, hunit] at hbelow
    have hcount : a.count < b.count + 1 := Nat.lt_of_mul_lt_mul_right hbelow
    rw [seconds, seconds, hunit]
    exact Nat.mul_le_mul_right _ (Nat.le_of_lt_succ hcount)
  · -- Less than sixty of the smaller unit are less than one of the larger unit.
    calc a.seconds ≤ 60 * a.unit.seconds := Nat.mul_le_mul_right _ (Nat.le_of_lt (ha.count_lt hsmall))
      _ ≤ b.unit.seconds := hfactor
      _ ≤ b.seconds := Nat.le_mul_of_pos_left _ (hb.count_pos hlarge)
  · have hreached : (b.count + 1) * b.unit.seconds ≤ a.seconds :=
      calc (b.count + 1) * b.unit.seconds
        _ ≤ 60 * b.unit.seconds := Nat.mul_le_mul_right _ (hb.count_lt hsmall)
        _ ≤ a.unit.seconds := hfactor
        _ ≤ a.seconds := Nat.le_mul_of_pos_left _ (ha.count_pos hlarge)
    exact absurd hbelow (Nat.not_lt.mpr hreached)

/-! ## The time that has passed -/

/-- The exact difference, held between zero and the largest word. -/
theorem toInt_elapsed (since now : Int64) :
    (elapsed since now).toInt = max 0 (min (now.toInt - since.toInt) Int64.maxValue.toInt) := by
  have hmin := Int64.toInt_minValue
  have hmax := Int64.toInt_maxValue
  have hzero : (0 : Int64).toInt = 0 := rfl
  rw [elapsed, toInt_max, toInt_saturate, hzero]
  omega

theorem isFloorOf_between (since now : Int64) :
    (between since now).IsFloorOf
      (max 0 (min (now.toInt - since.toInt) Int64.maxValue.toInt)) := by
  rw [← toInt_elapsed]
  have hnonneg : 0 ≤ (elapsed since now).toInt := by
    rw [toInt_elapsed]
    exact Int.le_max_left _ _
  obtain ⟨milliseconds, hmilliseconds⟩ := Int.eq_ofNat_of_zero_le hnonneg
  -- The division of words rounds towards zero, which is down for what is not negative.
  have hseconds : (elapsed since now / 1000).toInt.toNat = milliseconds / 1000 := by
    rw [Int64.toInt_div_of_ne_right _ _ (by decide), hmilliseconds]
    rfl
  rw [between, hseconds, hmilliseconds]
  exact isFloorOf_ofSeconds milliseconds

/-- **Ages are exact.** The text of an age says how many whole units lie between the two times, and
nothing else; at a later time it says no less, and it says no less of an earlier time.

The difference is taken in 64 bits and cut to them, and then rounded down twice, to seconds and to
the unit. Cutting keeps the order, and rounding down twice is rounding down once. -/
theorem text_between_counts_units (since now : Int64) :
    readAge? (between since now).text = some (between since now) ∧
      (between since now).IsFloorOf
        (max 0 (min (now.toInt - since.toInt) Int64.maxValue.toInt)) ∧
      (∀ later, now ≤ later → (between since now).seconds ≤ (between since later).seconds) ∧
      ∀ earlier, earlier ≤ since → (between since now).seconds ≤ (between earlier now).seconds := by
  have hfloor := isFloorOf_between since now
  refine ⟨readAge?_text _, hfloor, ?later, ?earlier⟩
  case later =>
    intro later hlater
    rw [Int64.le_iff_toInt_le] at hlater
    -- The clamped difference grows with the later time, and a floor keeps the order.
    exact hfloor.seconds_le (isFloorOf_between since later) (by omega)
  case earlier =>
    intro earlier hearlier
    rw [Int64.le_iff_toInt_le] at hearlier
    exact hfloor.seconds_le (isFloorOf_between earlier now) (by omega)

/-- The difference to the first of all times exceeds 64 bits, and so does the way back. -/
theorem text_between_counts_units_from_first :
    (between Int64.minValue 5000).text = "2562047788015h ago" ∧
      (between Int64.minValue 5000).IsFloorOf 9223372036854775807 ∧
      (5000 : Int64) ≤ Int64.maxValue ∧
      (between Int64.minValue 5000).seconds ≤ (between Int64.minValue Int64.maxValue).seconds ∧
      (between 5000 Int64.minValue).text = "0s ago" ∧
      Int64.minValue ≤ (5000 : Int64) ∧
      (between 5000 Int64.minValue).seconds ≤ (between Int64.minValue Int64.minValue).seconds := by
  have hlast : (5000 : Int64) ≤ Int64.maxValue := by decide
  have hfirst : Int64.minValue ≤ (5000 : Int64) := by decide
  obtain ⟨-, hfloor, hlater, -⟩ := text_between_counts_units Int64.minValue 5000
  obtain ⟨-, -, -, hearlier⟩ := text_between_counts_units 5000 Int64.minValue
  exact ⟨rfl, hfloor, hlast, hlater _ hlast, rfl, hfirst, hearlier _ hfirst⟩

end Age

end TrafficMap
