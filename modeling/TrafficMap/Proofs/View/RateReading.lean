import TrafficMap.Proofs.Number.Comparison
import TrafficMap.Proofs.Number.NearestEven
import TrafficMap.Proofs.Text.Padding
import TrafficMap.Proofs.View.RateSign

/-!
# Reading Rate Labels

What a reader takes from the label of a rate. `readRate?` knows nothing of how labels are made: it
reads a decimal number from the characters in front, and takes the rest for the unit.

A label reads as the number that was printed and the unit that was chosen: `readRate?_text`. That
number is the rate in its unit, rounded to its places: `exists_reading`.
-/

namespace TrafficMap

/-! ## Reading numbers -/

/-- Digits, alone or with a point and more digits behind it. -/
def magnitudeOf? (cs : List Char) : Option ℚ :=
  match cs.dropWhile (· ≠ '.') with
  | [] => (naturalOf? cs).map fun (n : ℕ) => (n : ℚ)
  | _ :: decimals => do
    let whole ← naturalOf? (cs.takeWhile (· ≠ '.'))
    let part ← naturalOf? decimals
    some (whole + part / 10 ^ decimals.length)

/-- A magnitude, with a minus sign in front or without. -/
def decimalOf? : List Char → Option ℚ
  | '-' :: cs => (magnitudeOf? cs).map fun q => -q
  | cs => magnitudeOf? cs

/-- The character may be part of a number. -/
def isNumeral (c : Char) : Bool := c.isDigit || c == '.' || c == '-'

/-! ## Reading rates -/

/-- What a label says: so many of a unit. -/
structure RateReading where
  number : ℚ
  unit : RateUnit
deriving DecidableEq

/-- The unit that stands behind a number. -/
def RateUnit.ofSuffix? : List Char → Option RateUnit
  | ['/', 's'] => some .one
  | ['k', '/', 's'] => some .thousand
  | ['M', '/', 's'] => some .million
  | _ => none

/-- A number, followed by a unit. The reader knows the units and decimal digits, and nothing of how
labels are made. -/
def readRate? (text : String) : Option RateReading := do
  let number ← decimalOf? (text.toList.takeWhile isNumeral)
  let unit ← RateUnit.ofSuffix? (text.toList.dropWhile isNumeral)
  some ⟨number, unit⟩

/-! ## Numbers read as they were printed -/

theorem ne_point_of_isDigit {c : Char} (h : c.isDigit = true) : c ≠ '.' := by
  rintro rfl
  cases h

theorem toList_zeroPadded (width n : ℕ) :
    (zeroPadded width n).toList =
      List.replicate (width - (Nat.toDigits 10 n).length) '0' ++ Nat.toDigits 10 n := by
  have hlength : n.repr.length = (Nat.toDigits 10 n).length := by
    rw [← Nat.toList_repr, String.length_toList]
  simp [zeroPadded, hlength]

theorem isDigit_of_mem_zeroPadded {width n : ℕ} {c : Char} (h : c ∈ (zeroPadded width n).toList) :
    c.isDigit = true := by
  rw [toList_zeroPadded, List.mem_append] at h
  obtain h | h := h
  · rw [List.eq_of_mem_replicate h]
    rfl
  · exact isDigit_of_mem_toDigits h

theorem length_zeroPadded {width n : ℕ} (hwidth : 0 < width) (h : n < 10 ^ width) :
    (zeroPadded width n).toList.length = width := by
  have hlength := (Nat.length_toDigits_le_iff (b := 10) (by decide) hwidth).mpr h
  rw [toList_zeroPadded, List.length_append, List.length_replicate]
  omega

/-- Zeros in front do not matter. -/
theorem naturalOf?_zeroPadded (width n : ℕ) : naturalOf? (zeroPadded width n).toList = some n := by
  have hdigits : (zeroPadded width n).toList.all Char.isDigit = true := by
    rw [List.all_eq_true]
    intro c
    exact isDigit_of_mem_zeroPadded
  have hnil : (zeroPadded width n).toList ≠ [] := by
    rw [toList_zeroPadded]
    exact List.append_ne_nil_of_right_ne_nil _ Nat.toDigits_ne_nil
  rw [naturalOf?, if_pos ⟨hnil, hdigits⟩, toList_zeroPadded, Nat.ofDigitChars_append,
    Nat.ofDigitChars_replicate_zero, Nat.mul_zero, Nat.ofDigitChars_ten_toDigits]

theorem toList_magnitudeText (units : ℕ) {places : ℕ} (hplaces : places ≠ 0) :
    (FixedDecimal.magnitudeText units places).toList =
      Nat.toDigits 10 (units / tenTo places) ++
        '.' :: (zeroPadded places (units % tenTo places)).toList := by
  simp [FixedDecimal.magnitudeText, hplaces]

theorem magnitudeOf?_magnitudeText (units places : ℕ) :
    magnitudeOf? (FixedDecimal.magnitudeText units places).toList =
      some ((units : ℚ) / tenTo places) := by
  have hbefore {n : ℕ} : ∀ c ∈ Nat.toDigits 10 n, decide (c ≠ '.') = true := by
    intro c hc
    exact decide_eq_true (ne_point_of_isDigit (isDigit_of_mem_toDigits hc))
  obtain rfl | hplaces := eq_or_ne places 0
  · have htext : (FixedDecimal.magnitudeText units 0).toList = Nat.toDigits 10 units := by
      simp [FixedDecimal.magnitudeText]
    have hpoint : (Nat.toDigits 10 units).dropWhile (· ≠ '.') = [] :=
      List.dropWhile_eq_nil_iff.mpr hbefore
    rw [htext, magnitudeOf?, hpoint, naturalOf?_toDigits, tenTo]
    simp
  · -- The digits before the point are a quotient, and those behind it are the rest.
    have hpos : 0 < tenTo places := Nat.pow_pos (by decide)
    have hlength : (zeroPadded places (units % tenTo places)).toList.length = places :=
      length_zeroPadded (Nat.pos_of_ne_zero hplaces) (Nat.mod_lt units hpos)
    have htenTo : (10 : ℚ) ^ places = tenTo places := by
      rw [tenTo, Nat.pow_eq]
      push_cast
      rfl
    rw [toList_magnitudeText units hplaces, magnitudeOf?, List.dropWhile_append_of_pos hbefore,
      List.takeWhile_append_of_pos hbefore]
    simp only [List.dropWhile_cons, List.takeWhile_cons, ne_eq, not_true_eq_false, decide_false,
      Bool.false_eq_true, if_false, List.append_nil, naturalOf?_toDigits, naturalOf?_zeroPadded,
      hlength, htenTo]
    exact congrArg some (cast_div_eq units hpos).symm

theorem decimalOf?_of_notMem {cs : List Char} (h : '-' ∉ cs) : decimalOf? cs = magnitudeOf? cs := by
  cases cs with
  | nil => rfl
  | cons c cs =>
    rw [List.mem_cons, not_or] at h
    unfold decimalOf?
    split
    · next heq =>
      injection heq with hc
      exact absurd hc.symm h.1
    · rfl

/-- **A printed number is read as the number that its digits denote.** Reader and printer have
nothing in common but the digits. -/
theorem decimalOf?_text (negative : Bool) (units places : ℕ) :
    decimalOf? (FixedDecimal.finite negative units places).text.toList =
      (FixedDecimal.finite negative units places).value? := by
  cases negative with
  | false =>
    have htext : (FixedDecimal.finite false units places).text.toList =
        (FixedDecimal.magnitudeText units places).toList := by
      simp [FixedDecimal.text]
    -- The reader takes a minus sign off first, and digits never begin with one.
    rw [htext, decimalOf?_of_notMem (minus_notMem_magnitudeText units places),
      magnitudeOf?_magnitudeText]
    rfl
  | true =>
    have htext : (FixedDecimal.finite true units places).text.toList =
        '-' :: (FixedDecimal.magnitudeText units places).toList := by
      simp [FixedDecimal.text]
    rw [htext, decimalOf?, magnitudeOf?_magnitudeText]
    rfl

/-! ## Labels read as they were printed -/

theorem isNumeral_of_mem_text {negative : Bool} {units places : ℕ} {c : Char}
    (h : c ∈ (FixedDecimal.finite negative units places).text.toList) : isNumeral c = true := by
  have hdigit (hc : c.isDigit = true) : isNumeral c = true := by
    rw [isNumeral, hc]
    rfl
  have hmagnitude (hc : c ∈ (FixedDecimal.magnitudeText units places).toList) :
      isNumeral c = true := by
    -- Without places there is no point, so the text has another form.
    obtain rfl | hplaces := eq_or_ne places 0
    · rw [FixedDecimal.magnitudeText, if_pos rfl] at hc
      exact hdigit (isDigit_of_mem_toDigits (by simpa using hc))
    · rw [toList_magnitudeText units hplaces, List.mem_append, List.mem_cons] at hc
      obtain hc | rfl | hc := hc
      · exact hdigit (isDigit_of_mem_toDigits hc)
      · rfl
      · exact hdigit (isDigit_of_mem_zeroPadded hc)
  rw [FixedDecimal.text, String.toList_append, List.mem_append] at h
  obtain h | h := h
  · cases negative with
    | false => cases h
    | true =>
      rw [if_pos rfl] at h
      obtain rfl : c = '-' := by simpa using h
      rfl
  · exact hmagnitude h

theorem ofSuffix?_suffix (u : RateUnit) : RateUnit.ofSuffix? u.suffix.toList = some u := by
  cases u <;> rfl

theorem takeWhile_suffix (u : RateUnit) : u.suffix.toList.takeWhile isNumeral = [] := by
  cases u <;> rfl

theorem dropWhile_suffix (u : RateUnit) :
    u.suffix.toList.dropWhile isNumeral = u.suffix.toList := by
  cases u <;> rfl

/-- **A label is read as its number and its unit.** Letters of the unit cannot be mistaken for
digits, so the label falls apart in one way only. -/
theorem readRate?_text (negative : Bool) (units places : ℕ) (u : RateUnit) :
    readRate? (RateLabel.text ⟨.finite negative units places, u⟩) =
      (FixedDecimal.finite negative units places).value?.map fun q => ⟨q, u⟩ := by
  have htext : (RateLabel.text ⟨.finite negative units places, u⟩).toList =
      (FixedDecimal.finite negative units places).text.toList ++ u.suffix.toList := by
    rw [RateLabel.text, String.toList_append]
  -- The number is what the reader takes before the unit, of which no character could go on with it.
  have hnumerals : ∀ c ∈ (FixedDecimal.finite negative units places).text.toList,
      isNumeral c = true := by
    intro c
    exact isNumeral_of_mem_text
  rw [readRate?, htext, List.takeWhile_append_of_pos hnumerals,
    List.dropWhile_append_of_pos hnumerals, takeWhile_suffix, dropWhile_suffix, List.append_nil,
    decimalOf?_text, ofSuffix?_suffix]
  rfl

/-- Digits without a sign. -/
theorem readRate?_magnitudeText (units places : ℕ) (u : RateUnit) :
    readRate? (FixedDecimal.magnitudeText units places ++ u.suffix) =
      some ⟨units / tenTo places, u⟩ := by
  have hread := readRate?_text false units places u
  rwa [RateLabel.text, FixedDecimal.text, if_neg (by decide), String.empty_append] at hread

/-! ## Units -/

/-- The unit is the largest that the volume reaches, whatever kind of number stands for it. -/
theorem unitOf_cases {ν : Type} [Scalar ν] {volume : ν} {p : ℚ}
    (hthousand : (1000.0 : ν) ≤ volume ↔ 1000 ≤ p)
    (hmillion : (1000000.0 : ν) ≤ volume ↔ 1000000 ≤ p) :
    RateLabel.unitOf volume = .one ∧ p < 1000 ∨
      RateLabel.unitOf volume = .thousand ∧ 1000 ≤ p ∧ p < 1000000 ∨
      RateLabel.unitOf volume = .million ∧ 1000000 ≤ p := by
  unfold RateLabel.unitOf
  simp only [hthousand, hmillion]
  split
  case isTrue hreached => exact .inr (.inr ⟨rfl, hreached⟩)
  case isFalse hshort =>
    rw [not_le] at hshort
    split
    case isTrue hreached => exact .inr (.inl ⟨rfl, hreached, hshort⟩)
    case isFalse hfirst => exact .inl ⟨rfl, not_le.mp hfirst⟩

/-! ## Rounding to places -/

/-- The decimal has so many places, and rounded to them the number is equal to it. The number is not
below zero, so a minus sign can only be that of a zero. Both rational numbers and floats are rounded
like this. -/
inductive FixedDecimal.Rounds (places : ℕ) (x : ℚ) : FixedDecimal → Prop
  | intro {negative : Bool} {units : ℕ} (nearest : IsNearestEven (x * tenTo places) units)
      (sign : negative = true → units = 0) : Rounds places x (.finite negative units places)

theorem rounds_ofQuotient {negative : Bool} {n d : ℕ} (hd : 0 < d)
    (hsign : negative = true → n = 0) (places : ℕ) :
    FixedDecimal.Rounds places (n / d) (.ofQuotient negative n d places) := by
  have hnearest := isNearestEven_roundHalfEven (n * tenTo places) hd
  constructor
  · rw [div_mul_eq_mul_div]
    exact_mod_cast hnearest
  · intro hnegative
    rw [hsign hnegative, Nat.zero_mul]
    simp [roundHalfEven, hd]

/-- Rational numbers are rounded to places. -/
theorem rounds_rounded_rat {x : ℚ} (hx : 0 ≤ x) (places : ℕ) :
    FixedDecimal.Rounds places x (Scalar.rounded places x) := by
  obtain ⟨n, hn⟩ := Int.eq_ofNat_of_zero_le (Rat.num_nonneg.mpr hx)
  have hquotient : (x.num.natAbs : ℚ) / x.den = x := by
    rw [hn, Int.natAbs_natCast]
    nth_rewrite 2 [← Rat.num_div_den x]
    rw [hn, Int.cast_natCast]
  have hsign : decide (x < 0) = true → x.num.natAbs = 0 := by simp [hx]
  have hrounds := rounds_ofQuotient x.den_pos hsign places
  rwa [hquotient] at hrounds

theorem quotient_pos (m : ℕ) (e : ℤ) : 0 < (Binary.quotient m e).2 := by
  unfold Binary.quotient
  split
  · exact Nat.one_pos
  · rw [Nat.shiftLeft_eq]
    positivity

/-- Floats are rounded to places from the numbers that they stand for. -/
theorem IsExactly.rounds_rounded {v : Float} {x : ℚ} (h : IsExactly v x) (hx : 0 ≤ x)
    (places : ℕ) : FixedDecimal.Rounds places x (Scalar.rounded places v) := by
  show FixedDecimal.Rounds places x ((Binary.ofFloat v).rounded places)
  unfold IsExactly at h
  cases hv : Binary.ofFloat v with
  | notANumber =>
    rw [hv] at h
    cases h
  | infinite negative =>
    rw [hv] at h
    cases h
  | finite negative m e =>
    rw [hv, Binary.toRat?, Option.some.injEq] at h
    have hpos : (0 : ℚ) < (Binary.quotient m e).2 := Nat.cast_pos.mpr (quotient_pos m e)
    have hmagnitude : 0 ≤ ((Binary.quotient m e).1 : ℚ) / (Binary.quotient m e).2 := by positivity
    -- The sign may be set for zero only, since the number is not below it.
    have hzero : negative = true → (Binary.quotient m e).1 = 0 := by
      rintro rfl
      have hneg : -(((Binary.quotient m e).1 : ℚ) / (Binary.quotient m e).2) = x := h
      have hdiv : ((Binary.quotient m e).1 : ℚ) / (Binary.quotient m e).2 = 0 := by linarith
      rw [div_eq_zero_iff, Nat.cast_eq_zero] at hdiv
      exact hdiv.resolve_right hpos.ne'
    have hvalue : ((Binary.quotient m e).1 : ℚ) / (Binary.quotient m e).2 = x := by
      cases negative with
      | false => exact h
      | true =>
        rw [← h]
        simp [hzero rfl]
    -- From here on the rational is the quotient that the program rounds.
    rw [← hvalue]
    exact rounds_ofQuotient (quotient_pos m e) hzero places

/-- **A rounded number is read back** with the unit that it was printed with, and unless it is zero
there are only its digits in front of the unit. -/
theorem exists_reading {x : ℚ} {d : FixedDecimal} {u : RateUnit}
    (h : FixedDecimal.Rounds u.places x d) :
    ∃ units : ℕ, IsNearestEven (x * tenTo u.places) units ∧
      readRate? (RateLabel.text ⟨d, u⟩) = some ⟨units / tenTo u.places, u⟩ ∧
      (units ≠ 0 →
        RateLabel.text ⟨d, u⟩ = FixedDecimal.magnitudeText units u.places ++ u.suffix) := by
  obtain @⟨negative, units, hnearest, hsign⟩ := h
  refine ⟨units, hnearest, ?_, ?_⟩
  · rw [readRate?_text, FixedDecimal.value?]
    cases negative with
    | false => rfl
    -- A negative number that rounds from one not below zero has no units.
    | true => simp [hsign rfl]
  · intro hunits
    cases negative with
    | false => simp [RateLabel.text, FixedDecimal.text]
    | true => exact absurd (hsign rfl) hunits

end TrafficMap
