import Mathlib
import TrafficMap.Proofs.Json.Strings

/-!
# JSON: Numbers

Numbers as the grammar writes them. Where what follows does not go on with it, a number is read as
the one that is meant, or not at all if that is beyond all floats, and it is passed over in either
case.
-/

namespace TrafficMap.Json

variable {r : List UInt8}

/-! ## Digits -/

/-- What follows does not go on with the digits. -/
def NoDigit (r : List UInt8) : Prop := ∀ b ∈ r.head?, isDigit b = false

theorem Digits.lt_ten {ds : Digits} : ∀ d ∈ ds.list, d < 10 := by
  intro d hd
  obtain ⟨d, -, rfl⟩ := List.mem_map.mp hd
  exact d.isLt

theorem isDigit_and_digitValue : ∀ d < 10,
    isDigit (.ofNat (0x30 + d)) = true ∧ digitValue (.ofNat (0x30 + d)) = d := by decide

theorem Digits.isDigit_of_mem {ds : Digits} : ∀ b ∈ ds.bytes, isDigit b = true := by
  intro b hb
  obtain ⟨d, hd, rfl⟩ := List.mem_map.mp hb
  exact (isDigit_and_digitValue d (lt_ten d hd)).1

theorem Digits.map_digitValue (ds : Digits) : ds.bytes.map digitValue = ds.list := by
  rw [bytes, List.map_map]
  exact (List.map_congr_left fun d hd => (isDigit_and_digitValue d (lt_ten d hd)).2).trans
    (List.map_id _)

theorem Digits.valueOfDigits_bytes (ds : Digits) : valueOfDigits ds.bytes = ds.value := by
  rw [value, ← map_digitValue, List.foldl_map]
  rfl

theorem beq_of_isDigit {b c : UInt8} (hb : isDigit b = true) (hc : isDigit c = false) :
    (b == c) = false := by
  rw [beq_eq_false_iff_ne]
  rintro rfl
  exact Bool.noConfusion (hb.symm.trans hc)

theorem isBlank_of_isDigit {b : UInt8} (hb : isDigit b = true) : isBlank b = false := by
  rw [isBlank, beq_of_isDigit hb rfl, beq_of_isDigit hb rfl, beq_of_isDigit hb rfl,
    beq_of_isDigit hb rfl]
  rfl

theorem NoDigit.head (h : NoDigit r) : (r.head?.map isDigit).getD false = false := by
  cases r with
  | nil => rfl
  | cons b r => exact h b rfl

theorem leadingDigits_append {bs : List UInt8} (hbs : ∀ b ∈ bs, isDigit b = true)
    (h : NoDigit r) : leadingDigits (bs ++ r) = bs := by
  rw [leadingDigits, List.takeWhile_append_of_pos hbs]
  cases r <;> simp_all [NoDigit]

theorem afterDigits_append {bs : List UInt8} (hbs : ∀ b ∈ bs, isDigit b = true)
    (h : NoDigit r) : afterDigits (bs ++ r) = r := by
  rw [afterDigits, List.dropWhile_append_of_pos hbs]
  cases r <;> simp_all [NoDigit]

/-! ## Reading numbers -/

/-- What follows does not go on with the number. -/
def EndsNumber (r : List UInt8) : Prop :=
  ∀ b ∈ r.head?, isDigit b = false ∧ b ≠ byte '.' ∧ isPowerMark b = false

theorem endsNumber_cons {b : UInt8} (h : isDigit b = false ∧ b ≠ byte '.' ∧ isPowerMark b = false)
    (s : List UInt8) : EndsNumber (b :: s) := by
  rintro c ⟨⟩
  exact h

theorem endsNumber_blanks (ws : List Blank) (h : EndsNumber r) : EndsNumber (blanks ws ++ r) := by
  cases ws with
  | nil => exact h
  | cons w ws => exact endsNumber_cons (by cases w <;> decide) _

theorem EndsNumber.noDigit (h : EndsNumber r) : NoDigit r := fun b hb => (h b hb).1

theorem ofNat_ne_zero_digit :
    ∀ d : Fin 10, d ≠ 0 → UInt8.ofNat (0x30 + d) ≠ byte '0' := by decide

theorem Digits.exists_bytes_eq_cons (ds : Digits) :
    ∃ b bs, ds.bytes = b :: bs ∧ isDigit b = true ∧ (∀ c ∈ bs, isDigit c = true) ∧
      (ds.first ≠ 0 → b ≠ byte '0') :=
  ⟨_, _, rfl, ds.isDigit_of_mem _ List.mem_cons_self,
    fun c hc => ds.isDigit_of_mem c (List.mem_cons_of_mem _ hc), ofNat_ne_zero_digit ds.first⟩

theorem taken_fractionDigits (ds : Digits) (h : NoDigit r) :
    taken (fractionDigits (ds.bytes ++ r)) = some (ds.bytes, r) := by
  rw [fractionDigits, leadingDigits_append ds.isDigit_of_mem h]
  simp only [afterDigits_append ds.isDigit_of_mem h]
  rfl

theorem taken_powerDigits (ds : Digits) (h : NoDigit r) :
    taken (powerDigits (ds.bytes ++ r)) = some ((ds.value : Nat), r) := by
  rw [powerDigits, leadingDigits_append ds.isDigit_of_mem h, ← ds.valueOfDigits_bytes]
  simp only [afterDigits_append ds.isDigit_of_mem h]
  rfl

/-- A power of ten is read as its value, whatever its sign. -/
theorem taken_power (p : Power) (h : NoDigit r) :
    taken (power (p.sign.bytes ++ (p.digits.bytes ++ r))) = some (p.value, r) := by
  have hdigits := taken_powerDigits p.digits h
  obtain ⟨capital, sign, digits⟩ := p
  cases sign with
  -- Without a sign the digits are read from the byte that was looked at for one.
  | absent =>
    obtain ⟨b, bs, hbytes, hb, -⟩ := digits.exists_bytes_eq_cons
    have hsteps : taken (power (b :: (bs ++ r))) =
        (taken (powerDigits (b :: (bs ++ r)))).map (Prod.map Nat.cast id) := by
      rw [power, beq_of_isDigit hb (show isDigit (byte '-') = false from rfl),
        beq_of_isDigit hb (show isDigit (byte '+') = false from rfl), if_neg (by decide),
        if_neg (by decide)]
      cases powerDigits (b :: (bs ++ r)) <;> rfl
    rw [hbytes] at hdigits
    rw [PowerSign.bytes, List.nil_append, hbytes]
    exact hsteps.trans (congrArg _ hdigits)
  | plus =>
    have hsteps (s : List UInt8) : taken (power (byte '+' :: s)) =
        (taken (powerDigits s)).map (Prod.map Nat.cast id) := by
      simp only [power, beq_self_eq_true, if_true, show (byte '+' == byte '-') = false from rfl]
      cases powerDigits s <;> rfl
    rw [PowerSign.bytes, List.singleton_append, hsteps, hdigits]
    rfl
  | minus =>
    have hsteps (s : List UInt8) : taken (power (byte '-' :: s)) =
        (taken (powerDigits s)).map (Prod.map (fun n : Nat => -(n : Int)) id) := by
      simp only [power, beq_self_eq_true, if_true]
      cases powerDigits s <;> rfl
    rw [PowerSign.bytes, List.singleton_append, hsteps, hdigits]
    rfl

theorem taken_power? (p : Option Power) (h : EndsNumber r) :
    taken (power? (p.elim [] Power.bytes ++ r)) = some (p.map Power.value, r) := by
  cases p with
  | none =>
    cases r with
    | nil => rfl
    | cons b r =>
      -- What follows a number is neither a digit nor one of its marks.
      have hmark : isPowerMark b = false := (h b rfl).2.2
      rw [Option.elim_none, List.nil_append, power?, hmark]
      rfl
  | some p =>
    have hmark : isPowerMark (byte (if p.capital then 'E' else 'e')) = true := by
      cases p.capital <;> rfl
    have hsteps (b : UInt8) (hb : isPowerMark b = true) (s : List UInt8) : taken (power? (b :: s)) =
        (taken (power s)).map (Prod.map some id) := by
      simp only [power?, hb, if_true]
      cases power s <;> rfl
    rw [Option.elim_some, Power.bytes, List.cons_append, List.append_assoc, hsteps _ hmark,
      taken_power p h.noDigit]
    rfl

/-- What follows the digits before the point does not go on with them. -/
theorem noDigit_fraction (fraction : Option Digits) (h : NoDigit r) :
    NoDigit ((fraction.elim [] fun ds => byte '.' :: ds.bytes) ++ r) := by
  cases fraction with
  | none => exact h
  | some ds => rintro b ⟨⟩; rfl

/-- What follows a fraction does not go on with it, nor does it begin one. -/
theorem ends_fraction (p : Option Power) (h : EndsNumber r) :
    ∀ b ∈ (p.elim [] Power.bytes ++ r).head?, isDigit b = false ∧ b ≠ byte '.' := by
  cases p with
  | none => exact fun b hb => ⟨(h b hb).1, (h b hb).2.1⟩
  | some p =>
    rintro b ⟨⟩
    cases p.capital <;> decide

theorem taken_fraction? (fraction : Option Digits) (h : NoDigit r)
    (hpoint : fraction = none → ∀ b ∈ r.head?, b ≠ byte '.') :
    taken (fraction? ((fraction.elim [] fun ds => byte '.' :: ds.bytes) ++ r)) =
      some (fraction.map Digits.bytes, r) := by
  cases fraction with
  | none =>
    cases r with
    | nil => rfl
    | cons b r =>
      rw [Option.elim_none, List.nil_append, fraction?, if_neg (by simpa using hpoint rfl b rfl)]
      rfl
  | some ds =>
    have hsteps (s : List UInt8) : taken (fraction? (byte '.' :: s)) =
        (taken (fractionDigits s)).map (Prod.map some id) := by
      simp only [fraction?, beq_self_eq_true, if_true]
      cases fractionDigits s <;> rfl
    rw [Option.elim_some, List.cons_append, hsteps, taken_fractionDigits ds h]
    rfl

theorem taken_wholeDigits (w : Whole) (h : NoDigit r) :
    taken (wholeDigits (w.digits.bytes ++ r)) = some (w.digits.bytes, r) := by
  cases w with
  | zero =>
    have hsteps : wholeDigits (byte '0' :: r) = .ok ([byte '0'], .first (byte '0') r) := by
      simp [wholeDigits, h.head, show isDigit (byte '0') = true from rfl]
    exact congrArg taken hsteps
  | positive ds hfirst =>
    obtain ⟨b, bs, hbytes, hb, hbs, hzero⟩ := ds.exists_bytes_eq_cons
    have hsteps (s : List UInt8) : wholeDigits (b :: s) =
        .ok (b :: leadingDigits s, .ofRest ⟨afterDigits s, length_afterDigits_le s⟩) := by
      simp [wholeDigits, hb, hzero hfirst]
    rw [Whole.digits, hbytes, List.cons_append, hsteps, taken_ok, leadingDigits_append hbs h]
    exact congrArg (fun rest => some (b :: bs, rest)) (afterDigits_append hbs h)

theorem toOption_numberOf (n : Numeral) :
    (numberOf n.minus n.whole.digits.bytes (n.fraction.map Digits.bytes)
      (n.power.map Power.value)).toOption = n.number? := by
  have hfraction : ((n.fraction.map Digits.bytes).getD []).map digitValue =
      n.fraction.elim [] Digits.list := by
    cases n.fraction with
    | none => rfl
    | some ds => exact ds.map_digitValue
  have hpower : (n.power.map Power.value).getD 0 = n.power.elim 0 Power.value := by
    cases n.power <;> rfl
  have hfloat : (floatNumber n.decimal).toOption = n.decimal.toFloat?.map Number.float := by
    rw [floatNumber]
    cases n.decimal.toFloat? <;> rfl
  rw [numberOf, hfraction, hpower, Digits.map_digitValue, ← Numeral.decimal, Option.isNone_map,
    Option.isNone_map, Numeral.number?, Numeral.word?, ← hfloat]
  -- A number without fraction and power is a word if it fits into one; all others are floats.
  split
  · cases n.decimal.toWord? <;> rfl
  · rfl

/-- A number is read as the number that is meant, unless it is beyond all floats. -/
theorem outcome_unsignedNumber (n : Numeral) (h : EndsNumber r) :
    outcome (unsignedNumber n.minus (n.body ++ r)) = n.number?.map fun v => (v, r) := by
  have hsteps (s : List UInt8) : outcome (unsignedNumber n.minus s) =
      (taken (wholeDigits s)).bind fun q => (taken (fraction? q.2)).bind fun q₁ =>
        (taken (power? q₁.2)).bind fun q₂ =>
          (numberOf n.minus q.1 q₁.1 q₂.1).toOption.map fun v => (v, q₂.2) := by
    simp only [unsignedNumber, outcome_bind, taken, Option.bind_map, Function.comp_def]
    refine Option.bind_congr fun q _ => Option.bind_congr fun q₁ _ =>
      Option.bind_congr fun q₂ _ => ?_
    rw [Option.map_eq_bind]
    rfl
  have hpower : NoDigit (n.power.elim [] Power.bytes ++ r) :=
    fun b hb => (ends_fraction n.power h b hb).1
  -- Each part ends where the next one begins, because that cannot go on with it.
  rw [hsteps, Numeral.body, List.append_assoc, List.append_assoc,
    taken_wholeDigits _ (noDigit_fraction _ hpower), Option.bind_some,
    taken_fraction? _ hpower fun _ b hb => (ends_fraction n.power h b hb).2, Option.bind_some,
    taken_power? _ h, Option.bind_some, toOption_numberOf]

/-! ## Passing over numbers -/

theorem skipDigits_eq (s : List UInt8) : skipDigits s = afterDigits s := by
  induction s with
  | nil => rfl
  | cons b s ih =>
    rw [skipDigits, afterDigits, List.dropWhile_cons, ih]
    rfl

theorem remainder_skipSomeDigits (ds : Digits) (h : NoDigit r) :
    remainder (skipSomeDigits (ds.bytes ++ r)) = some r := by
  obtain ⟨b, bs, hbytes, hb, hbs, -⟩ := ds.exists_bytes_eq_cons
  have hsteps (s : List UInt8) : remainder (skipSomeDigits (b :: s)) = some (skipDigits s) := by
    rw [skipSomeDigits, if_pos hb]
    rfl
  rw [hbytes, List.cons_append, hsteps, skipDigits_eq, afterDigits_append hbs h]

theorem remainder_skipWhole (w : Whole) (h : NoDigit r) :
    remainder (skipWhole (w.digits.bytes ++ r)) = some r := by
  cases w with
  | zero =>
    have hsteps : skipWhole (byte '0' :: r) = .ok (.first (byte '0') r) := by
      simp [skipWhole, h.head]
    exact congrArg remainder hsteps
  -- The first digit tells that this is not the zero that stands alone.
  | positive ds hfirst =>
    have hdigits := remainder_skipSomeDigits ds h
    obtain ⟨b, bs, hbytes, -, -, hzero⟩ := ds.exists_bytes_eq_cons
    have hsteps (s : List UInt8) : skipWhole (b :: s) = skipSomeDigits (b :: s) := by
      simp [skipWhole, hzero hfirst]
    rw [hbytes] at hdigits
    rw [Whole.digits, hbytes, List.cons_append, hsteps]
    exact hdigits

theorem remainder_skipPower (p : Power) (h : NoDigit r) :
    remainder (skipPower (p.sign.bytes ++ (p.digits.bytes ++ r))) = some r := by
  have hdigits := remainder_skipSomeDigits p.digits h
  -- Any sign is passed over in the same way, and without a sign the digits begin at once.
  have hsteps (b : UInt8) (hb : b = byte '+' ∨ b = byte '-') (s : List UInt8) :
      remainder (skipPower (b :: s)) = remainder (skipSomeDigits s) := by
    simp only [skipPower, beq_iff_eq, Bool.or_eq_true, hb, if_true]
    cases skipSomeDigits s <;> rfl
  cases hsign : p.sign with
  | absent =>
    obtain ⟨b, bs, hbytes, hb, -⟩ := p.digits.exists_bytes_eq_cons
    have hsteps (s : List UInt8) : skipPower (b :: s) = skipSomeDigits (b :: s) := by
      rw [skipPower, beq_of_isDigit hb (show isDigit (byte '-') = false from rfl),
        beq_of_isDigit hb (show isDigit (byte '+') = false from rfl)]
      rfl
    rw [hbytes] at hdigits
    rw [PowerSign.bytes, List.nil_append, hbytes, List.cons_append, hsteps]
    exact hdigits
  | plus => rw [PowerSign.bytes, List.singleton_append, hsteps _ (.inl rfl), hdigits]
  | minus => rw [PowerSign.bytes, List.singleton_append, hsteps _ (.inr rfl), hdigits]

theorem remainder_skipPower? (p : Option Power) (h : EndsNumber r) :
    remainder (skipPower? (p.elim [] Power.bytes ++ r)) = some r := by
  cases p with
  | none =>
    cases r with
    | nil => rfl
    | cons b r =>
      have hmark : (b == byte 'e' || b == byte 'E') = false := (h b rfl).2.2
      rw [Option.elim_none, List.nil_append, skipPower?, hmark]
      rfl
  | some p =>
    have hmark : (byte (if p.capital then 'E' else 'e') == byte 'e' ||
        byte (if p.capital then 'E' else 'e') == byte 'E') = true := by
      cases p.capital <;> rfl
    have hsteps (b : UInt8) (hb : (b == byte 'e' || b == byte 'E') = true) (s : List UInt8) :
        remainder (skipPower? (b :: s)) = remainder (skipPower s) := by
      rw [skipPower?, hb, if_pos rfl]
      cases skipPower s <;> rfl
    rw [Option.elim_some, Power.bytes, List.cons_append, List.append_assoc, hsteps _ hmark,
      remainder_skipPower p h.noDigit]

theorem remainder_skipFraction? (fraction : Option Digits) (h : NoDigit r)
    (hpoint : fraction = none → ∀ b ∈ r.head?, b ≠ byte '.') :
    remainder (skipFraction? ((fraction.elim [] fun ds => byte '.' :: ds.bytes) ++ r)) =
      some r := by
  cases fraction with
  | none =>
    cases r with
    | nil => rfl
    | cons b r =>
      rw [Option.elim_none, List.nil_append, skipFraction?,
        if_neg (by simpa using hpoint rfl b rfl)]
      rfl
  | some ds =>
    have hsteps (s : List UInt8) :
        remainder (skipFraction? (byte '.' :: s)) = remainder (skipSomeDigits s) := by
      rw [skipFraction?, beq_self_eq_true, if_pos rfl]
      cases skipSomeDigits s <;> rfl
    rw [Option.elim_some, List.cons_append, hsteps, remainder_skipSomeDigits ds h]

/-- A number is passed over whatever its size. -/
theorem remainder_skipNumber (n : Numeral) (h : EndsNumber r) :
    remainder (skipNumber (n.body ++ r)) = some r := by
  have hsteps (s : List UInt8) : remainder (skipNumber s) =
      (remainder (skipWhole s)).bind fun r => (remainder (skipFraction? r)).bind fun r =>
        remainder (skipPower? r) := by
    simp only [skipNumber, remainder_bind]
    simp only [remainder, Option.bind_map, Function.comp_def]
    refine Option.bind_congr fun q _ => Option.bind_congr fun q₁ _ => ?_
    rw [Option.map_eq_bind]
    rfl
  -- Each part ends where the next one begins, since none of the marks is a digit.
  have hpower : NoDigit (n.power.elim [] Power.bytes ++ r) :=
    fun b hb => (ends_fraction n.power h b hb).1
  rw [hsteps, Numeral.body, List.append_assoc, List.append_assoc,
    remainder_skipWhole _ (noDigit_fraction _ hpower), Option.bind_some,
    remainder_skipFraction? _ hpower fun _ b hb => (ends_fraction n.power h b hb).2,
    Option.bind_some, remainder_skipPower? _ h]

end TrafficMap.Json
