import Mathlib
import TrafficMap.Json5.Meaning
import TrafficMap.Proofs.Number.Decimal

/-!
# JSON5: What Strings and Numbers Stand For

The literals of a document with what is meant by them, said without reading them: `Spells` relates
the pieces of a string to its characters, and `Numeral` is a number the way somebody writes it, with
the number that is written. A literal is then read as what it stands for.

Numbers are meant exactly. What comes of them is the float next to the exact number, so nothing is
lost of a number that a float can hold.
-/

namespace TrafficMap.Json5

open Float.Model (Format)
open Float.Model.UnpackedFloat (Sign)

/-! ## Digits of base 16 -/

/-- A digit of base 16; the letters among them come in two cases. -/
structure HexDigit where
  value : Fin 16
  capital : Bool

def HexDigit.char (d : HexDigit) : Char :=
  if d.capital then (Nat.digitChar d.value).toUpper else Nat.digitChar d.value

/-- The number that digits of base 16 are written for. -/
def hexValue (ds : List HexDigit) : ℕ := ds.foldl (fun n d => 16 * n + d.value) 0

theorem digitIn?_char (d : HexDigit) : Text.digitIn? 16 d.char = some d.value.val := by
  obtain ⟨value, capital⟩ := d
  revert value capital
  decide

theorem numberIn?_chars (ds : List HexDigit) :
    Text.numberIn? 16 (ds.map HexDigit.char) = some (hexValue ds) := by
  have hdigits : (ds.map HexDigit.char).mapM (Text.digitIn? 16) = some (ds.map (·.value.val)) := by
    induction ds with
    | nil => rfl
    | cons d ds ih =>
      rw [List.map_cons, List.mapM_cons, ih, digitIn?_char]
      rfl
  rw [Text.numberIn?, hdigits, Option.map_some, List.foldl_map]
  rfl

/-- Digits are read as their number, one digit at least and not more than 32 bits. -/
theorem hexNumber_chars {ds : List HexDigit} (hne : ds ≠ []) (hfits : hexValue ds < UInt32.size) :
    hexNumber (ds.map HexDigit.char) = .ok (hexValue ds) := by
  have hchars : (ds.map HexDigit.char).isEmpty = false := by
    rw [List.isEmpty_eq_false_iff]
    exact mt List.map_eq_nil_iff.mp hne
  rw [hexNumber, numberIn?_chars, Option.filter_some, if_pos (decide_eq_true hfits)]
  simp [hchars]

theorem hexValue_lt (ds : List HexDigit) : hexValue ds < 16 ^ ds.length := by
  induction ds using List.reverseRecOn with
  | nil => exact Nat.one_pos
  | append_singleton ds d ih =>
    have hd := d.value.isLt
    rw [hexValue, List.foldl_append, List.length_append, List.length_singleton, Nat.pow_succ]
    rw [hexValue] at ih
    simp only [List.foldl_cons, List.foldl_nil]
    omega

/-! ## Strings -/

/-- What a letter behind a backslash stands for, where it is not the letter itself. -/
def escapes : List (Char × Char) :=
  [('b', '\x08'), ('f', '\x0c'), ('n', '\n'), ('r', '\r'), ('t', '\t'), ('v', '\x0b')]

/-- The pieces stand for the characters. An escape gives a character by its number, and a character
beyond 16 bits by the two halves that such a character has in UTF-16. -/
inductive Spells : List Piece → List Char → Prop
  | nil : Spells [] []
  | plain (c : Char) {ps : List Piece} {cs : List Char} (h : Spells ps cs) :
      Spells (.plain c :: ps) (c :: cs)
  | escaped (c : Char) {ps : List Piece} {cs : List Char} (h : Spells ps cs) :
      Spells (.escaped c :: ps) ((escapes.lookup c).getD c :: cs)
  | zero {ps : List Piece} {cs : List Char} (h : Spells ps cs) :
      Spells (.zero :: ps) ('\x00' :: cs)
  | short {ds : List HexDigit} {c : Char} {ps : List Piece} {cs : List Char} (hds : ds.length = 2)
      (hc : c.toNat = hexValue ds) (h : Spells ps cs) :
      Spells (.short (ds.map HexDigit.char) :: ps) (c :: cs)
  | long {ds : List HexDigit} {c : Char} {ps : List Piece} {cs : List Char} (hds : ds.length = 4)
      (hc : c.toNat = hexValue ds) (h : Spells ps cs) :
      Spells (.long (ds.map HexDigit.char) :: ps) (c :: cs)
  | pair {ds es : List HexDigit} {c : Char} {ps : List Piece} {cs : List Char}
      (hds : ds.length = 4) (hes : es.length = 4) (hc : 0x10000 ≤ c.toNat)
      (hhigh : hexValue ds = 0xD800 + (c.toNat - 0x10000) / 0x400)
      (hlow : hexValue es = 0xDC00 + (c.toNat - 0x10000) % 0x400) (h : Spells ps cs) :
      Spells (.long (ds.map HexDigit.char) :: .long (es.map HexDigit.char) :: ps) (c :: cs)

theorem escapedChar_eq (c : Char) : escapedChar c = (escapes.lookup c).getD c := by
  unfold escapedChar escapes
  split_ifs with hb hf hn hr ht hv
  · rw [hb]; rfl
  · rw [hf]; rfl
  · rw [hn]; rfl
  · rw [hr]; rfl
  · rw [ht]; rfl
  · rw [hv]; rfl
  · simp [List.lookup, beq_false_of_ne, hb, hf, hn, hr, ht, hv]

/-- No character has a number that is kept for the halves of others. -/
theorem not_surrogate (c : Char) : c.toNat < 0xD800 ∨ 0xDFFF < c.toNat := by
  have h := c.valid
  show c.val.toNat < _ ∨ _ < c.val.toNat
  rw [UInt32.isValidChar, Nat.isValidChar] at h
  omega

/-- **A string is read as the characters that it stands for.** The relation gives the characters
and leaves the spelling open, so this holds of a plain text and of one that consists of escapes
alike. -/
theorem Spells.charsOf {ps : List Piece} {cs : List Char} (h : Spells ps cs) :
    charsOf ps = .ok cs := by
  have hfits {ds : List HexDigit} (hds : ds.length = 2 ∨ ds.length = 4) :
      hexNumber (ds.map HexDigit.char) = .ok (hexValue ds) := by
    apply hexNumber_chars
    · rintro rfl
      simp at hds
    · have hlt := hexValue_lt ds
      have hsize : UInt32.size = 4294967296 := rfl
      obtain hds | hds := hds <;> rw [hds] at hlt <;> omega
  induction h with
  | nil => rw [Json5.charsOf]
  | plain c _ ih =>
    rw [Json5.charsOf, ih]
    rfl
  | escaped c _ ih =>
    rw [Json5.charsOf, ih, ← escapedChar_eq]
    rfl
  | zero _ ih =>
    rw [Json5.charsOf, ih]
    rfl
  | @short ds c _ _ hds hc _ ih =>
    rw [Json5.charsOf, hfits (.inl hds), ih, ← hc]
    show Except.ok (Char.ofNat c.toNat :: _) = _
    rw [Char.ofNat_toNat]
  | @long ds c _ _ hds hc _ ih =>
    -- The number belongs to a character, so it is no half of a pair.
    have hwhole := not_surrogate c
    rw [Json5.charsOf, hfits (.inr hds), ih, ← hc]
    show (if _ then _ else if _ then _ else _) = _
    rw [if_neg (by omega), if_neg (by omega)]
    show Except.ok (Char.ofNat c.toNat :: _) = _
    rw [Char.ofNat_toNat]
  | @pair ds es c ps _ hds hes hc hhigh hlow _ ih =>
    have hlast : c.toNat < 0x110000 := by
      have h := c.valid
      show c.val.toNat < _
      rw [UInt32.isValidChar, Nat.isValidChar] at h
      omega
    have htrail : trailOf (some (.long (es.map HexDigit.char))) = .ok (hexValue es) := by
      show (hexNumber (es.map HexDigit.char)).bind _ = _
      rw [hfits (.inr hes)]
      show (if _ then _ else _) = _
      rw [if_pos (by omega)]
    rw [Json5.charsOf, hfits (.inr hds)]
    show (if _ then _ else if _ then _ else _) = _
    rw [if_neg (by omega), if_pos (by omega), List.head?_cons, htrail, List.drop_one, List.tail_cons,
      ih]
    have hchar : (hexValue ds - 0xD800) * 0x400 + (hexValue es - 0xDC00) + 0x10000 = c.toNat := by
      omega
    show Except.ok (Char.ofNat _ :: _) = _
    rw [hchar, Char.ofNat_toNat]

theorem Spells.textOf {ps : List Piece} {s : String} (h : Spells ps s.toList) :
    textOf ps = .ok s := by
  rw [Json5.textOf, h.charsOf]
  exact congrArg Except.ok String.ofList_toList

/-- A key or a string that is spelled without escapes. -/
def unescaped (text : String) : List Piece := text.toList.map .plain

theorem spells_unescaped (text : String) : Spells (unescaped text) text.toList := by
  rw [unescaped]
  induction text.toList with
  | nil => exact .nil
  | cons c cs ih => exact .plain c ih

/-! ## Numbers -/

/-- The sign that may stand before a number or a power of ten. -/
inductive SignMark where
  | absent
  | plus
  | minus

namespace SignMark

def chars : SignMark → List Char
  | .absent => []
  | .plus => ['+']
  | .minus => ['-']

def sign : SignMark → Sign
  | .minus => .negative
  | _ => .positive

end SignMark

/-- A power of ten; the letter before it comes in two cases. -/
structure Power where
  capital : Bool
  mark : SignMark
  digits : List Char
  isDigit : ∀ c ∈ digits, c.isDigit = true

namespace Power

def chars (p : Power) : List Char :=
  (if p.capital then 'E' else 'e') :: (p.mark.chars ++ p.digits)

def value (p : Power) : ℤ := p.mark.sign.apply (Nat.ofDigitChars 10 p.digits 0)

end Power

/-- A number in base 10. There may be digits before a point and behind it, with at least one digit
somewhere. -/
structure DecimalNumeral where
  mark : SignMark
  front : List Char
  fraction : Option (List Char)
  power : Option Power
  isDigit_front : ∀ c ∈ front, c.isDigit = true
  isDigit_fraction : ∀ c ∈ fraction.getD [], c.isDigit = true
  exists_digit : front ≠ [] ∨ fraction.getD [] ≠ []

namespace DecimalNumeral

/-- The number without its sign. -/
def body (n : DecimalNumeral) : List Char :=
  n.front ++ (n.fraction.elim [] ('.' :: ·) ++ n.power.elim [] Power.chars)

def chars (n : DecimalNumeral) : List Char := n.mark.chars ++ n.body

/-- The exact number, without its sign. -/
def magnitude (n : DecimalNumeral) : ℚ :=
  (Nat.ofDigitChars 10 n.front 0 +
    Nat.ofDigitChars 10 (n.fraction.getD []) 0 / 10 ^ (n.fraction.getD []).length) *
      10 ^ n.power.elim 0 Power.value

end DecimalNumeral

/-- A number as it may be written. -/
inductive Numeral where
  | decimal (n : DecimalNumeral)
  | hex (capital : Bool) (digits : List HexDigit)
  | infinity (minus : Bool)
  | notANumber (minus : Bool)

def Numeral.chars : Numeral → List Char
  | .decimal n => n.chars
  | .hex capital digits => '0' :: (if capital then 'X' else 'x') :: digits.map HexDigit.char
  | .infinity minus => (if minus then "-Infinity" else "Infinity").toList
  | .notANumber minus => (if minus then "-NaN" else "NaN").toList

/-- The float that a number means: the one next to the exact number, as long as that is within the
format. A number in base 16 has one digit at least, and no more than 32 bits. -/
inductive Numeral.Means : Numeral → Float → Prop
  | decimal {n : DecimalNumeral} {x : Float}
      (hx : IsRounding Format.binary64 n.mark.sign n.magnitude x.toModel.unpack)
      (hfinite : x.isFinite = true) : Means (.decimal n) x
  | hex (capital : Bool) {digits : List HexDigit} {x : Float} (hne : digits ≠ [])
      (hfits : hexValue digits < UInt32.size)
      (hx : IsRounding Format.binary64 .positive (hexValue digits) x.toModel.unpack) :
      Means (.hex capital digits) x
  | infinity (minus : Bool) : Means (.infinity minus) (if minus then -1.0 / 0.0 else 1.0 / 0.0)
  | notANumber (minus : Bool) : Means (.notANumber minus) (0.0 / 0.0)

/-! ### The parts of a decimal -/

/-- The characters that numbers in base 10 are written with. None of them begins a word, nor the
digits of another base. So a number in base 10 goes through the tests for these and fails each of
them. -/
def IsDecimalChar (c : Char) : Prop := c.isDigit = true ∨ c ∈ ['.', 'e', 'E', '+', '-']

theorem isDecimalChar_of_mem_mark {mark : SignMark} {c : Char} (h : c ∈ mark.chars) :
    IsDecimalChar c := by
  cases mark with
  | absent => cases h
  | plus => exact .inr (by simp_all [SignMark.chars])
  | minus => exact .inr (by simp_all [SignMark.chars])

theorem isDecimalChar_of_mem_body (n : DecimalNumeral) {c : Char} (h : c ∈ n.body) :
    IsDecimalChar c := by
  -- Whole part, fraction, power: the parts are split off as the body is put together.
  rw [DecimalNumeral.body, List.mem_append, List.mem_append] at h
  obtain h | h | h := h
  · exact .inl (n.isDigit_front c h)
  · have hdigits := n.isDigit_fraction
    cases hfraction : n.fraction with
    | none =>
      rw [hfraction] at h
      cases h
    | some ds =>
      rw [hfraction] at h hdigits
      obtain rfl | hc := List.mem_cons.mp h
      · exact .inr (by simp)
      · exact .inl (hdigits c hc)
  · cases hpower : n.power with
    | none =>
      rw [hpower] at h
      cases h
    | some p =>
      rw [hpower] at h
      obtain rfl | hc := List.mem_cons.mp h
      · refine .inr ?_
        split <;> simp
      · obtain hc | hc := List.mem_append.mp hc
        · exact isDecimalChar_of_mem_mark hc
        · exact .inl (p.isDigit c hc)

theorem DecimalNumeral.isDecimalChar (n : DecimalNumeral) : ∀ c ∈ n.chars, IsDecimalChar c := by
  rw [DecimalNumeral.chars]
  exact List.forall_mem_append.mpr
    ⟨fun _ => isDecimalChar_of_mem_mark, fun _ => isDecimalChar_of_mem_body n⟩

/-- The words have capitals in them that nothing else is written with. -/
theorem specialNumber?_eq_none {cs : List Char} (hinfinity : 'I' ∉ cs) (hnan : 'N' ∉ cs) :
    specialNumber? cs = none := by
  have hword (word : String) (h : 'I' ∈ word.toList ∨ 'N' ∈ word.toList) :
      String.ofList cs ≠ word := by
    rintro rfl
    rw [String.toList_ofList] at h
    exact h.elim hinfinity hnan
  unfold specialNumber?
  simp only [hword "Infinity" (by simp), hword "-Infinity" (by simp), hword "NaN" (by simp),
    hword "-NaN" (by simp), or_self, if_false]

theorem specialNumber?_eq_none_of_decimal {cs : List Char} (h : ∀ c ∈ cs, IsDecimalChar c) :
    specialNumber? cs = none := by
  apply specialNumber?_eq_none
  · intro hmem
    simpa [IsDecimalChar] using h _ hmem
  · intro hmem
    simpa [IsDecimalChar] using h _ hmem

/-- What is written with the characters of decimals is not written in base 16. -/
theorem isHexLiteral_eq_false {cs : List Char} (h : ∀ c ∈ cs, IsDecimalChar c) :
    isHexLiteral cs = false := by
  unfold isHexLiteral
  split
  case h_1 x _ _ =>
    have hx : IsDecimalChar x := h x (by simp)
    rw [Bool.or_eq_false_iff, beq_eq_false_iff_ne, beq_eq_false_iff_ne]
    constructor <;> rintro rfl <;> revert hx <;> rw [IsDecimalChar] <;> decide
  case h_2 => rfl

/-- The sign is split off, where the rest begins with none. -/
theorem signOf_append (mark : SignMark) {cs : List Char} (h : ∀ c ∈ cs.head?, c ≠ '-' ∧ c ≠ '+') :
    signOf (mark.chars ++ cs) = (isMinus mark.sign, cs) := by
  cases mark with
  | plus => rfl
  | minus => rfl
  -- Nothing is split off where no sign stands, since the rest does not begin with one.
  | absent =>
    show signOf cs = (false, cs)
    unfold signOf
    split
    case h_1 => exact absurd rfl (h _ rfl).1
    case h_2 => exact absurd rfl (h _ rfl).2
    case h_3 => rfl

/-- Digits are taken as far as they go. -/
theorem takeWhile_isDigit {ds : List Char} (hds : ∀ c ∈ ds, c.isDigit = true) (cs : List Char)
    (hcs : ∀ c ∈ cs.head?, c.isDigit = false) :
    (ds ++ cs).takeWhile Char.isDigit = ds ∧ (ds ++ cs).dropWhile Char.isDigit = cs := by
  rw [List.takeWhile_append_of_pos hds, List.dropWhile_append_of_pos hds]
  cases cs with
  | nil => simp
  | cons c cs =>
    have hc : c.isDigit = false := hcs c rfl
    simp [hc]

theorem ne_sign_of_isDigit {c : Char} (h : c.isDigit = true) : c ≠ '-' ∧ c ≠ '+' := by
  constructor <;> rintro rfl <;> revert h <;> decide

/-- What stands in front of a decimal is a digit or the point. -/
theorem ne_sign_of_head_body (n : DecimalNumeral) : ∀ c ∈ n.body.head?, c ≠ '-' ∧ c ≠ '+' := by
  rw [DecimalNumeral.body]
  cases hfront : n.front with
  | cons d ds =>
    rintro c ⟨⟩
    exact ne_sign_of_isDigit (n.isDigit_front d (by simp [hfront]))
  | nil =>
    cases hfraction : n.fraction with
    | none =>
      -- Without a whole part and without a fraction there would be no digit.
      have hnone := n.exists_digit
      rw [hfront, hfraction] at hnone
      simp at hnone
    | some ds =>
      rintro c ⟨⟩
      decide

/-- A power of ten is read as its value, behind either letter. -/
theorem power_chars (p : Power) :
    ∃ letter r, p.chars = letter :: r ∧ (letter = 'E' ∨ letter = 'e') ∧
      p.value = if (signOf r).1 then -(digitsValue (signOf r).2 : Int)
        else digitsValue (signOf r).2 := by
  have hsign : signOf (p.mark.chars ++ p.digits) = (isMinus p.mark.sign, p.digits) :=
    signOf_append p.mark fun c hc => ne_sign_of_isDigit (p.isDigit c (List.mem_of_mem_head? hc))
  refine ⟨_, _, rfl, ite_eq_or_eq _ _ _, ?_⟩
  rw [hsign, Power.value]
  cases p.mark <;> rfl

/-- A decimal is taken apart into what it is written of. -/
theorem decimalOf?_chars (n : DecimalNumeral) :
    decimalOf? n.chars = some ⟨isMinus n.mark.sign, n.front, n.fraction.getD [],
      n.power.elim 0 Power.value⟩ := by
  have hsign := signOf_append n.mark (ne_sign_of_head_body n)
  obtain ⟨mark, front, fraction, power, hfront, hfraction, hdigit⟩ := n
  have hsome : ¬ (front.isEmpty = true ∧ (fraction.getD []).isEmpty = true) := by
    rw [List.isEmpty_iff, List.isEmpty_iff]
    exact fun hnone => hdigit.elim (· hnone.1) (· hnone.2)
  simp only [DecimalNumeral.body] at hsign
  simp only [decimalOf?, DecimalNumeral.chars, DecimalNumeral.body, hsign]
  -- Digits end at the point, at the letter of a power, or with the number.
  cases fraction with
  | none =>
    cases power with
    | none =>
      obtain ⟨htake, hdrop⟩ := takeWhile_isDigit hfront [] (by simp)
      simp only [Option.elim_none, List.append_nil] at htake hdrop ⊢
      simp only [htake, hdrop]
      exact if_neg hsome
    | some p =>
      obtain ⟨letter, r, hchars, hletter, hvalue⟩ := power_chars p
      obtain ⟨htake, hdrop⟩ := takeWhile_isDigit hfront (letter :: r)
        (by obtain rfl | rfl := hletter <;> simp)
      simp only [Option.elim_none, Option.elim_some, List.nil_append, hchars, htake, hdrop]
      rw [hvalue]
      obtain rfl | rfl := hletter <;> exact if_neg hsome
  | some ds =>
    have hds : ∀ c ∈ ds, c.isDigit = true := hfraction
    cases power with
    | none =>
      obtain ⟨htake, hdrop⟩ := takeWhile_isDigit hfront ('.' :: ds) (by simp)
      obtain ⟨htake', hdrop'⟩ := takeWhile_isDigit hds [] (by simp)
      simp only [List.append_nil] at htake' hdrop'
      simp only [Option.elim_none, Option.elim_some, List.append_nil, htake, hdrop, htake', hdrop']
      exact if_neg hsome
    | some p =>
      obtain ⟨letter, r, hchars, hletter, hvalue⟩ := power_chars p
      obtain ⟨htake, hdrop⟩ := takeWhile_isDigit hfront ('.' :: (ds ++ letter :: r)) (by simp)
      obtain ⟨htake', hdrop'⟩ := takeWhile_isDigit hds (letter :: r)
        (by obtain rfl | rfl := hletter <;> simp)
      simp only [Option.elim_some, List.cons_append, hchars, htake, hdrop, htake', hdrop']
      rw [hvalue]
      exact if_neg hsome

/-- Digits before and behind the point are the digits of one whole number, with a lower power. -/
theorem magnitude_eq (n : DecimalNumeral) :
    n.magnitude = digitsValue (n.front ++ n.fraction.getD []) *
      10 ^ (n.power.elim 0 Power.value - ((n.fraction.getD []).length : ℤ)) := by
  have hdigits (ds : List Char) : digitsValue ds = Nat.ofDigitChars 10 ds 0 := rfl
  have happend : digitsValue (n.front ++ n.fraction.getD []) =
      10 ^ (n.fraction.getD []).length * Nat.ofDigitChars 10 n.front 0 +
        Nat.ofDigitChars 10 (n.fraction.getD []) 0 := by
    rw [hdigits, Nat.ofDigitChars_append, Nat.ofDigitChars_eq_ofDigitChars_zero]
  rw [DecimalNumeral.magnitude, happend, zpow_sub₀ (by norm_num), zpow_natCast]
  push_cast
  field_simp

/-- The float of a decimal is the one next to what is written. -/
theorem isRounding_decimal (n : DecimalNumeral) :
    IsRounding Format.binary64 n.mark.sign n.magnitude
      (Decimal.toFloat ⟨isMinus n.mark.sign, n.front, n.fraction.getD [],
        n.power.elim 0 Power.value⟩).toModel.unpack := by
  have hround := isRounding_ofScientific (digitsValue (n.front ++ n.fraction.getD []))
    (n.power.elim 0 Power.value - ((n.fraction.getD []).length : ℤ))
  rw [← magnitude_eq] at hround
  cases hmark : n.mark with
  | absent => exact hround
  | plus => exact hround
  -- The reader rounds first and negates then, which comes to the same.
  | minus => exact IsRounding.neg (x := .ofModel (.ofScientific _ _)) hround

/-! ### Readings -/

theorem floatOf_decimal (n : DecimalNumeral) {x : Float}
    (hx : IsRounding Format.binary64 n.mark.sign n.magnitude x.toModel.unpack)
    (hfinite : x.isFinite = true) : floatOf n.chars = .ok x := by
  have hbody : ∀ c ∈ n.body, IsDecimalChar c := fun _ => isDecimalChar_of_mem_body n
  have hchars : ∀ c ∈ n.chars, IsDecimalChar c := n.isDecimalChar
  have hsign : signOf n.chars = (isMinus n.mark.sign, n.body) :=
    signOf_append n.mark (ne_sign_of_head_body n)
  have hfloat := float_eq_of_unpack (hx.unique (by decide) (isRounding_decimal n))
  -- With its sign and without it: no word, no base 16, and then a decimal within the limit.
  rw [floatOf, specialNumber?_eq_none_of_decimal hchars]
  simp only [isHexLiteral_eq_false hchars, hsign, specialNumber?_eq_none_of_decimal hbody,
    isHexLiteral_eq_false hbody, decimalOf?_chars, ← hfloat, hfinite]
  rfl

section Hex

variable (capital : Bool) {ds : List HexDigit}

theorem isHexLiteral_hex (hne : ds ≠ []) :
    isHexLiteral (Numeral.hex capital ds).chars = true := by
  obtain ⟨d, ds, rfl⟩ := List.exists_cons_of_ne_nil hne
  cases capital <;> rfl

theorem specialNumber?_hex : specialNumber? (Numeral.hex capital ds).chars = none := by
  have hchar (d : HexDigit) : d.char ≠ 'I' ∧ d.char ≠ 'N' := by
    obtain ⟨value, capital⟩ := d
    revert value capital
    decide
  apply specialNumber?_eq_none
  · cases capital <;> simp [Numeral.chars, hchar]
  · cases capital <;> simp [Numeral.chars, hchar]

end Hex

/-- **A number is read as the float that it means.** Rounding determines the float, so the reader's
way to it does not matter as long as it rounds correctly. -/
theorem Numeral.Means.floatOf {n : Numeral} {x : Float} (h : n.Means x) :
    floatOf n.chars = .ok x := by
  cases h with
  | decimal hx hfinite => exact floatOf_decimal _ hx hfinite
  | @hex capital ds _ hne hfits hx =>
    have hword : (hexValue ds).toUInt64.toNat = hexValue ds :=
      UInt64.toNat_ofNat_of_lt' (hfits.trans (by decide))
    -- Base 16 is read as a word and made a float from that, which is one rounding as well.
    have hround := isRounding_toFloat (hexValue ds).toUInt64
    rw [hword] at hround
    have hdrop : (Numeral.hex capital ds).chars.drop 2 = ds.map HexDigit.char := rfl
    rw [Json5.floatOf, specialNumber?_hex, isHexLiteral_hex capital hne, hdrop,
      hexNumber_chars hne hfits, float_eq_of_unpack (hx.unique (by decide) hround)]
    rfl
  | infinity minus => cases minus <;> rfl
  | notANumber minus => cases minus <;> rfl

end TrafficMap.Json5
