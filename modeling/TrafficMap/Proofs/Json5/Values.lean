import TrafficMap.Json5.Typed
import TrafficMap.Proofs.Json5.Literals
import TrafficMap.Proofs.Number.Overflow

/-!
# JSON5: What Values Mean

A value may be written in many ways and means one thing. Each relation here says for one kind of
value what is meant, with no regard to how it is read: a text is what its pieces spell, a count the
whole part of the float next to a number, a coordinate that float at 32 bits.

`Understands` is where a reader comes in: whatever is meant, it reads.
-/

namespace TrafficMap.Json5

/-- A reader gives what is meant. The relation says what is meant without the reader, so that a
field which keeps its own value keeps the one that was written. -/
def Understands {α : Type} (read : Node → Except Fault α) (means : Node → α → Prop) : Prop :=
  ∀ node a, means node a → read node = .ok a

/-! ## Kinds of values -/

inductive IsText : Node → String → Prop
  | string {ps : List Piece} {s : String} (h : Spells ps s.toList) : IsText (.string ps) s

inductive IsTruth : Node → Bool → Prop
  | boolean (b : Bool) : IsTruth (.boolean b) b

/-- What is counted is the whole part of a number. -/
inductive IsCount : Node → UInt64 → Prop
  | number {n : Numeral} {x : Float} {k : UInt64} (hx : n.Means x) (hk : IsWholePart x k) :
      IsCount (.number n.chars) k

/-- A number is rounded to a float before it is narrowed. -/
inductive IsCoordinate : Node → Float32 → Prop
  | number {n : Numeral} {x : Float} {y : Float32} (hx : n.Means x) (hy : IsNarrowed x y) :
      IsCoordinate (.number n.chars) y

/-- One of a few values is given by its name, or by an object whose first key is the name. -/
inductive IsVariant {α : Type} (nameOf : α → String) : Node → α → Prop
  | string {ps : List Piece} {a : α} (h : Spells ps (nameOf a).toList) :
      IsVariant nameOf (.string ps) a
  | key {ps : List Piece} {a : α} (node : Node) (members : List (List Piece × Node))
      (h : Spells ps (nameOf a).toList) : IsVariant nameOf (.object ((ps, node) :: members)) a

theorem understands_text : Understands text IsText := by
  rintro _ s ⟨h⟩
  exact h.textOf

theorem understands_boolean : Understands boolean IsTruth := by
  rintro _ b ⟨⟩
  rfl

theorem understands_count : Understands count IsCount := by
  rintro _ k ⟨hx, hk⟩
  rw [count, float, hx.floatOf, ← hk.toUInt64_eq]
  rfl

theorem understands_coordinate : Understands coordinate IsCoordinate := by
  rintro _ y ⟨hx, hy⟩
  rw [coordinate, float, hx.floatOf, ← hy.narrow_eq]
  rfl

/-- **Counts of 53 binary digits are read as they are.** A greater count may be rounded to a
neighbour, since numbers go through floats of 53 digits. -/
theorem isCount_toDigits {n : UInt64} (hn : n.toNat < 2 ^ 53) :
    IsCount (.number (Nat.toDigits 10 n.toNat)) n := by
  -- The printed digits as a numeral without sign, fraction and power.
  let numeral : DecimalNumeral :=
    { mark := .absent, front := Nat.toDigits 10 n.toNat, fraction := none, power := none
      isDigit_front := fun _ => Nat.isDigit_of_mem_toDigits (by decide) (by decide)
      isDigit_fraction := nofun
      exists_digit := .inl Nat.toDigits_ne_nil }
  have hchars : (Numeral.decimal numeral).chars = Nat.toDigits 10 n.toNat := List.append_nil _
  have hmagnitude : numeral.magnitude = n.toNat := by
    simp [numeral, DecimalNumeral.magnitude]
  obtain ⟨hfinite, hpart⟩ := isWholePart_toFloat hn
  rw [← hchars]
  refine .number (.decimal ?_ hfinite) hpart
  rw [hmagnitude]
  exact isRounding_toFloat n

/-- A variant is told by its name if no two of the values have the same name. -/
theorem understands_variant {α : Type} {values : List α} {nameOf : α → String}
    (hmem : ∀ a, a ∈ values) (hinj : Function.Injective nameOf) :
    Understands (variant values nameOf) (IsVariant nameOf) := by
  have hfind (a : α) : values.find? (nameOf · == nameOf a) = some a := by
    have hsome : (values.find? (nameOf · == nameOf a)).isSome := by
      rw [List.find?_isSome]
      exact ⟨a, hmem a, beq_self_eq_true (nameOf a)⟩
    obtain ⟨b, hb⟩ := Option.isSome_iff_exists.mp hsome
    have hname := List.find?_some hb
    -- Whatever is found first has the name, and only one value has it.
    rw [hb, hinj (eq_of_beq hname)]
  rintro _ a (h | ⟨_, _, h⟩)
  all_goals
    simp only [variant, h.textOf, Except.bind, hfind]

/-! ## Values that nobody asks for -/

/-- A number makes sense by itself if it has a float, or without point and power a signed word. -/
inductive Numeral.IsSound : Numeral → Prop
  | whole {n : DecimalNumeral} {w : Int64} (hfraction : n.fraction = none) (hpower : n.power = none)
      (hw : w.toInt = n.mark.sign.apply (Nat.ofDigitChars 10 n.front 0)) : IsSound (.decimal n)
  | float {n : DecimalNumeral} {x : Float} (hpart : n.fraction ≠ none ∨ n.power ≠ none)
      (hx : (decimal n).Means x) : IsSound (.decimal n)
  | hex (capital : Bool) {digits : List HexDigit} (hne : digits ≠ [])
      (hfits : hexValue digits < UInt32.size) : IsSound (.hex capital digits)
  | infinity (minus : Bool) : IsSound (.infinity minus)
  | notANumber (minus : Bool) : IsSound (.notANumber minus)

/-- A value makes sense by itself if every key, string and number in it does. -/
inductive IsSound : Node → Prop
  | null : IsSound .null
  | boolean (b : Bool) : IsSound (.boolean b)
  | string {ps : List Piece} {s : String} (h : Spells ps s.toList) : IsSound (.string ps)
  | number {n : Numeral} (h : n.IsSound) : IsSound (.number n.chars)
  | array {items : List Node} (h : ∀ item ∈ items, IsSound item) : IsSound (.array items)
  | object {members : List (List Piece × Node)}
      (hkeys : ∀ m ∈ members, ∃ s : String, Spells m.1 s.toList)
      (hvalues : ∀ m ∈ members, IsSound m.2) : IsSound (.object members)

theorem chars_of_whole {n : DecimalNumeral} (hfraction : n.fraction = none)
    (hpower : n.power = none) : n.chars = n.mark.chars ++ n.front := by
  rw [DecimalNumeral.chars, DecimalNumeral.body, hfraction, hpower, Option.elim_none,
    Option.elim_none, List.append_nil, List.append_nil]

theorem isWhole_of_whole {n : DecimalNumeral} (hfraction : n.fraction = none)
    (hpower : n.power = none) : isWhole n.chars = true := by
  have hnone : specialNumber? n.chars = none := specialNumber?_eq_none_of_decimal n.isDecimalChar
  -- Sign and digits are all there is, and none of the marks of a float is among them.
  have hno {c : Char} (hmark : c ∉ ['+', '-']) (hdigit : c.isDigit = false) : c ∉ n.chars := by
    rw [chars_of_whole hfraction hpower, List.mem_append, not_or]
    constructor
    · cases n.mark <;> simp_all [SignMark.chars]
    · intro hfront
      rw [n.isDigit_front c hfront] at hdigit
      cases hdigit
  have hpoint : '.' ∉ n.chars := hno (by decide) (by decide)
  have hlower : 'e' ∉ n.chars := hno (by decide) (by decide)
  have hupper : 'E' ∉ n.chars := hno (by decide) (by decide)
  simp [isWhole, hnone, hpoint, hlower, hupper]

theorem wordOf_of_whole {n : DecimalNumeral} {w : Int64} (hfraction : n.fraction = none)
    (hpower : n.power = none) (hw : w.toInt = n.mark.sign.apply (Nat.ofDigitChars 10 n.front 0)) :
    wordOf n.chars = .ok w := by
  -- Each test of the reader in turn, with what the numeral's characters make of it.
  have hhex : isHexLiteral n.chars = false := isHexLiteral_eq_false n.isDecimalChar
  have hne : n.front ≠ [] := by
    have hdigit := n.exists_digit
    simpa [hfraction] using hdigit
  have hfront : (n.front.isEmpty || !n.front.all Char.isDigit) = false := by
    simpa [hne] using n.isDigit_front
  have hsign : signOf n.chars = (isMinus n.mark.sign, n.front) := by
    rw [chars_of_whole hfraction hpower]
    exact signOf_append n.mark fun c hc =>
      ne_sign_of_isDigit (n.isDigit_front c (List.mem_of_mem_head? hc))
  have hvalue : (if isMinus n.mark.sign then -(digitsValue n.front : Int)
      else digitsValue n.front) = w.toInt := by
    rw [hw]
    cases n.mark <;> rfl
  rw [wordOf, hhex]
  simp only [hsign, hfront, hvalue, signedWord?_eq_some_iff.mpr rfl]
  rfl

/-- With a point or a power, a decimal is not whole. -/
theorem isWhole_eq_false {n : DecimalNumeral} (h : n.fraction ≠ none ∨ n.power ≠ none) :
    isWhole n.chars = false := by
  have hhex : isHexLiteral n.chars = false := isHexLiteral_eq_false n.isDecimalChar
  have hmem : '.' ∈ n.chars ∨ 'e' ∈ n.chars ∨ 'E' ∈ n.chars := by
    rw [DecimalNumeral.chars, DecimalNumeral.body]
    obtain h | h := h
    · obtain ⟨ds, hds⟩ := Option.ne_none_iff_exists'.mp h
      simp [hds]
    · obtain ⟨p, hp⟩ := Option.ne_none_iff_exists'.mp h
      cases hcapital : p.capital <;> simp [hp, Power.chars, hcapital]
  obtain h | h | h := hmem <;> simp [isWhole, hhex, h]

theorem isWhole_hex (capital : Bool) {ds : List HexDigit} (hne : ds ≠ []) :
    isWhole (Numeral.hex capital ds).chars = true := by
  have hpoint (d : HexDigit) : d.char ≠ '.' := by
    obtain ⟨value, capital⟩ := d
    revert value capital
    decide
  have hno : '.' ∉ (Numeral.hex capital ds).chars := by
    cases capital <;> simp [Numeral.chars, hpoint]
  simp [isWhole, isHexLiteral_hex capital hne, specialNumber?_hex, hno]

theorem check_number {n : Numeral} (h : n.IsSound) : check (.number n.chars) = .ok () := by
  -- The five ways a numeral can be sound are the five ways through the check.
  cases h with
  | whole hfraction hpower hw =>
    rw [check]
    simp only [Numeral.chars, isWhole_of_whole hfraction hpower,
      wordOf_of_whole hfraction hpower hw]
    rfl
  | float hpart hx =>
    rw [check, hx.floatOf]
    simp only [Numeral.chars, isWhole_eq_false hpart]
    rfl
  | @hex capital ds hne hfits =>
    have hdrop : (Numeral.hex capital ds).chars.drop 2 = ds.map HexDigit.char := rfl
    rw [check, isWhole_hex capital hne, if_pos rfl, wordOf, isHexLiteral_hex capital hne, hdrop,
      hexNumber_chars hne hfits]
    rfl
  | infinity minus => cases minus <;> rfl
  | notANumber minus => cases minus <;> rfl

theorem checkItems_eq_ok {items : List Node} (h : ∀ item ∈ items, check item = .ok ()) :
    checkItems items = .ok () := by
  induction items with
  | nil => rfl
  | cons item items ih =>
    obtain ⟨hitem, hitems⟩ := List.forall_mem_cons.mp h
    rw [checkItems, hitem]
    exact ih hitems

theorem checkMembers_eq_ok {members : List (List Piece × Node)}
    (hkeys : ∀ m ∈ members, ∃ s : String, Spells m.1 s.toList)
    (hvalues : ∀ m ∈ members, check m.2 = .ok ()) : checkMembers members = .ok () := by
  induction members with
  | nil => rfl
  | cons m members ih =>
    obtain ⟨⟨s, hkey⟩, hkeys⟩ := List.forall_mem_cons.mp hkeys
    obtain ⟨hvalue, hvalues⟩ := List.forall_mem_cons.mp hvalues
    rw [checkMembers, hkey.textOf, hvalue]
    exact ih hkeys hvalues

/-- **What makes sense is passed over.** The program reads values for which it has no use as well;
this says which of those do not stop it. -/
theorem IsSound.check {node : Node} (h : IsSound node) : check node = .ok () := by
  -- The check follows the tree, and so does the relation.
  induction h with
  | null => rfl
  | boolean => rfl
  | string h =>
    rw [Json5.check, h.textOf]
    rfl
  | number h => exact check_number h
  | array _ ih =>
    rw [Json5.check]
    exact checkItems_eq_ok ih
  | object hkeys _ ih =>
    rw [Json5.check]
    exact checkMembers_eq_ok hkeys ih

end TrafficMap.Json5
