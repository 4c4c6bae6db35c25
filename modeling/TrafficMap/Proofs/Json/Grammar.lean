import TrafficMap.Json.Reader

/-!
# JSON: Grammar

The texts that are JSON by their shape, as syntax trees, and what each of them means. A tree keeps
everything that is written: the blanks, how a character is escaped, every digit of a number. So a
list of bytes is a JSON text exactly when it is what some tree is written as.

Not every text that is JSON by its shape means a value. A number may be beyond all floats, half of
a surrogate pair may stand alone, and lists and objects may stand in one another more deeply than a
reader follows.
-/

namespace TrafficMap.Json

/-! ## Blanks -/

/-- What may stand between two tokens. -/
inductive Blank where
  | space
  | tab
  | lineFeed
  | carriageReturn
deriving Repr, DecidableEq

def Blank.byte : Blank → UInt8
  | .space => 0x20
  | .tab => 0x09
  | .lineFeed => 0x0A
  | .carriageReturn => 0x0D

/-- Any number of blanks. -/
def blanks (ws : List Blank) : List UInt8 := ws.map Blank.byte

/-! ## Strings -/

/-- A digit of base 16; the letters among them come in two cases. -/
structure HexDigit where
  value : Fin 16
  capital : Bool
deriving Repr, DecidableEq

def HexDigit.byte (d : HexDigit) : UInt8 :=
  if d.value < 10 then .ofNat (0x30 + d.value)
  else .ofNat ((if d.capital then 0x41 else 0x61) + (d.value - 10))

/-- The four digits of a numbered escape. -/
structure CodeUnit where
  first : HexDigit
  second : HexDigit
  third : HexDigit
  fourth : HexDigit
deriving Repr, DecidableEq

namespace CodeUnit

def bytes (u : CodeUnit) : List UInt8 :=
  [u.first.byte, u.second.byte, u.third.byte, u.fourth.byte]

def value (u : CodeUnit) : Nat :=
  ((u.first.value * 16 + u.second.value) * 16 + u.third.value) * 16 + u.fourth.value

end CodeUnit

/-- What an escape by letter stands for. -/
inductive Letter where
  | quote
  | backslash
  | slash
  | backspace
  | formFeed
  | lineFeed
  | carriageReturn
  | tab
deriving Repr, DecidableEq

namespace Letter

def byte : Letter → UInt8
  | .quote => Json.byte '"'
  | .backslash => Json.byte '\\'
  | .slash => Json.byte '/'
  | .backspace => Json.byte 'b'
  | .formFeed => Json.byte 'f'
  | .lineFeed => Json.byte 'n'
  | .carriageReturn => Json.byte 'r'
  | .tab => Json.byte 't'

def char : Letter → Char
  | .quote => '"'
  | .backslash => '\\'
  | .slash => '/'
  | .backspace => '\x08'
  | .formFeed => '\x0c'
  | .lineFeed => '\n'
  | .carriageReturn => '\r'
  | .tab => '\t'

end Letter

/-- A character that may stand in a string as it is. -/
def IsPlain (c : Char) : Prop := 0x20 ≤ c.toNat ∧ c ≠ '"' ∧ c ≠ '\\'

instance : DecidablePred IsPlain :=
  fun c => inferInstanceAs (Decidable (0x20 ≤ c.toNat ∧ c ≠ '"' ∧ c ≠ '\\'))

/-- A part of a string. -/
inductive Piece where
  | plain (c : Char) (h : IsPlain c)
  | letter (l : Letter)
  | numbered (u : CodeUnit)
deriving DecidableEq

def Piece.bytes : Piece → List UInt8
  | .plain c _ => String.utf8EncodeChar c
  | .letter l => [byte '\\', l.byte]
  | .numbered u => byte '\\' :: byte 'u' :: u.bytes

/-- A string behind its opening quote. -/
def stringBody (ps : List Piece) : List UInt8 := ps.flatMap Piece.bytes ++ [byte '"']

/-- The characters of a string. Half of a surrogate pair means no character. -/
def chars? : List Piece → Option (List Char)
  | [] => some []
  | .plain c _ :: ps => (chars? ps).map (c :: ·)
  | .letter l :: ps => (chars? ps).map (l.char :: ·)
  | .numbered u :: ps =>
    if isTrailing u.value then none
    else if isLeading u.value then
      -- The other half has to come next, and as a numbered escape again.
      match ps with
      | .numbered v :: ps =>
        if isTrailing v.value then
          (chars? ps).map (Char.ofNat (pairValue u.value v.value) :: ·)
        else none
      | _ => none
    else (chars? ps).map (Char.ofNat u.value :: ·)

/-- The text that a string means. -/
def text? (ps : List Piece) : Option String := (chars? ps).map String.ofList

/-- Characters as a string without escapes. -/
def plainPieces (cs : List Char) (h : cs.all (fun c => decide (IsPlain c)) = true) : List Piece :=
  cs.pmap Piece.plain fun c hc => of_decide_eq_true (List.all_eq_true.mp h c hc)

/-! ## Numbers -/

/-- The last digit of a number. -/
def digit (n : Nat) : Fin 10 := Fin.ofNat 10 n

/-- One or more digits. -/
structure Digits where
  first : Fin 10
  others : List (Fin 10)
deriving Repr, DecidableEq

namespace Digits

def list (ds : Digits) : List Nat := (ds.first :: ds.others).map Fin.val

def bytes (ds : Digits) : List UInt8 := ds.list.map fun d => .ofNat (0x30 + d)

def value (ds : Digits) : Nat := ds.list.foldl (fun n d => 10 * n + d) 0

end Digits

/-- The digits before the point: no zero stands in front of others. -/
inductive Whole where
  | zero
  | positive (ds : Digits) (h : ds.first ≠ 0)
deriving Repr, DecidableEq

def Whole.digits : Whole → Digits
  | .zero => ⟨digit 0, []⟩
  | .positive ds _ => ds

/-- The sign before a power of ten. -/
inductive PowerSign where
  | absent
  | plus
  | minus
deriving Repr, DecidableEq

def PowerSign.bytes : PowerSign → List UInt8
  | .absent => []
  | .plus => [byte '+']
  | .minus => [byte '-']

/-- A power of ten; its mark comes in two cases. -/
structure Power where
  capital : Bool
  sign : PowerSign
  digits : Digits
deriving Repr, DecidableEq

namespace Power

def bytes (p : Power) : List UInt8 :=
  byte (if p.capital then 'E' else 'e') :: (p.sign.bytes ++ p.digits.bytes)

def value (p : Power) : Int := if p.sign = .minus then -p.digits.value else p.digits.value

end Power

/-- A number. -/
structure Numeral where
  minus : Bool
  whole : Whole
  fraction : Option Digits
  power : Option Power
deriving Repr, DecidableEq

namespace Numeral

/-- The number without its sign. -/
def body (n : Numeral) : List UInt8 :=
  n.whole.digits.bytes ++ ((n.fraction.elim [] fun ds => byte '.' :: ds.bytes) ++
    n.power.elim [] Power.bytes)

def bytes (n : Numeral) : List UInt8 := if n.minus then byte '-' :: n.body else n.body

/-- The digits and the power of ten, as far as they count. -/
def decimal (n : Numeral) : Decimal :=
  .ofDigits n.minus n.whole.digits.list (n.fraction.elim [] Digits.list)
    (n.power.elim 0 Power.value)

/-- The word that the number is, if it is written as a whole number. -/
def word? (n : Numeral) : Option Number :=
  if n.fraction.isNone && n.power.isNone then n.decimal.toWord? else none

/-- The number that is meant, unless it is beyond all floats. A whole number becomes a float only
where no word holds it. -/
def number? (n : Numeral) : Option Number :=
  n.word? <|> n.decimal.toFloat?.map Number.float

end Numeral

/-! ## Values -/

mutual

/-- The syntax tree of a value. Blanks and the spelling of numbers and strings are part of it, so
that a tree has exactly one text. -/
inductive Tree where
  | null
  | boolean (b : Bool)
  | number (n : Numeral)
  | string (ps : List Piece)
  | array (items : Items)
  | object (members : Members)

/-- What stands between brackets. -/
inductive Items where
  | close (gap : List Blank)
  | item (before : List Blank) (tree : Tree) (after : List Blank) (others : Items)

/-- What stands between braces. -/
inductive Members where
  | close (gap : List Blank)
  | member (before : List Blank) (key : List Piece) (beforeColon afterColon : List Blank)
      (tree : Tree) (after : List Blank) (others : Members)

end

/-- The comma before every entry but the first one. -/
def comma (first : Bool) : List UInt8 := if first then [] else [byte ',']

mutual

def Tree.bytes : Tree → List UInt8
  | .null => byte 'n' :: nullTail
  | .boolean true => byte 't' :: trueTail
  | .boolean false => byte 'f' :: falseTail
  | .number n => n.bytes
  | .string ps => byte '"' :: stringBody ps
  | .array items => byte '[' :: items.bytes true
  | .object members => byte '\x7b' :: members.bytes true

/-- The items, the closing bracket included. -/
def Items.bytes : Items → Bool → List UInt8
  | .close gap, _ => blanks gap ++ [byte ']']
  | .item before tree after others, first =>
    comma first ++ (blanks before ++ (tree.bytes ++ (blanks after ++ others.bytes false)))

/-- The members, the closing brace included. -/
def Members.bytes : Members → Bool → List UInt8
  | .close gap, _ => blanks gap ++ [byte '\x7d']
  | .member before key beforeColon afterColon tree after others, first =>
    comma first ++ (blanks before ++ (byte '"' :: (stringBody key ++ (blanks beforeColon ++
      (byte ':' :: (blanks afterColon ++ (tree.bytes ++ (blanks after ++ others.bytes false))))))))

end

/-- A document: one value, with blanks around it. -/
def documentBytes (before : List Blank) (tree : Tree) (after : List Blank) : List UInt8 :=
  blanks before ++ (tree.bytes ++ blanks after)

def Items.list : Items → List Tree
  | .close _ => []
  | .item _ tree _ others => tree :: others.list

/-- The keys and values of an object. -/
def Members.list : Members → List (List Piece × Tree)
  | .close _ => []
  | .member _ key _ _ tree _ others => (key, tree) :: others.list

/-- Induction on trees: what passes from the entries of lists and objects on to them holds of
all. -/
theorem Tree.forall_of {P : Tree → Prop}
    (scalar : ∀ t : Tree, (∀ items, t ≠ .array items) → (∀ members, t ≠ .object members) → P t)
    (array : ∀ items : Items, (∀ t ∈ items.list, P t) → P (.array items))
    (object : ∀ members : Members, (∀ m ∈ members.list, P m.2) → P (.object members)) (t : Tree) :
    P t :=
  @Tree.rec P (fun items => ∀ t ∈ items.list, P t) (fun members => ∀ m ∈ members.list, P m.2)
    (scalar _ nofun nofun) (fun _ => scalar _ nofun nofun) (fun _ => scalar _ nofun nofun)
    (fun _ => scalar _ nofun nofun) array object
    (fun _ => nofun) (fun _ _ _ _ htree hothers => List.forall_mem_cons.mpr ⟨htree, hothers⟩)
    (fun _ => nofun)
    (fun _ _ _ _ _ _ _ htree hothers => List.forall_mem_cons.mpr ⟨htree, hothers⟩) t

/-! ## Meaning -/

mutual

/-- The value that a tree means to a reader that follows it `depth` levels down. -/
def Tree.value? : Tree → Nat → Option Value
  | .null, _ => some .null
  | .boolean b, _ => some (.boolean b)
  | .number n, _ => n.number?.map .number
  | .string ps, _ => (text? ps).map .string
  -- The innermost value has a level of its own.
  | .array items, depth + 2 => (items.values? (depth + 1)).map .array
  | .object members, depth + 2 => (members.values? (depth + 1)).map .object
  | .array _, _ => none
  | .object _, _ => none

def Items.values? : Items → Nat → Option (List Value)
  | .close _, _ => some []
  | .item _ tree _ others, depth => do
    let v ← tree.value? depth
    let vs ← others.values? depth
    some (v :: vs)

def Members.values? : Members → Nat → Option (List (String × Value))
  | .close _, _ => some []
  | .member _ key _ _ tree _ others, depth => do
    let key ← text? key
    let v ← tree.value? depth
    let vs ← others.values? depth
    some ((key, v) :: vs)

end

theorem Items.values?_eq_mapM (depth : Nat) :
    ∀ items : Items, items.values? depth = items.list.mapM (·.value? depth)
  | .close _ => rfl
  | .item _ tree _ others => by
    rw [Items.values?, Items.list, List.mapM_cons, Items.values?_eq_mapM depth others]
    rfl

mutual

/-- How many lists and objects stand in one another. -/
def Tree.depth : Tree → Nat
  | .array items => items.depth + 1
  | .object members => members.depth + 1
  | _ => 0

def Items.depth : Items → Nat
  | .close _ => 0
  | .item _ tree _ others => max tree.depth others.depth

def Members.depth : Members → Nat
  | .close _ => 0
  | .member _ _ _ _ tree _ others => max tree.depth others.depth

end

/-- The float that stands for a decimal is finite. Digits behind the point never make a number too
large, and a zero may have any power of ten. -/
def Decimal.IsWithinFloats (d : Decimal) : Prop :=
  d.power < 0 ∨
    if d.power ≤ Decimal.topPower then
      (d.significand.toFloat * Decimal.tenPower d.power.natAbs).isInf = false
    else (d.significand.toFloat == 0.0) = true

/-- The number is a word, or a float holds it. This is all that can be wrong with a number that is
written correctly. -/
def Numeral.IsInRange (n : Numeral) : Prop := n.word?.isSome ∨ n.decimal.IsWithinFloats

/-- No half of a surrogate pair stands alone. -/
def IsPaired (ps : List Piece) : Prop := (text? ps).isSome

instance (ps : List Piece) : Decidable (IsPaired ps) :=
  inferInstanceAs (Decidable ((text? ps).isSome = true))

mutual

/-- Every number in the tree is in range, and every string is paired, keys included. A sound tree
means a value to any reader that follows it deep enough. -/
def Tree.IsSound : Tree → Prop
  | .number n => n.IsInRange
  | .string ps => IsPaired ps
  | .array items => items.IsSound
  | .object members => members.IsSound
  | _ => True

def Items.IsSound : Items → Prop
  | .close _ => True
  | .item _ tree _ others => tree.IsSound ∧ others.IsSound

def Members.IsSound : Members → Prop
  | .close _ => True
  | .member _ key _ _ tree _ others => IsPaired key ∧ tree.IsSound ∧ others.IsSound

end

theorem Decimal.scaled?_isSome_iff (x : Float) (power : Int) :
    (scaled? x power).isSome ↔
      power < 0 ∨
        if power ≤ topPower then (x * tenPower power.natAbs).isInf = false
        else (x == 0.0) = true := by
  fun_induction scaled? x power <;> simp only [topPower] at * <;> grind

theorem Numeral.number?_isSome_iff (n : Numeral) : n.number?.isSome ↔ n.IsInRange := by
  rw [number?, IsInRange, Decimal.IsWithinFloats, ← Decimal.scaled?_isSome_iff]
  cases n.word? <;> simp [Decimal.toFloat?]

mutual

/-- A tree means a value exactly when everything in it does and a reader follows it down. -/
theorem Tree.value?_isSome_iff {depth : Nat} (h : 0 < depth) :
    ∀ t : Tree, (t.value? depth).isSome ↔ t.IsSound ∧ t.depth < depth
  | .null | .boolean _ => by simpa [Tree.value?, Tree.IsSound, Tree.depth] using h
  | .number n => by simp [Tree.value?, Tree.IsSound, Tree.depth, n.number?_isSome_iff, h]
  | .string ps => by simp [Tree.value?, Tree.IsSound, Tree.depth, IsPaired, h]
  | .array items => by
    match depth with
    -- On the last level there is no room for a list, not even for an empty one.
    | 1 => simp [Tree.value?, Tree.depth]
    | inner + 2 =>
      simpa [Tree.value?, Tree.IsSound, Tree.depth] using
        Items.values?_isSome_iff (Nat.succ_pos inner) items
  | .object members => by
    match depth with
    | 1 => simp [Tree.value?, Tree.depth]
    | inner + 2 =>
      simpa [Tree.value?, Tree.IsSound, Tree.depth] using
        Members.values?_isSome_iff (Nat.succ_pos inner) members

theorem Items.values?_isSome_iff {depth : Nat} (h : 0 < depth) :
    ∀ items : Items, (items.values? depth).isSome ↔ items.IsSound ∧ items.depth < depth
  | .close _ => by simpa [Items.values?, Items.IsSound, Items.depth] using h
  | .item before tree after others => by
    have hboth : ((Items.item before tree after others).values? depth).isSome ↔
        (tree.value? depth).isSome ∧ (others.values? depth).isSome := by
      rw [Items.values?]
      cases tree.value? depth <;> cases others.values? depth <;> simp
    rw [hboth, Tree.value?_isSome_iff h tree, Items.values?_isSome_iff h others, Items.IsSound,
      Items.depth, Nat.max_lt, and_and_and_comm]

theorem Members.values?_isSome_iff {depth : Nat} (h : 0 < depth) :
    ∀ members : Members, (members.values? depth).isSome ↔ members.IsSound ∧ members.depth < depth
  | .close _ => by simpa [Members.values?, Members.IsSound, Members.depth] using h
  | .member before key beforeColon afterColon tree after others => by
    have hall : ((Members.member before key beforeColon afterColon tree after others).values?
        depth).isSome ↔
          IsPaired key ∧ (tree.value? depth).isSome ∧ (others.values? depth).isSome := by
      rw [Members.values?, IsPaired]
      cases text? key <;> cases tree.value? depth <;> cases others.values? depth <;> simp
    rw [hall, Tree.value?_isSome_iff h tree, Members.values?_isSome_iff h others, Members.IsSound,
      Members.depth, Nat.max_lt, and_and_and_comm, and_assoc, and_assoc, and_assoc]

end

end TrafficMap.Json
