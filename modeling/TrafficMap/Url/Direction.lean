import TrafficMap.Text.Category

/-!
# Writing Directions

From where to where the characters of a name are written, and which labels have one clear direction.
Names with characters that are written from the right must not be misleading: each of their labels
is written in one direction, begins with a letter, and ends with a letter or a number.
-/

namespace TrafficMap.Url

open Text (Runs category valueAt)

/-- How a character takes part in the direction of a label. -/
inductive Direction where
  /-- A letter that is written from the left. -/
  | left
  /-- A letter that is written from the right. -/
  | right
  | arabicNumber
  | europeanNumber
  /-- A sign that follows its surroundings. -/
  | neutral
  /-- A mark, which belongs to the character before it. -/
  | mark
deriving Repr, BEq, DecidableEq

/-! ## Characters -/

/-- Marks that take part as letters do. -/
def leftMarks : Runs :=
  [(0xcbf, 0xcbf), (0xcc6, 0xcc6), (0x11a07, 0x11a08), (0x11c3f, 0x11c3f)]

/-- Where the direction of the characters of names changes, marks apart. -/
def directionChanges : List (Nat × Direction) :=
  [(0x21, .neutral), (0x30, .europeanNumber), (0x3b, .neutral), (0x61, .left), (0x7b, .neutral),
   (0xdf, .left), (0xf7, .neutral), (0xf8, .left), (0x2b9, .neutral), (0x2bb, .left),
   (0x2c2, .neutral), (0x2d0, .left), (0x2d2, .neutral), (0x2ee, .left), (0x2ef, .neutral),
   (0x371, .left), (0x375, .neutral), (0x377, .left), (0x3f6, .neutral), (0x3f8, .left),
   (0x58a, .neutral), (0x5be, .right), (0x606, .neutral), (0x608, .right), (0x609, .neutral),
   (0x60b, .right), (0x60c, .neutral), (0x60d, .right), (0x60e, .neutral), (0x61b, .right),
   (0x660, .arabicNumber), (0x66a, .neutral), (0x66b, .arabicNumber), (0x66d, .right),
   (0x6de, .neutral), (0x6e5, .right), (0x6e9, .neutral), (0x6ee, .right), (0x6f0, .europeanNumber),
   (0x6fa, .right), (0x7f6, .neutral), (0x7fa, .right), (0x903, .left), (0x9f2, .neutral),
   (0x9f4, .left), (0x9fb, .neutral), (0x9fc, .left), (0xaf1, .neutral), (0xaf9, .left),
   (0xbf3, .neutral), (0xc01, .left), (0xc78, .neutral), (0xc7f, .left), (0xe3f, .neutral),
   (0xe40, .left), (0xf3a, .neutral), (0xf3e, .left), (0x1390, .neutral), (0x13a0, .left),
   (0x1400, .neutral), (0x1401, .left), (0x169b, .neutral), (0x16a0, .left), (0x17db, .neutral),
   (0x17dc, .left), (0x17f0, .neutral), (0x1810, .left), (0x1940, .neutral), (0x1946, .left),
   (0x19de, .neutral), (0x1a00, .left), (0x200c, .neutral), (0x214e, .left), (0x218a, .neutral),
   (0x2336, .left), (0x237b, .neutral), (0x2395, .left), (0x2396, .neutral), (0x26ac, .left),
   (0x26ad, .neutral), (0x2800, .left), (0x2900, .neutral), (0x2c30, .left), (0x2ce5, .neutral),
   (0x2cec, .left), (0x2cf9, .neutral), (0x2d00, .left), (0x2e00, .neutral), (0x3005, .left),
   (0x3008, .neutral), (0x3021, .left), (0x3030, .neutral), (0x3031, .left), (0x3037, .neutral),
   (0x303b, .left), (0x303d, .neutral), (0x3041, .left), (0x30a0, .neutral), (0x30a1, .left),
   (0x30fb, .neutral), (0x30fc, .left), (0x31c0, .neutral), (0x31f0, .left), (0x4dc0, .neutral),
   (0x4e00, .left), (0xa490, .neutral), (0xa4d0, .left), (0xa60d, .neutral), (0xa610, .left),
   (0xa673, .neutral), (0xa681, .left), (0xa700, .neutral), (0xa723, .left), (0xa788, .neutral),
   (0xa789, .left), (0xa828, .neutral), (0xa830, .left), (0xa838, .neutral), (0xa840, .left),
   (0xa874, .neutral), (0xa880, .left), (0xab6a, .neutral), (0xabc0, .left), (0xfbb2, .right),
   (0xfbc3, .neutral), (0xfe73, .right), (0xfffd, .neutral), (0x10000, .left), (0x10101, .neutral),
   (0x10102, .left), (0x10140, .neutral), (0x1018d, .left), (0x10190, .neutral), (0x101d0, .left),
   (0x102e1, .europeanNumber), (0x10300, .left), (0x10800, .right), (0x1091f, .neutral),
   (0x10920, .right), (0x10b39, .neutral), (0x10b40, .right), (0x10d30, .arabicNumber),
   (0x10d4a, .right), (0x10d6e, .neutral), (0x10d6f, .right), (0x10e60, .arabicNumber),
   (0x10e80, .right), (0x10ed0, .neutral), (0x10f00, .right), (0x11000, .left), (0x11052, .neutral),
   (0x11066, .left), (0x11660, .neutral), (0x11680, .left), (0x11fd5, .neutral), (0x11fff, .left),
   (0x16fe2, .neutral), (0x16fe3, .left), (0x1cc00, .neutral), (0x1cf50, .left),
   (0x1d1e9, .neutral), (0x1d2c0, .left), (0x1d300, .neutral), (0x1d360, .left),
   (0x1e2ff, .neutral), (0x1e4d0, .left), (0x1e800, .right), (0x1eef0, .neutral), (0x1f150, .left),
   (0x1f16d, .neutral), (0x1f170, .left), (0x1f1ad, .neutral), (0x1f1e6, .left),
   (0x1f260, .neutral), (0x20000, .left)]

/-- The direction of a character of a name. -/
def direction (c : Char) : Direction :=
  if c.toNat < 0x80 then valueAt .left directionChanges c.toNat
  else
    match category c with
    | .mark | .enclosingMark =>
      if leftMarks.has c then .left else .mark
    | _ => valueAt .left directionChanges c.toNat

/-! ## Labels -/

/-- The character is written from the right, or makes other characters be. -/
def isRightward (c : Char) : Bool :=
  match direction c with
  | .right | .arabicNumber => true
  | _ => false

/-- The directions of a label, without the marks at its end. -/
def directionsOf (label : List Char) : List Direction :=
  ((label.map direction).reverse.dropWhile (· == .mark)).reverse

/-- The characters of a label that begins with `first` agree on a direction. -/
def agree (first : Direction) (all : List Direction) : Bool :=
  match first with
  | .left =>
    -- Only numbers in European digits stand among letters that are written from the left.
    all.all (fun d => d != .right && d != .arabicNumber) &&
      (all.getLast? == some .left || all.getLast? == some .europeanNumber)
  | .right =>
    all.all (· != .left) && all.getLast? != some .neutral &&
      -- The two kinds of numbers are not mixed.
      !(all.contains .europeanNumber && all.contains .arabicNumber)
  | _ => false

/-- A label, unless it is empty, has one clear direction. -/
def isDirected (label : List Char) : Bool :=
  match label with
  | [] => true
  | c :: _ => agree (direction c) (directionsOf label)

/-- The labels of a name have clear directions, if any character is written from the right. -/
def areDirected (labels : List (List Char)) : Bool :=
  !labels.any (·.any isRightward) || labels.all isDirected

end TrafficMap.Url
