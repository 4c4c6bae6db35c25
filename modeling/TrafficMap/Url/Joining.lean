import TrafficMap.Text.Canonical
import TrafficMap.Text.Category

/-!
# Joining of Letters

Letters of some scripts change their shape where they join their neighbours. Two joiners without
width ask for a joined or a separate shape. A name may hold them only where they make a difference:
behind a sign that kills a vowel, and, for the one that separates, between two letters that would
join otherwise.
-/

namespace TrafficMap.Url

open Text (category markClass valueAt)

/-- On which sides a letter joins its neighbours, in the order of reading. -/
inductive Joining where
  | none
  /-- It joins the letter before it. -/
  | before
  /-- It joins the letter after it. -/
  | after
  | both
deriving Repr, BEq, DecidableEq

/-! ## Characters -/

/-- Where the joining of the characters of names changes, marks apart. -/
def joiningChanges : List (Nat × Joining) :=
  [(0x620, .both), (0x621, .none), (0x622, .before), (0x626, .both), (0x627, .before),
   (0x628, .both), (0x629, .before), (0x62a, .both), (0x62f, .before), (0x633, .both),
   (0x640, .none), (0x641, .both), (0x648, .before), (0x649, .both), (0x660, .none), (0x66e, .both),
   (0x671, .before), (0x674, .none), (0x679, .both), (0x688, .before), (0x69a, .both),
   (0x6c0, .before), (0x6c1, .both), (0x6c3, .before), (0x6cc, .both), (0x6cd, .before),
   (0x6ce, .both), (0x6cf, .before), (0x6d0, .both), (0x6d2, .before), (0x6d4, .none),
   (0x6d5, .before), (0x6de, .none), (0x6ee, .before), (0x6f0, .none), (0x6fa, .both),
   (0x6fd, .none), (0x6ff, .both), (0x700, .none), (0x710, .before), (0x712, .both),
   (0x715, .before), (0x71a, .both), (0x71e, .before), (0x71f, .both), (0x728, .before),
   (0x729, .both), (0x72a, .before), (0x72b, .both), (0x72c, .before), (0x72d, .both),
   (0x72f, .before), (0x74e, .both), (0x759, .before), (0x75c, .both), (0x76b, .before),
   (0x76d, .both), (0x771, .before), (0x772, .both), (0x773, .before), (0x775, .both),
   (0x778, .before), (0x77a, .both), (0x780, .none), (0x7ca, .both), (0x7f4, .none),
   (0x840, .before), (0x841, .both), (0x846, .before), (0x848, .both), (0x849, .before),
   (0x84a, .both), (0x854, .before), (0x855, .both), (0x856, .before), (0x85e, .none),
   (0x860, .both), (0x861, .none), (0x862, .both), (0x866, .none), (0x867, .before), (0x868, .both),
   (0x869, .before), (0x883, .none), (0x886, .both), (0x887, .none), (0x889, .both),
   (0x88e, .before), (0x88f, .both), (0x8aa, .before), (0x8ad, .none), (0x8ae, .before),
   (0x8af, .both), (0x8b1, .before), (0x8b3, .both), (0x8b9, .before), (0x8ba, .both),
   (0x8c9, .none), (0x1807, .both), (0x1808, .none), (0x1820, .both), (0x1880, .none),
   (0x1887, .both), (0x18b0, .none), (0xa840, .both), (0xa872, .after), (0xa873, .none),
   (0x10ac0, .both), (0x10ac5, .before), (0x10ac6, .none), (0x10ac7, .before), (0x10ac8, .none),
   (0x10ac9, .before), (0x10acb, .none), (0x10acd, .after), (0x10ace, .before), (0x10ad3, .both),
   (0x10ad7, .after), (0x10ad8, .both), (0x10add, .before), (0x10ade, .both), (0x10ae1, .before),
   (0x10ae2, .none), (0x10ae4, .before), (0x10aeb, .both), (0x10aef, .before), (0x10af0, .none),
   (0x10b80, .both), (0x10b81, .before), (0x10b82, .both), (0x10b83, .before), (0x10b86, .both),
   (0x10b89, .before), (0x10b8a, .both), (0x10b8c, .before), (0x10b8d, .both), (0x10b8e, .before),
   (0x10b90, .both), (0x10b91, .before), (0x10b99, .none), (0x10ba9, .before), (0x10bad, .both),
   (0x10baf, .none), (0x10d00, .after), (0x10d01, .both), (0x10d22, .before), (0x10d23, .both),
   (0x10d30, .none), (0x10ec2, .before), (0x10ec3, .both), (0x10ec5, .none), (0x10ec6, .both),
   (0x10ed0, .none), (0x10f30, .both), (0x10f33, .before), (0x10f34, .both), (0x10f45, .none),
   (0x10f51, .both), (0x10f54, .before), (0x10f55, .none), (0x10f70, .both), (0x10f74, .before),
   (0x10f76, .both), (0x10f86, .none), (0x10fb0, .both), (0x10fb1, .none), (0x10fb2, .both),
   (0x10fb4, .before), (0x10fb7, .none), (0x10fb8, .both), (0x10fb9, .before), (0x10fbb, .both),
   (0x10fbd, .before), (0x10fbe, .both), (0x10fc0, .none), (0x10fc1, .both), (0x10fc2, .before),
   (0x10fc4, .both), (0x10fc5, .none), (0x10fc9, .before), (0x10fca, .both), (0x10fcb, .after),
   (0x10fe0, .none), (0x1e922, .both), (0x1e950, .none)]

def joining (c : Char) : Joining := valueAt .none joiningChanges c.toNat

/-- The letters on both sides join across the character. -/
def isTransparent (c : Char) : Bool :=
  category c == .mark || category c == .enclosingMark || c.toNat == 0x1e94b

/-- The sign takes the vowel from the consonant before it. -/
def killsVowel (c : Char) : Bool := markClass c == 9

/-! ## Joiners -/

/-- The first character that is not transparent joins to the side. -/
def reaches (side : Joining) (cs : List Char) : Bool :=
  match cs.dropWhile isTransparent with
  | [] => false
  | c :: _ => joining c == side || joining c == .both

/-- The joiners in a text are in place; `before` are the characters before it, the last one
first. -/
def joinersFit (before : List Char) : List Char → Bool
  | [] => true
  | c :: cs =>
    let fits :=
      if c == '\u200D' then before.head?.any killsVowel
      else if c == '\u200C' then
        before.head?.any killsVowel || (reaches .after before && reaches .before cs)
      else true
    fits && joinersFit (c :: before) cs

end TrafficMap.Url
