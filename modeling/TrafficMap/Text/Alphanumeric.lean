import TrafficMap.Text.Category

/-!
# Alphabetic Characters

The characters that count as parts of words in an alphabet: letters, marks for vowels, and signs
made of letters.
-/

namespace TrafficMap.Text

/-- The alphabetic characters among the marks and signs. -/
def alphabeticMarks : Runs :=
  [(0x345, 0x345), (0x363, 0x36f), (0x5b0, 0x5bd), (0x5bf, 0x5bf), (0x5c1, 0x5c2), (0x5c4, 0x5c5),
   (0x5c7, 0x5c7), (0x610, 0x61a), (0x64b, 0x657), (0x659, 0x65f), (0x670, 0x670), (0x6d6, 0x6dc),
   (0x6e1, 0x6e8), (0x6ed, 0x6ed), (0x711, 0x73f), (0x7a6, 0x7b0), (0x816, 0x817), (0x81b, 0x82c),
   (0x897, 0x897), (0x8d4, 0x8df), (0x8e3, 0x8e9), (0x8f0, 0x93b), (0x93e, 0x94c), (0x94e, 0x94f),
   (0x955, 0x963), (0x981, 0x983), (0x9be, 0x9cc), (0x9d7, 0x9e3), (0xa01, 0xa03), (0xa3e, 0xa4c),
   (0xa51, 0xa75), (0xa81, 0xa83), (0xabe, 0xacc), (0xae2, 0xae3), (0xafa, 0xafc), (0xb01, 0xb03),
   (0xb3e, 0xb4c), (0xb56, 0xb63), (0xb82, 0xbcc), (0xbd7, 0xbd7), (0xc00, 0xc04), (0xc3e, 0xc4c),
   (0xc55, 0xc63), (0xc81, 0xc83), (0xcbe, 0xccc), (0xcd5, 0xd03), (0xd3e, 0xd4c), (0xd57, 0xd63),
   (0xd81, 0xd83), (0xdcf, 0xdf3), (0xe31, 0xe3a), (0xe4d, 0xe4d), (0xeb1, 0xeb9), (0xebb, 0xebc),
   (0xecd, 0xecd), (0xf71, 0xf83), (0xf8d, 0xfbc), (0x102b, 0x1036), (0x1038, 0x1038),
   (0x103b, 0x103e), (0x1056, 0x109d), (0x1712, 0x1713), (0x1732, 0x1733), (0x1752, 0x1773),
   (0x17b6, 0x17c8), (0x1885, 0x1938), (0x1a17, 0x1a1b), (0x1a55, 0x1a5e), (0x1a61, 0x1a74),
   (0x1abf, 0x1ac0), (0x1acc, 0x1ace), (0x1b00, 0x1b04), (0x1b35, 0x1b43), (0x1b80, 0x1ba9),
   (0x1bac, 0x1bad), (0x1be7, 0x1bf1), (0x1c24, 0x1c36), (0x1dd3, 0x1df4), (0x24b6, 0x24e9),
   (0x2de0, 0x2dff), (0xa674, 0xa67b), (0xa69e, 0xa69f), (0xa802, 0xa802), (0xa80b, 0xa827),
   (0xa880, 0xa8c3), (0xa8c5, 0xa8c5), (0xa8ff, 0xa92a), (0xa947, 0xa952), (0xa980, 0xa983),
   (0xa9b4, 0xa9bf), (0xa9e5, 0xaa4d), (0xaa7b, 0xaabe), (0xaaeb, 0xaaef), (0xaaf5, 0xaaf5),
   (0xabe3, 0xabea), (0xfb1e, 0xfb1e), (0x10376, 0x1037a), (0x10a01, 0x10a0f), (0x10d24, 0x10d69),
   (0x10eab, 0x10eac), (0x10efa, 0x10efc), (0x11000, 0x11045), (0x11073, 0x11074),
   (0x11080, 0x110b8), (0x110c2, 0x11132), (0x11145, 0x11146), (0x11180, 0x111bf),
   (0x111ce, 0x111cf), (0x1122c, 0x11234), (0x11237, 0x11237), (0x1123e, 0x11241),
   (0x112df, 0x112e8), (0x11300, 0x11303), (0x1133e, 0x1134c), (0x11357, 0x11363),
   (0x113b8, 0x113cd), (0x11435, 0x11441), (0x11443, 0x11445), (0x114b0, 0x114c1),
   (0x115af, 0x115be), (0x115dc, 0x1163e), (0x11640, 0x11640), (0x116ab, 0x116b5),
   (0x1171d, 0x1172a), (0x1182c, 0x11838), (0x11930, 0x1193c), (0x11940, 0x11942),
   (0x119d1, 0x119df), (0x119e4, 0x11a0a), (0x11a35, 0x11a3e), (0x11a51, 0x11a97),
   (0x11b60, 0x11b67), (0x11c2f, 0x11c3e), (0x11c92, 0x11d41), (0x11d43, 0x11d43),
   (0x11d47, 0x11d96), (0x11ef3, 0x11ef6), (0x11f00, 0x11f40), (0x1611e, 0x1612e),
   (0x16f4f, 0x16f92), (0x16ff0, 0x16ff1), (0x1bc9e, 0x1bc9e), (0x1e000, 0x1e08f),
   (0x1e6e3, 0x1e6f5), (0x1e947, 0x1e947), (0x1f130, 0x1f149), (0x1f150, 0x1f169),
   (0x1f170, 0x1f189)]

def isAlphabetic (c : Char) : Bool :=
  match category c with
  | .letter => true
  | .mark | .spacingMark | .symbol => alphabeticMarks.has c
  | _ => false

/-- The character is alphabetic or part of a number. -/
def isAlphanumeric (c : Char) : Bool :=
  category c == .digit || category c == .number || isAlphabetic c

end TrafficMap.Text
