import Columnar.Unicode.Spelling

/-!
Canonical decompositions: characters that mean the same as several others in a row.

Most of them are made again when the parts meet. Others only have their decomposition: they stand
for the same character as a single other one, or are kept apart from composition by the standard.
Both tables hold decompositions in full, so that no part can be decomposed any further. Syllables of
Hangul follow a rule and are in neither table.
-/

namespace Columnar.Unicode

/-- The characters that are made again when their parts meet. -/
def composites : Spelling where
  words :=
    [(0xC0, ["A\u0300", "A\u0301", "A\u0302", "A\u0303", "A\u0308", "A\u030a"]),
     (0xC7, ["C\u0327", "E\u0300", "E\u0301", "E\u0302", "E\u0308", "I\u0300", "I\u0301"]),
     (0xCE, ["I\u0302", "I\u0308"]),
     (0xD1, ["N\u0303", "O\u0300", "O\u0301", "O\u0302", "O\u0303", "O\u0308"]),
     (0xD9, ["U\u0300", "U\u0301", "U\u0302", "U\u0308", "Y\u0301"]),
     (0xE0, ["a\u0300", "a\u0301", "a\u0302", "a\u0303", "a\u0308", "a\u030a"]),
     (0xE7, ["c\u0327", "e\u0300", "e\u0301", "e\u0302", "e\u0308", "i\u0300", "i\u0301"]),
     (0xEE, ["i\u0302", "i\u0308"]),
     (0xF1, ["n\u0303", "o\u0300", "o\u0301", "o\u0302", "o\u0303", "o\u0308"]),
     (0xF9, ["u\u0300", "u\u0301", "u\u0302", "u\u0308", "y\u0301"]),
     (0xFF, ["y\u0308", "A\u0304", "a\u0304", "A\u0306", "a\u0306", "A\u0328", "a\u0328"]),
     (0x106, ["C\u0301", "c\u0301", "C\u0302", "c\u0302", "C\u0307", "c\u0307", "C\u030c"]),
     (0x10D, ["c\u030c", "D\u030c", "d\u030c"]),
     (0x112, ["E\u0304", "e\u0304", "E\u0306", "e\u0306", "E\u0307", "e\u0307", "E\u0328"]),
     (0x119, ["e\u0328", "E\u030c", "e\u030c", "G\u0302", "g\u0302", "G\u0306", "g\u0306"]),
     (0x120, ["G\u0307", "g\u0307", "G\u0327", "g\u0327", "H\u0302", "h\u0302"]),
     (0x128, ["I\u0303", "i\u0303", "I\u0304", "i\u0304", "I\u0306", "i\u0306", "I\u0328"]),
     (0x12F, ["i\u0328", "I\u0307"]), (0x134, ["J\u0302", "j\u0302", "K\u0327", "k\u0327"]),
     (0x139, ["L\u0301", "l\u0301", "L\u0327", "l\u0327", "L\u030c", "l\u030c"]),
     (0x143, ["N\u0301", "n\u0301", "N\u0327", "n\u0327", "N\u030c", "n\u030c"]),
     (0x14C, ["O\u0304", "o\u0304", "O\u0306", "o\u0306", "O\u030b", "o\u030b"]),
     (0x154, ["R\u0301", "r\u0301", "R\u0327", "r\u0327", "R\u030c", "r\u030c", "S\u0301"]),
     (0x15B, ["s\u0301", "S\u0302", "s\u0302", "S\u0327", "s\u0327", "S\u030c", "s\u030c"]),
     (0x162, ["T\u0327", "t\u0327", "T\u030c", "t\u030c"]),
     (0x168, ["U\u0303", "u\u0303", "U\u0304", "u\u0304", "U\u0306", "u\u0306", "U\u030a"]),
     (0x16F, ["u\u030a", "U\u030b", "u\u030b", "U\u0328", "u\u0328", "W\u0302", "w\u0302"]),
     (0x176, ["Y\u0302", "y\u0302", "Y\u0308", "Z\u0301", "z\u0301", "Z\u0307", "z\u0307"]),
     (0x17D, ["Z\u030c", "z\u030c"]), (0x1A0, ["O\u031b", "o\u031b"]),
     (0x1AF, ["U\u031b", "u\u031b"]),
     (0x1CD, ["A\u030c", "a\u030c", "I\u030c", "i\u030c", "O\u030c", "o\u030c", "U\u030c"]),
     (0x1D4, ["u\u030c", "U\u0308\u0304", "u\u0308\u0304", "U\u0308\u0301"]),
     (0x1D8, ["u\u0308\u0301", "U\u0308\u030c", "u\u0308\u030c", "U\u0308\u0300"]),
     (0x1DC, ["u\u0308\u0300"]),
     (0x1DE, ["A\u0308\u0304", "a\u0308\u0304", "A\u0307\u0304", "a\u0307\u0304"]),
     (0x1E2, ["Æ\u0304", "æ\u0304"]),
     (0x1E6, ["G\u030c", "g\u030c", "K\u030c", "k\u030c", "O\u0328", "o\u0328"]),
     (0x1EC, ["O\u0328\u0304", "o\u0328\u0304", "Ʒ\u030c", "ʒ\u030c", "j\u030c"]),
     (0x1F4, ["G\u0301", "g\u0301"]),
     (0x1F8, ["N\u0300", "n\u0300", "A\u030a\u0301", "a\u030a\u0301", "Æ\u0301"]),
     (0x1FD, ["æ\u0301", "Ø\u0301", "ø\u0301", "A\u030f", "a\u030f", "A\u0311", "a\u0311"]),
     (0x204, ["E\u030f", "e\u030f", "E\u0311", "e\u0311", "I\u030f", "i\u030f", "I\u0311"]),
     (0x20B, ["i\u0311", "O\u030f", "o\u030f", "O\u0311", "o\u0311", "R\u030f", "r\u030f"]),
     (0x212, ["R\u0311", "r\u0311", "U\u030f", "u\u030f", "U\u0311", "u\u0311", "S\u0326"]),
     (0x219, ["s\u0326", "T\u0326", "t\u0326"]), (0x21E, ["H\u030c", "h\u030c"]),
     (0x226, ["A\u0307", "a\u0307", "E\u0327", "e\u0327", "O\u0308\u0304"]),
     (0x22B, ["o\u0308\u0304", "O\u0303\u0304", "o\u0303\u0304", "O\u0307", "o\u0307"]),
     (0x230, ["O\u0307\u0304", "o\u0307\u0304", "Y\u0304", "y\u0304"]),
     (0x385, ["¨\u0301", "Α\u0301"]), (0x388, ["Ε\u0301", "Η\u0301", "Ι\u0301"]),
     (0x38C, ["Ο\u0301"]), (0x38E, ["Υ\u0301", "Ω\u0301", "ι\u0308\u0301"]),
     (0x3AA, ["Ι\u0308", "Υ\u0308", "α\u0301", "ε\u0301", "η\u0301", "ι\u0301"]),
     (0x3B0, ["υ\u0308\u0301"]), (0x3CA, ["ι\u0308", "υ\u0308", "ο\u0301", "υ\u0301", "ω\u0301"]),
     (0x3D3, ["ϒ\u0301", "ϒ\u0308"]), (0x400, ["Е\u0300", "Е\u0308"]), (0x403, ["Г\u0301"]),
     (0x407, ["І\u0308"]), (0x40C, ["К\u0301", "И\u0300", "У\u0306"]), (0x419, ["И\u0306"]),
     (0x439, ["и\u0306"]), (0x450, ["е\u0300", "е\u0308"]), (0x453, ["г\u0301"]),
     (0x457, ["і\u0308"]), (0x45C, ["к\u0301", "и\u0300", "у\u0306"]),
     (0x476, ["Ѵ\u030f", "ѵ\u030f"]), (0x4C1, ["Ж\u0306", "ж\u0306"]),
     (0x4D0, ["А\u0306", "а\u0306", "А\u0308", "а\u0308"]), (0x4D6, ["Е\u0306", "е\u0306"]),
     (0x4DA, ["Ә\u0308", "ә\u0308", "Ж\u0308", "ж\u0308", "З\u0308", "з\u0308"]),
     (0x4E2, ["И\u0304", "и\u0304", "И\u0308", "и\u0308", "О\u0308", "о\u0308"]),
     (0x4EA, ["Ө\u0308", "ө\u0308", "Э\u0308", "э\u0308", "У\u0304", "у\u0304", "У\u0308"]),
     (0x4F1, ["у\u0308", "У\u030b", "у\u030b", "Ч\u0308", "ч\u0308"]),
     (0x4F8, ["Ы\u0308", "ы\u0308"]),
     (0x622, ["\u0627\u0653", "\u0627\u0654", "\u0648\u0654", "\u0627\u0655"]),
     (0x626, ["\u064a\u0654"]), (0x6C0, ["\u06d5\u0654"]), (0x6C2, ["\u06c1\u0654"]),
     (0x6D3, ["\u06d2\u0654"]), (0x929, ["न\u093c"]), (0x931, ["र\u093c"]), (0x934, ["ळ\u093c"]),
     (0x9CB, ["\u09c7\u09be", "\u09c7\u09d7"]), (0xB48, ["\u0b47\u0b56"]),
     (0xB4B, ["\u0b47\u0b3e", "\u0b47\u0b57"]), (0xB94, ["ஒ\u0bd7"]),
     (0xBCA, ["\u0bc6\u0bbe", "\u0bc7\u0bbe", "\u0bc6\u0bd7"]), (0xC48, ["\u0c46\u0c56"]),
     (0xCC0, ["\u0cbf\u0cd5"]), (0xCC7, ["\u0cc6\u0cd5", "\u0cc6\u0cd6"]),
     (0xCCA, ["\u0cc6\u0cc2", "\u0cc6\u0cc2\u0cd5"]),
     (0xD4A, ["\u0d46\u0d3e", "\u0d47\u0d3e", "\u0d46\u0d57"]), (0xDDA, ["\u0dd9\u0dca"]),
     (0xDDC, ["\u0dd9\u0dcf", "\u0dd9\u0dcf\u0dca", "\u0dd9\u0ddf"]), (0x1026, ["ဥ\u102e"]),
     (0x1B06, ["ᬅ\u1b35"]), (0x1B08, ["ᬇ\u1b35"]), (0x1B0A, ["ᬉ\u1b35"]), (0x1B0C, ["ᬋ\u1b35"]),
     (0x1B0E, ["ᬍ\u1b35"]), (0x1B12, ["ᬑ\u1b35"]), (0x1B3B, ["\u1b3a\u1b35"]),
     (0x1B3D, ["\u1b3c\u1b35"]), (0x1B40, ["\u1b3e\u1b35", "\u1b3f\u1b35"]),
     (0x1B43, ["\u1b42\u1b35"]),
     (0x1E00, ["A\u0325", "a\u0325", "B\u0307", "b\u0307", "B\u0323", "b\u0323", "B\u0331"]),
     (0x1E07, ["b\u0331", "C\u0327\u0301", "c\u0327\u0301", "D\u0307", "d\u0307"]),
     (0x1E0C, ["D\u0323", "d\u0323", "D\u0331", "d\u0331", "D\u0327", "d\u0327", "D\u032d"]),
     (0x1E13, ["d\u032d", "E\u0304\u0300", "e\u0304\u0300", "E\u0304\u0301"]),
     (0x1E17, ["e\u0304\u0301", "E\u032d", "e\u032d", "E\u0330", "e\u0330"]),
     (0x1E1C, ["E\u0327\u0306", "e\u0327\u0306", "F\u0307", "f\u0307", "G\u0304"]),
     (0x1E21, ["g\u0304", "H\u0307", "h\u0307", "H\u0323", "h\u0323", "H\u0308", "h\u0308"]),
     (0x1E28, ["H\u0327", "h\u0327", "H\u032e", "h\u032e", "I\u0330", "i\u0330"]),
     (0x1E2E, ["I\u0308\u0301", "i\u0308\u0301", "K\u0301", "k\u0301", "K\u0323"]),
     (0x1E33, ["k\u0323", "K\u0331", "k\u0331", "L\u0323", "l\u0323", "L\u0323\u0304"]),
     (0x1E39, ["l\u0323\u0304", "L\u0331", "l\u0331", "L\u032d", "l\u032d", "M\u0301"]),
     (0x1E3F, ["m\u0301", "M\u0307", "m\u0307", "M\u0323", "m\u0323", "N\u0307", "n\u0307"]),
     (0x1E46, ["N\u0323", "n\u0323", "N\u0331", "n\u0331", "N\u032d", "n\u032d"]),
     (0x1E4C, ["O\u0303\u0301", "o\u0303\u0301", "O\u0303\u0308", "o\u0303\u0308"]),
     (0x1E50, ["O\u0304\u0300", "o\u0304\u0300", "O\u0304\u0301", "o\u0304\u0301"]),
     (0x1E54, ["P\u0301", "p\u0301", "P\u0307", "p\u0307", "R\u0307", "r\u0307", "R\u0323"]),
     (0x1E5B, ["r\u0323", "R\u0323\u0304", "r\u0323\u0304", "R\u0331", "r\u0331"]),
     (0x1E60, ["S\u0307", "s\u0307", "S\u0323", "s\u0323", "S\u0301\u0307"]),
     (0x1E65, ["s\u0301\u0307", "S\u030c\u0307", "s\u030c\u0307", "S\u0323\u0307"]),
     (0x1E69, ["s\u0323\u0307", "T\u0307", "t\u0307", "T\u0323", "t\u0323", "T\u0331"]),
     (0x1E6F, ["t\u0331", "T\u032d", "t\u032d", "U\u0324", "u\u0324", "U\u0330", "u\u0330"]),
     (0x1E76, ["U\u032d", "u\u032d", "U\u0303\u0301", "u\u0303\u0301", "U\u0304\u0308"]),
     (0x1E7B, ["u\u0304\u0308", "V\u0303", "v\u0303", "V\u0323", "v\u0323", "W\u0300"]),
     (0x1E81, ["w\u0300", "W\u0301", "w\u0301", "W\u0308", "w\u0308", "W\u0307", "w\u0307"]),
     (0x1E88, ["W\u0323", "w\u0323", "X\u0307", "x\u0307", "X\u0308", "x\u0308", "Y\u0307"]),
     (0x1E8F, ["y\u0307", "Z\u0302", "z\u0302", "Z\u0323", "z\u0323", "Z\u0331", "z\u0331"]),
     (0x1E96, ["h\u0331", "t\u0308", "w\u030a", "y\u030a"]), (0x1E9B, ["ſ\u0307"]),
     (0x1EA0, ["A\u0323", "a\u0323", "A\u0309", "a\u0309", "A\u0302\u0301"]),
     (0x1EA5, ["a\u0302\u0301", "A\u0302\u0300", "a\u0302\u0300", "A\u0302\u0309"]),
     (0x1EA9, ["a\u0302\u0309", "A\u0302\u0303", "a\u0302\u0303", "A\u0323\u0302"]),
     (0x1EAD, ["a\u0323\u0302", "A\u0306\u0301", "a\u0306\u0301", "A\u0306\u0300"]),
     (0x1EB1, ["a\u0306\u0300", "A\u0306\u0309", "a\u0306\u0309", "A\u0306\u0303"]),
     (0x1EB5, ["a\u0306\u0303", "A\u0323\u0306", "a\u0323\u0306", "E\u0323", "e\u0323"]),
     (0x1EBA, ["E\u0309", "e\u0309", "E\u0303", "e\u0303", "E\u0302\u0301"]),
     (0x1EBF, ["e\u0302\u0301", "E\u0302\u0300", "e\u0302\u0300", "E\u0302\u0309"]),
     (0x1EC3, ["e\u0302\u0309", "E\u0302\u0303", "e\u0302\u0303", "E\u0323\u0302"]),
     (0x1EC7, ["e\u0323\u0302", "I\u0309", "i\u0309", "I\u0323", "i\u0323", "O\u0323"]),
     (0x1ECD, ["o\u0323", "O\u0309", "o\u0309", "O\u0302\u0301", "o\u0302\u0301"]),
     (0x1ED2, ["O\u0302\u0300", "o\u0302\u0300", "O\u0302\u0309", "o\u0302\u0309"]),
     (0x1ED6, ["O\u0302\u0303", "o\u0302\u0303", "O\u0323\u0302", "o\u0323\u0302"]),
     (0x1EDA, ["O\u031b\u0301", "o\u031b\u0301", "O\u031b\u0300", "o\u031b\u0300"]),
     (0x1EDE, ["O\u031b\u0309", "o\u031b\u0309", "O\u031b\u0303", "o\u031b\u0303"]),
     (0x1EE2, ["O\u031b\u0323", "o\u031b\u0323", "U\u0323", "u\u0323", "U\u0309"]),
     (0x1EE7, ["u\u0309", "U\u031b\u0301", "u\u031b\u0301", "U\u031b\u0300"]),
     (0x1EEB, ["u\u031b\u0300", "U\u031b\u0309", "u\u031b\u0309", "U\u031b\u0303"]),
     (0x1EEF, ["u\u031b\u0303", "U\u031b\u0323", "u\u031b\u0323", "Y\u0300", "y\u0300"]),
     (0x1EF4, ["Y\u0323", "y\u0323", "Y\u0309", "y\u0309", "Y\u0303", "y\u0303"]),
     (0x1F00, ["α\u0313", "α\u0314", "α\u0313\u0300", "α\u0314\u0300", "α\u0313\u0301"]),
     (0x1F05, ["α\u0314\u0301", "α\u0313\u0342", "α\u0314\u0342", "Α\u0313", "Α\u0314"]),
     (0x1F0A, ["Α\u0313\u0300", "Α\u0314\u0300", "Α\u0313\u0301", "Α\u0314\u0301"]),
     (0x1F0E, ["Α\u0313\u0342", "Α\u0314\u0342", "ε\u0313", "ε\u0314", "ε\u0313\u0300"]),
     (0x1F13, ["ε\u0314\u0300", "ε\u0313\u0301", "ε\u0314\u0301"]),
     (0x1F18, ["Ε\u0313", "Ε\u0314", "Ε\u0313\u0300", "Ε\u0314\u0300", "Ε\u0313\u0301"]),
     (0x1F1D, ["Ε\u0314\u0301"]),
     (0x1F20, ["η\u0313", "η\u0314", "η\u0313\u0300", "η\u0314\u0300", "η\u0313\u0301"]),
     (0x1F25, ["η\u0314\u0301", "η\u0313\u0342", "η\u0314\u0342", "Η\u0313", "Η\u0314"]),
     (0x1F2A, ["Η\u0313\u0300", "Η\u0314\u0300", "Η\u0313\u0301", "Η\u0314\u0301"]),
     (0x1F2E, ["Η\u0313\u0342", "Η\u0314\u0342", "ι\u0313", "ι\u0314", "ι\u0313\u0300"]),
     (0x1F33, ["ι\u0314\u0300", "ι\u0313\u0301", "ι\u0314\u0301", "ι\u0313\u0342"]),
     (0x1F37, ["ι\u0314\u0342", "Ι\u0313", "Ι\u0314", "Ι\u0313\u0300", "Ι\u0314\u0300"]),
     (0x1F3C, ["Ι\u0313\u0301", "Ι\u0314\u0301", "Ι\u0313\u0342", "Ι\u0314\u0342"]),
     (0x1F40, ["ο\u0313", "ο\u0314", "ο\u0313\u0300", "ο\u0314\u0300", "ο\u0313\u0301"]),
     (0x1F45, ["ο\u0314\u0301"]),
     (0x1F48, ["Ο\u0313", "Ο\u0314", "Ο\u0313\u0300", "Ο\u0314\u0300", "Ο\u0313\u0301"]),
     (0x1F4D, ["Ο\u0314\u0301"]),
     (0x1F50, ["υ\u0313", "υ\u0314", "υ\u0313\u0300", "υ\u0314\u0300", "υ\u0313\u0301"]),
     (0x1F55, ["υ\u0314\u0301", "υ\u0313\u0342", "υ\u0314\u0342"]), (0x1F59, ["Υ\u0314"]),
     (0x1F5B, ["Υ\u0314\u0300"]), (0x1F5D, ["Υ\u0314\u0301"]),
     (0x1F5F, ["Υ\u0314\u0342", "ω\u0313", "ω\u0314", "ω\u0313\u0300", "ω\u0314\u0300"]),
     (0x1F64, ["ω\u0313\u0301", "ω\u0314\u0301", "ω\u0313\u0342", "ω\u0314\u0342"]),
     (0x1F68, ["Ω\u0313", "Ω\u0314", "Ω\u0313\u0300", "Ω\u0314\u0300", "Ω\u0313\u0301"]),
     (0x1F6D, ["Ω\u0314\u0301", "Ω\u0313\u0342", "Ω\u0314\u0342", "α\u0300"]),
     (0x1F72, ["ε\u0300"]), (0x1F74, ["η\u0300"]), (0x1F76, ["ι\u0300"]), (0x1F78, ["ο\u0300"]),
     (0x1F7A, ["υ\u0300"]), (0x1F7C, ["ω\u0300"]),
     (0x1F80, ["α\u0313\u0345", "α\u0314\u0345", "α\u0313\u0300\u0345"]),
     (0x1F83, ["α\u0314\u0300\u0345", "α\u0313\u0301\u0345", "α\u0314\u0301\u0345"]),
     (0x1F86, ["α\u0313\u0342\u0345", "α\u0314\u0342\u0345", "Α\u0313\u0345"]),
     (0x1F89, ["Α\u0314\u0345", "Α\u0313\u0300\u0345", "Α\u0314\u0300\u0345"]),
     (0x1F8C, ["Α\u0313\u0301\u0345", "Α\u0314\u0301\u0345", "Α\u0313\u0342\u0345"]),
     (0x1F8F, ["Α\u0314\u0342\u0345", "η\u0313\u0345", "η\u0314\u0345"]),
     (0x1F92, ["η\u0313\u0300\u0345", "η\u0314\u0300\u0345", "η\u0313\u0301\u0345"]),
     (0x1F95, ["η\u0314\u0301\u0345", "η\u0313\u0342\u0345", "η\u0314\u0342\u0345"]),
     (0x1F98, ["Η\u0313\u0345", "Η\u0314\u0345", "Η\u0313\u0300\u0345"]),
     (0x1F9B, ["Η\u0314\u0300\u0345", "Η\u0313\u0301\u0345", "Η\u0314\u0301\u0345"]),
     (0x1F9E, ["Η\u0313\u0342\u0345", "Η\u0314\u0342\u0345", "ω\u0313\u0345"]),
     (0x1FA1, ["ω\u0314\u0345", "ω\u0313\u0300\u0345", "ω\u0314\u0300\u0345"]),
     (0x1FA4, ["ω\u0313\u0301\u0345", "ω\u0314\u0301\u0345", "ω\u0313\u0342\u0345"]),
     (0x1FA7, ["ω\u0314\u0342\u0345", "Ω\u0313\u0345", "Ω\u0314\u0345"]),
     (0x1FAA, ["Ω\u0313\u0300\u0345", "Ω\u0314\u0300\u0345", "Ω\u0313\u0301\u0345"]),
     (0x1FAD, ["Ω\u0314\u0301\u0345", "Ω\u0313\u0342\u0345", "Ω\u0314\u0342\u0345"]),
     (0x1FB0, ["α\u0306", "α\u0304", "α\u0300\u0345", "α\u0345", "α\u0301\u0345"]),
     (0x1FB6, ["α\u0342", "α\u0342\u0345", "Α\u0306", "Α\u0304", "Α\u0300"]), (0x1FBC, ["Α\u0345"]),
     (0x1FC1, ["¨\u0342", "η\u0300\u0345", "η\u0345", "η\u0301\u0345"]),
     (0x1FC6, ["η\u0342", "η\u0342\u0345", "Ε\u0300"]), (0x1FCA, ["Η\u0300"]),
     (0x1FCC, ["Η\u0345", "᾿\u0300", "᾿\u0301", "᾿\u0342", "ι\u0306", "ι\u0304"]),
     (0x1FD2, ["ι\u0308\u0300"]),
     (0x1FD6, ["ι\u0342", "ι\u0308\u0342", "Ι\u0306", "Ι\u0304", "Ι\u0300"]),
     (0x1FDD, ["῾\u0300", "῾\u0301", "῾\u0342", "υ\u0306", "υ\u0304", "υ\u0308\u0300"]),
     (0x1FE4, ["ρ\u0313", "ρ\u0314", "υ\u0342", "υ\u0308\u0342", "Υ\u0306", "Υ\u0304"]),
     (0x1FEA, ["Υ\u0300"]), (0x1FEC, ["Ρ\u0314", "¨\u0300"]),
     (0x1FF2, ["ω\u0300\u0345", "ω\u0345", "ω\u0301\u0345"]),
     (0x1FF6, ["ω\u0342", "ω\u0342\u0345", "Ο\u0300"]), (0x1FFA, ["Ω\u0300"]),
     (0x1FFC, ["Ω\u0345"]), (0x219A, ["←\u0338", "→\u0338"]), (0x21AE, ["↔\u0338"]),
     (0x21CD, ["⇐\u0338", "⇔\u0338", "⇒\u0338"]), (0x2204, ["∃\u0338"]), (0x2209, ["∈\u0338"]),
     (0x220C, ["∋\u0338"]), (0x2224, ["∣\u0338"]), (0x2226, ["∥\u0338"]), (0x2241, ["∼\u0338"]),
     (0x2244, ["≃\u0338"]), (0x2247, ["≅\u0338"]), (0x2249, ["≈\u0338"]), (0x2260, ["=\u0338"]),
     (0x2262, ["≡\u0338"]), (0x226D, ["≍\u0338", "<\u0338", ">\u0338", "≤\u0338", "≥\u0338"]),
     (0x2274, ["≲\u0338", "≳\u0338"]), (0x2278, ["≶\u0338", "≷\u0338"]),
     (0x2280, ["≺\u0338", "≻\u0338"]), (0x2284, ["⊂\u0338", "⊃\u0338"]),
     (0x2288, ["⊆\u0338", "⊇\u0338"]), (0x22AC, ["⊢\u0338", "⊨\u0338", "⊩\u0338", "⊫\u0338"]),
     (0x22E0, ["≼\u0338", "≽\u0338", "⊑\u0338", "⊒\u0338"]),
     (0x22EA, ["⊲\u0338", "⊳\u0338", "⊴\u0338", "⊵\u0338"]), (0x304C, ["か\u3099"]),
     (0x304E, ["き\u3099"]), (0x3050, ["く\u3099"]), (0x3052, ["け\u3099"]), (0x3054, ["こ\u3099"]),
     (0x3056, ["さ\u3099"]), (0x3058, ["し\u3099"]), (0x305A, ["す\u3099"]), (0x305C, ["せ\u3099"]),
     (0x305E, ["そ\u3099"]), (0x3060, ["た\u3099"]), (0x3062, ["ち\u3099"]), (0x3065, ["つ\u3099"]),
     (0x3067, ["て\u3099"]), (0x3069, ["と\u3099"]), (0x3070, ["は\u3099", "は\u309a"]),
     (0x3073, ["ひ\u3099", "ひ\u309a"]), (0x3076, ["ふ\u3099", "ふ\u309a"]),
     (0x3079, ["へ\u3099", "へ\u309a"]), (0x307C, ["ほ\u3099", "ほ\u309a"]), (0x3094, ["う\u3099"]),
     (0x309E, ["ゝ\u3099"]), (0x30AC, ["カ\u3099"]), (0x30AE, ["キ\u3099"]), (0x30B0, ["ク\u3099"]),
     (0x30B2, ["ケ\u3099"]), (0x30B4, ["コ\u3099"]), (0x30B6, ["サ\u3099"]), (0x30B8, ["シ\u3099"]),
     (0x30BA, ["ス\u3099"]), (0x30BC, ["セ\u3099"]), (0x30BE, ["ソ\u3099"]), (0x30C0, ["タ\u3099"]),
     (0x30C2, ["チ\u3099"]), (0x30C5, ["ツ\u3099"]), (0x30C7, ["テ\u3099"]), (0x30C9, ["ト\u3099"]),
     (0x30D0, ["ハ\u3099", "ハ\u309a"]), (0x30D3, ["ヒ\u3099", "ヒ\u309a"]),
     (0x30D6, ["フ\u3099", "フ\u309a"]), (0x30D9, ["ヘ\u3099", "ヘ\u309a"]),
     (0x30DC, ["ホ\u3099", "ホ\u309a"]), (0x30F4, ["ウ\u3099"]),
     (0x30F7, ["ワ\u3099", "ヰ\u3099", "ヱ\u3099", "ヲ\u3099"]), (0x30FE, ["ヽ\u3099"]),
     (0x105C9, ["𐗒\u0307"]), (0x105E4, ["𐗚\u0307"]), (0x1109A, ["𑂚"]), (0x1109C, ["𑂜"]),
     (0x110AB, ["𑂫"]), (0x1112E, ["𑄮", "𑄯"]), (0x1134B, ["𑍋", "𑍌"]), (0x11383, ["𑎃"]),
     (0x11385, ["𑎅"]), (0x1138E, ["𑎎"]), (0x11391, ["𑎑"]), (0x113C5, ["𑏅"]),
     (0x113C7, ["𑏇", "𑏈"]), (0x114BB, ["𑒻", "𑒼"]), (0x114BE, ["𑒾"]), (0x115BA, ["𑖺", "𑖻"]),
     (0x11938, ["𑤸"]), (0x16121, ["𖄡", "𖄢", "𖄣", "𖄤", "𖄥", "𖄦", "𖄧", "𖄨"]),
     (0x16D68, ["𖵨", "𖵩", "𖵪"])]

/-- The characters that only have their decomposition. -/
def decomposedOnly : Spelling where
  letters :=
    [(0x340, "\u0300\u0301"), (0x343, "\u0313"), (0x374, "ʹ"), (0x37E, ";"), (0x387, "·"),
     (0x1FBE, "ι"), (0x1FEF, "`"), (0x1FFD, "´"), (0x2000, "\u2002\u2003"), (0x2126, "Ω"),
     (0x212A, "K"), (0x2329, "〈〉"), (0xF900, "豈更車賈滑串句龜龜契金喇奈懶癩羅蘿螺裸邏樂洛烙珞落酪駱亂卵欄爛蘭"),
     (0xF920, "鸞嵐濫藍襤拉臘蠟廊朗浪狼郎來冷勞擄櫓爐盧老蘆虜路露魯鷺碌祿綠菉錄"), (0xF940, "鹿論壟弄籠聾牢磊賂雷壘屢樓淚漏累縷陋勒肋凜凌稜綾菱陵讀拏樂諾丹寧"),
     (0xF960, "怒率異北磻便復不泌數索參塞省葉說殺辰沈拾若掠略亮兩凉梁糧良諒量勵"), (0xF980, "呂女廬旅濾礪閭驪麗黎力曆歷轢年憐戀撚漣煉璉秊練聯輦蓮連鍊列劣咽烈"),
     (0xF9A0, "裂說廉念捻殮簾獵令囹寧嶺怜玲瑩羚聆鈴零靈領例禮醴隸惡了僚寮尿料樂"), (0xF9C0, "燎療蓼遼龍暈阮劉杻柳流溜琉留硫紐類六戮陸倫崙淪輪律慄栗率隆利吏履"),
     (0xF9E0, "易李梨泥理痢罹裏裡里離匿溺吝燐璘藺隣鱗麟林淋臨立笠粒狀炙識什茶刺"), (0xFA00, "切度拓糖宅洞暴輻行降見廓兀嗀"), (0xFA10, "塚"),
     (0xFA12, "晴"), (0xFA15, "凞猪益礼神祥福靖精羽"), (0xFA20, "蘒"), (0xFA22, "諸"), (0xFA25, "逸都"),
     (0xFA2A, "飯飼館鶴郞隷侮僧免勉勤卑喝嘆器塀墨層屮悔慨憎懲敏既暑梅海渚漢煮爫"), (0xFA4A, "琢碑社祉祈祐祖祝禍禎穀突節練縉繁署者臭艹艹著褐視謁謹賓贈辶逸難響"),
     (0xFA6A, "頻恵𤋮舘"), (0xFA70, "並况全侀充冀勇勺喝啕喙嗢塚墳奄奔婢嬨廒廙彩徭惘慎愈憎慠懲戴揄搜摒"),
     (0xFA90, "敖晴朗望杖歹殺流滛滋漢瀞煮瞧爵犯猪瑱甆画瘝瘟益盛直睊着磌窱節类絛"), (0xFAB0, "練缾者荒華蝹襁覆視調諸請謁諾諭謹變贈輸遲醙鉶陼難靖韛響頋頻鬒龜𢡊"),
     (0xFAD0, "𢡄𣏕㮝䀘䀹𥉉𥳐𧻓齃龎"), (0x2F800, "丽丸乁𠄢你侮侻倂偺備僧像㒞𠘺免兔兤具𠔜㒹內再𠕋冗冤仌冬况𩇟凵刃㓟"),
     (0x2F820, "刻剆割剷㔕勇勉勤勺包匆北卉卑博即卽卿卿卿𠨬灰及叟𠭣叫叱吆咞吸呈周"), (0x2F840, "咢哶唐啓啣善善喙喫喳嗂圖嘆圗噑噴切壮城埴堍型堲報墬𡓤売壷夆多夢奢"),
     (0x2F860, "𡚨𡛪姬娛娧姘婦㛮㛼嬈嬾嬾𡧈寃寘寧寳𡬘寿将当尢㞁屠屮峀岍𡷤嵃𡷦嵮嵫"), (0x2F880, "嵼巡巢㠯巽帨帽幩㡢𢆃㡼庰庳庶廊𪎒廾𢌱𢌱舁弢弢㣇𣊸𦇚形彫㣣徚忍志忹"),
     (0x2F8A0, "悁㤺㤜悔𢛔惇慈慌慎慌慺憎憲憤憯懞懲懶成戛扝抱拔捐𢬌挽拼捨掃揤𢯱搢"), (0x2F8C0, "揅掩㨮摩摾撝摷㩬敏敬𣀊旣書晉㬙暑㬈㫤冒冕最暜肭䏙朗望朡杞杓𣏃㭉柺"),
     (0x2F8E0, "枅桒梅𣑭梎栟椔㮝楂榣槪檨𣚣櫛㰘次𣢧歔㱎歲殟殺殻𣪍𡴋𣫺汎𣲼沿泍汧洖"), (0x2F900, "派海流浩浸涅𣴞洴港湮㴳滋滇𣻑淹潮𣽞𣾎濆瀹瀞瀛㶖灊災灷炭𠔥煅𤉣熜𤎫"),
     (0x2F920, "爨爵牐𤘈犀犕𤜵𤠔獺王㺬玥㺸㺸瑇瑜瑱璅瓊㼛甤𤰶甾𤲒異𢆟瘐𤾡𤾸𥁄㿼䀈"), (0x2F940, "直𥃳𥃲𥄙𥄳眞真真睊䀹瞋䁆䂖𥐝硎碌磌䃣𥘦祖𥚚𥛅福秫䄯穀穊穏𥥼𥪧𥪧竮"),
     (0x2F960, "䈂𥮫篆築䈧𥲀糒䊠糨糣紀𥾆絣䌁緇縂繅䌴𦈨𦉇䍙𦋙罺𦌾羕翺者𦓚𦔣聠𦖨聰"), (0x2F980, "𣍟䏕育脃䐋脾媵𦞧𦞵𣎓𣎜舁舄辞䑫芑芋芝劳花芳芽苦𦬼若茝荣莭茣莽菧著"),
     (0x2F9A0, "荓菊菌菜𦰶𦵫𦳕䔫蓱蓳蔖𧏊蕤𦼬䕝䕡𦾱𧃒䕫虐虜虧虩蚩蚈蜎蛢蝹蜨蝫螆䗗"), (0x2F9C0, "蟡蠁䗹衠衣𧙧裗裞䘵裺㒻𧢮𧥦䚾䛇誠諭變豕𧲨貫賁贛起𧼯𠠄跋趼跰𠣞軔輸"),
     (0x2F9E0, "𨗒𨗭邔郱鄑𨜮鄛鈸鋗鋘鉼鏹鐕𨯺開䦕閷𨵷䧦雃嶲霣𩅅𩈚䩮䩶韠𩐊䪲𩒖頋頋"), (0x2FA00, "頩𩖶飢䬳餩馧駂駾䯎𩬰鬒鱀鳽䳎䳭鵧𪃎䳸𪄅𪈎𪊑麻䵖黹黾鼅鼏鼖鼻𪘀")]
  words :=
    [(0x344, ["\u0308\u0301"]),
     (0x958, ["क\u093c", "ख\u093c", "ग\u093c", "ज\u093c", "ड\u093c", "ढ\u093c", "फ\u093c"]),
     (0x95F, ["य\u093c"]), (0x9DC, ["ড\u09bc", "ঢ\u09bc"]), (0x9DF, ["য\u09bc"]),
     (0xA33, ["ਲ\u0a3c"]), (0xA36, ["ਸ\u0a3c"]), (0xA59, ["ਖ\u0a3c", "ਗ\u0a3c", "ਜ\u0a3c"]),
     (0xA5E, ["ਫ\u0a3c"]), (0xB5C, ["ଡ\u0b3c", "ଢ\u0b3c"]), (0xF43, ["ག\u0fb7"]),
     (0xF4D, ["ཌ\u0fb7"]), (0xF52, ["ད\u0fb7"]), (0xF57, ["བ\u0fb7"]), (0xF5C, ["ཛ\u0fb7"]),
     (0xF69, ["ཀ\u0fb5"]), (0xF73, ["\u0f71\u0f72"]), (0xF75, ["\u0f71\u0f74", "\u0fb2\u0f80"]),
     (0xF78, ["\u0fb3\u0f80"]), (0xF81, ["\u0f71\u0f80"]), (0xF93, ["\u0f92\u0fb7"]),
     (0xF9D, ["\u0f9c\u0fb7"]), (0xFA2, ["\u0fa1\u0fb7"]), (0xFA7, ["\u0fa6\u0fb7"]),
     (0xFAC, ["\u0fab\u0fb7"]), (0xFB9, ["\u0f90\u0fb5"]), (0x1F71, ["α\u0301"]),
     (0x1F73, ["ε\u0301"]), (0x1F75, ["η\u0301"]), (0x1F77, ["ι\u0301"]), (0x1F79, ["ο\u0301"]),
     (0x1F7B, ["υ\u0301"]), (0x1F7D, ["ω\u0301"]), (0x1FBB, ["Α\u0301"]), (0x1FC9, ["Ε\u0301"]),
     (0x1FCB, ["Η\u0301"]), (0x1FD3, ["ι\u0308\u0301"]), (0x1FDB, ["Ι\u0301"]),
     (0x1FE3, ["υ\u0308\u0301"]), (0x1FEB, ["Υ\u0301"]), (0x1FEE, ["¨\u0301"]),
     (0x1FF9, ["Ο\u0301"]), (0x1FFB, ["Ω\u0301"]), (0x212B, ["A\u030a"]), (0x2ADC, ["⫝\u0338"]),
     (0xFB1D, ["\u05d9\u05b4"]), (0xFB1F, ["\u05f2\u05b7"]),
     (0xFB2A, ["\u05e9\u05c1", "\u05e9\u05c2", "\u05e9\u05bc\u05c1", "\u05e9\u05bc\u05c2"]),
     (0xFB2E, ["\u05d0\u05b7", "\u05d0\u05b8", "\u05d0\u05bc", "\u05d1\u05bc"]),
     (0xFB32, ["\u05d2\u05bc", "\u05d3\u05bc", "\u05d4\u05bc", "\u05d5\u05bc"]),
     (0xFB36, ["\u05d6\u05bc"]),
     (0xFB38, ["\u05d8\u05bc", "\u05d9\u05bc", "\u05da\u05bc", "\u05db\u05bc"]),
     (0xFB3C, ["\u05dc\u05bc"]), (0xFB3E, ["\u05de\u05bc"]),
     (0xFB40, ["\u05e0\u05bc", "\u05e1\u05bc"]), (0xFB43, ["\u05e3\u05bc", "\u05e4\u05bc"]),
     (0xFB46, ["\u05e6\u05bc", "\u05e7\u05bc", "\u05e8\u05bc", "\u05e9\u05bc"]),
     (0xFB4A, ["\u05ea\u05bc", "\u05d5\u05b9", "\u05d1\u05bf", "\u05db\u05bf"]),
     (0xFB4E, ["\u05e4\u05bf"]), (0x1D15E, ["𝅗𝅥", "𝅘𝅥", "𝅘𝅥𝅮", "𝅘𝅥𝅯", "𝅘𝅥𝅰", "𝅘𝅥𝅱", "𝅘𝅥𝅲"]),
     (0x1D1BB, ["𝆹𝅥", "𝆺𝅥", "𝆹𝅥𝅮", "𝆺𝅥𝅮", "𝆹𝅥𝅯", "𝆺𝅥𝅯"])]

end Columnar.Unicode
