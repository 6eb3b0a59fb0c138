import Ndef.Unicode.Ranges

/-!
# White space

The characters with the Unicode property `White_Space`.
-/

namespace Ndef

/-- The ranges of characters with the property `White_Space`. -/
def whiteSpace : CharRanges :=
  [(0x0009, 0x000D), (0x0020, 0x0020), (0x0085, 0x0085), (0x00A0, 0x00A0), (0x1680, 0x1680),
    (0x2000, 0x200A), (0x2028, 0x2029), (0x202F, 0x202F), (0x205F, 0x205F), (0x3000, 0x3000)]

/-- Whether the character is white space in any script. -/
def isWhiteSpace (c : Char) : Bool :=
  whiteSpace.contains c

end Ndef
