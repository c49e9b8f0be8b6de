import Lexing.Unicode.RangeTable

/-!
# White space

The characters with the Unicode property White_Space.
-/

namespace Lexing.Unicode

/-- The ranges of the property White_Space. -/
def whiteSpace : RangeTable where
  ranges := [
    (0x9, 0xD), (0x20, 0x20), (0x85, 0x85), (0xA0, 0xA0), (0x1680, 0x1680), (0x2000, 0x200A),
    (0x2028, 0x2029), (0x202F, 0x202F), (0x205F, 0x205F), (0x3000, 0x3000)]

/-- Whether a character is white space. -/
def isWhiteSpace (c : Char) : Bool := whiteSpace.covers c.toNat

end Lexing.Unicode
