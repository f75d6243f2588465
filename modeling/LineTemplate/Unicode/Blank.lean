import LineTemplate.Unicode.Ranges

/-!
# Blanks

The property White_Space of Unicode 16.0.
-/

namespace LineTemplate.Unicode

/-- The code points with the property White_Space. -/
def blankRanges : Ranges := [
  (0x9, 0xD), (0x20, 0x20), (0x85, 0x85), (0xA0, 0xA0), (0x1680, 0x1680), (0x2000, 0x200A),
  (0x2028, 0x2029), (0x202F, 0x202F), (0x205F, 0x205F), (0x3000, 0x3000)]

/-- A blank, line separators included. -/
def isBlank (c : Char) : Bool :=
  blankRanges.contains c.toNat

end LineTemplate.Unicode
