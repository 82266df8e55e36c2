import Folio.Unicode.Ranges

/-! # Blank and control characters

`isBlank` is the property White_Space of every script; `isAsciiBlank` is the narrower class that
markup formats use between their tokens. -/

namespace Folio.Unicode

/-- Code points with the property White_Space. -/
def blankRanges : Ranges :=
  [(0x09, 0x0D), (0x20, 0x20), (0x85, 0x85), (0xA0, 0xA0), (0x1680, 0x1680), (0x2000, 0x200A),
   (0x2028, 0x2029), (0x202F, 0x202F), (0x205F, 0x205F), (0x3000, 0x3000)]

/-- Whether a character is white space in any script. -/
def isBlank (c : Char) : Bool := blankRanges.contains c.toNat

/-- Whether a character is a space, a tab, a line feed, a form feed or a carriage return. -/
def isAsciiBlank (c : Char) : Bool :=
  c.toNat == 0x20 || c.toNat == 0x09 || c.toNat == 0x0A || c.toNat == 0x0C || c.toNat == 0x0D

/-- Whether a character is one of the control codes of the first two blocks. -/
def isControl (c : Char) : Bool :=
  c.toNat < 0x20 || (0x7F ≤ c.toNat && c.toNat ≤ 0x9F)

end Folio.Unicode
