import Workbench.Text.CharRanges

/-!
Blank characters: the Unicode property White_Space. Beyond the space and the five ASCII controls
from tab to carriage return it holds the next-line control, the no-break spaces, the typographic
spaces and the line and paragraph separators. The zero-width space is not blank.
-/

namespace Workbench.Text

/-- The blank characters beyond ASCII. -/
def blankRanges : CharRanges :=
  [(0x85, 0x85), (0xa0, 0xa0), (0x1680, 0x1680), (0x2000, 0x200a), (0x2028, 0x2029),
   (0x202f, 0x202f), (0x205f, 0x205f), (0x3000, 0x3000)]

/-- Whether a character is blank. -/
def isBlank (c : Char) : Bool :=
  if c.toNat < 0x80 then c == ' ' || (9 ≤ c.toNat && c.toNat ≤ 13) else blankRanges.covers c

/-- The text without the blanks at its two ends. -/
def trimBlanks (cs : List Char) : List Char :=
  ((cs.dropWhile isBlank).reverse.dropWhile isBlank).reverse

end Workbench.Text
