import Workbench.Text.CharRanges

/-!
Ignorable characters: the Unicode property Default_Ignorable_Code_Point. A display that has no use
for such a character shows nothing in its place. Most of them are format characters or variation
selectors; the fillers of Hangul are the ones that count as letters.
-/

namespace Workbench.Text

/-- The ignorable characters; none of them is ASCII. -/
def ignorableRanges : CharRanges :=
  [(0xad, 0xad), (0x34f, 0x34f), (0x61c, 0x61c), (0x115f, 0x1160), (0x17b4, 0x17b5),
   (0x180b, 0x180f), (0x200b, 0x200f), (0x202a, 0x202e), (0x2060, 0x206f), (0x3164, 0x3164),
   (0xfe00, 0xfe0f), (0xfeff, 0xfeff), (0xffa0, 0xffa0), (0xfff0, 0xfff8), (0x1bca0, 0x1bca3),
   (0x1d173, 0x1d17a), (0xe0000, 0xe0fff)]

/-- Whether a character may be shown as nothing. -/
def isIgnorable (c : Char) : Bool :=
  if c.toNat < 0x80 then false else ignorableRanges.covers c

end Workbench.Text
