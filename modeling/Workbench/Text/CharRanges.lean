/-!
Sets of characters, written as inclusive ranges of code points. The modules beside this one are the
tables of single properties; each of them decides the ASCII characters by a short test and keeps
its ranges for the rest, so that a fact about an ASCII character never walks a table.
-/

namespace Workbench.Text

/-- Inclusive ranges of code points, in increasing order. -/
abbrev CharRanges := List (Nat × Nat)

/-- Whether one of the ranges holds the character. -/
def CharRanges.covers (ranges : CharRanges) (c : Char) : Bool :=
  ranges.any fun range => range.1 ≤ c.toNat && c.toNat ≤ range.2

/-- A character is covered if it lies in one of the ranges. -/
theorem CharRanges.covers_iff {ranges : CharRanges} {c : Char} :
    ranges.covers c = true ↔ ∃ range ∈ ranges, range.1 ≤ c.toNat ∧ c.toNat ≤ range.2 := by
  simp [CharRanges.covers]

end Workbench.Text
