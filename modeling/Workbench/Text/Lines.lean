/-!
Texts cut into lines. A line keeps the line feed that ends it; the last one may have none.
-/

namespace Workbench.Text

/-- The characters cut after each line feed. -/
def cutLines : List Char → List (List Char)
  | [] => []
  | c :: cs =>
      if c = '\n' then [c] :: cutLines cs
      else
        match cutLines cs with
        | [] => [[c]]
        | line :: rest => (c :: line) :: rest

/-- The lines of a text. -/
def lines (text : String) : List String := (cutLines text.toList).map String.ofList

/-- Cutting loses nothing. -/
@[simp]
theorem flatten_cutLines (cs : List Char) : (cutLines cs).flatten = cs := by
  induction cs with
  | nil => rfl
  | cons c cs ih =>
      rw [cutLines]
      split
      · simp [ih]
      · split
        · next h => rw [← ih, h]; rfl
        · next h => rw [← ih, h]; rfl

end Workbench.Text
