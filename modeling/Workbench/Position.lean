import Workbench.Json.Basic

/-!
Places in a source text: a line and a column, both counted from one, where a column is one Unicode
scalar value.
-/

namespace Workbench

/-- A place in a source text. -/
structure Position where
  line : Nat
  col : Nat
  deriving DecidableEq, Inhabited

namespace Position

/-- The place of the first character. -/
def first : Position := ⟨1, 1⟩

/-- The place after a character: a line feed starts the next line. -/
def after (p : Position) (c : Char) : Position :=
  if c = '\n' then ⟨p.line + 1, 1⟩ else ⟨p.line, p.col + 1⟩

/-- The place after some characters. -/
def afterAll (p : Position) : List Char → Position
  | [] => p
  | c :: cs => (p.after c).afterAll cs

@[simp]
theorem afterAll_nil (p : Position) : p.afterAll [] = p := rfl

@[simp]
theorem afterAll_cons (p : Position) (c : Char) (cs : List Char) :
    p.afterAll (c :: cs) = (p.after c).afterAll cs := rfl

/-- A text may be gone through part by part. -/
theorem afterAll_append (p : Position) (cs ds : List Char) :
    p.afterAll (cs ++ ds) = (p.afterAll cs).afterAll ds := by
  induction cs generalizing p with
  | nil => rfl
  | cons c cs ih => exact ih (p.after c)

/-- The text of a place in messages. -/
def render (p : Position) : String :=
  toString p.line ++ ":" ++ toString p.col

/-- The text of a place with its parts named. -/
def debug (p : Position) : String :=
  "TokenPosition \x7b line: " ++ toString p.line ++ ", col: " ++ toString p.col ++ " \x7d"

/-- The document of a place. -/
def toJson (p : Position) : Json :=
  .object [("line", .nat p.line), ("col", .nat p.col)]

/-- The place that a document describes. -/
def ofJson? (document : Json) : Option Position := do
  match ← document.record? ["line", "col"] with
  | [line, col] => pure ⟨← line.word?, ← col.word?⟩
  | _ => none

end Position

end Workbench
