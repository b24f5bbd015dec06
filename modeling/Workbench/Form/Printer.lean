import Workbench.Form.Basic
import Workbench.Text.Join

/-!
Forms as text for programmers, and as an outline with one line to a form.
-/

namespace Workbench.Form

mutual

/-- A form with its parts named. -/
def debug : Form → String
  | .word token => "Word(" ++ token.debug ++ ")"
  | .call items => "Expression([" ++ Text.joinWith ", " (debugAll items) ++ "])"
  | .list items => "List([" ++ Text.joinWith ", " (debugAll items) ++ "])"
  | .string token => "StringLiteral(" ++ token.debug ++ ")"
  | .number token => "NumberLiteral(" ++ token.debug ++ ")"
  | .boolean token => "BooleanLiteral(" ++ token.debug ++ ")"
  | .function token parameters body =>
      "FunctionLiteral \x7b token: " ++ token.debug ++ ", arguments: ["
        ++ Text.joinWith ", " (debugAll parameters) ++ "], body: " ++ body.debug ++ " \x7d"

/-- Forms with their parts named. -/
def debugAll : List Form → List String
  | [] => []
  | form :: rest => form.debug :: debugAll rest

end

/-- A line of an outline: two spaces for each level, then the text. -/
def outlineLine (level : Nat) (text : String) : String :=
  String.ofList (List.replicate (2 * level) ' ') ++ text

mutual

/-- The outline of a form: what a group or a function holds stands one level deeper, and a function
shows the number of its parameters only. -/
def outline (level : Nat) : Form → List String
  | .call items => outlineLine level Kind.call.name :: outlineAll (level + 1) items
  | .list items => outlineLine level Kind.list.name :: outlineAll (level + 1) items
  | .function _ parameters body =>
      outlineLine level
          (Kind.function.name ++ " (" ++ toString parameters.length ++ " args)")
        :: body.outline (level + 1)
  | .word token => [outlineLine level (debug (.word token))]
  | .string token => [outlineLine level (debug (.string token))]
  | .number token => [outlineLine level (debug (.number token))]
  | .boolean token => [outlineLine level (debug (.boolean token))]

/-- The outlines of forms, one after the other. -/
def outlineAll (level : Nat) : List Form → List String
  | [] => []
  | form :: rest => form.outline level ++ outlineAll level rest

end

end Workbench.Form
