import Workbench.Text.Join
import Workbench.Text.Quoted
import Workbench.Value.Basic

/-!
Values as text. Users see a text bare and the elements of a list between commas without spaces;
programmers see each value under the name of its kind, with texts quoted.
-/

namespace Workbench.Value

mutual

/-- A value as users see it. -/
def render : Value → String
  | .null => "null"
  | .bool flag => if flag then "true" else "false"
  | .int number => toString number.toInt
  | .str text => text
  | .list items => "[" ++ Text.joinWith "," (renderAll items) ++ "]"
  | .function _ parameters _ => "FUNCTION [" ++ Text.joinWith " " parameters ++ "]"
  | .builtin b => "BUILTIN " ++ b.name

/-- Values as users see them. -/
def renderAll : List Value → List String
  | [] => []
  | item :: rest => item.render :: renderAll rest

end

mutual

/-- A value as programmers see it. -/
def debug : Value → String
  | .null => "Null"
  | .bool flag => if flag then "Bool(true)" else "Bool(false)"
  | .int number => "Integer(" ++ toString number.toInt ++ ")"
  | .str text => "String(" ++ Text.quoted text ++ ")"
  | .list items => "List([" ++ Text.joinWith ", " (debugAll items) ++ "])"
  | .function _ parameters _ => "Function(" ++ Text.joinWith " " parameters ++ ")"
  | .builtin b => "Builtin(" ++ b.name ++ ")"

/-- Values as programmers see them. -/
def debugAll : List Value → List String
  | [] => []
  | item :: rest => item.debug :: debugAll rest

end

/-- The message of a print event: its values, with a space between every two of them. -/
def message (values : List Value) : String :=
  Text.joinWith " " (values.map render)

/-- Each value in a list is written by itself. -/
theorem renderAll_eq_map (values : List Value) : renderAll values = values.map render := by
  induction values with
  | nil => rfl
  | cons value rest ih => simp [renderAll, ih]

/-- Each value in a list is written by itself for programmers. -/
theorem debugAll_eq_map (values : List Value) : debugAll values = values.map debug := by
  induction values with
  | nil => rfl
  | cons value rest ih => simp [debugAll, ih]

end Workbench.Value
