import Workbench.Json.Basic
import Workbench.Value.Render

/-!
Values as documents. Every level of a value names its kind and carries its text as `summary`;
scalars and builtin functions add `value`, lists `len` and `items`, functions `parameters`.
-/

namespace Workbench.Value

/-- The document of a value of the given kind and text, with some more fields. -/
def described (kind : Kind) (summary : String) (fields : List (String × Json)) : Json :=
  .object (("type", .str kind.name) :: ("summary", .str summary) :: fields)

mutual

/-- The document of a value. -/
def toJson : Value → Json
  | .null => described .null "null" [("value", .null)]
  | .bool flag => described .boolean (render (.bool flag)) [("value", .bool flag)]
  | .int number => described .number (render (.int number)) [("value", .int number.toInt)]
  | .str text => described .string text [("value", .str text)]
  | .list items => described .list (render (.list items))
      [("len", .nat items.length), ("items", .list (toJsonAll items))]
  | .function stamp parameters body =>
      described .function (render (.function stamp parameters body))
        [("parameters", .listOf .str parameters)]
  | .builtin b => described .builtin (render (.builtin b))
      [("value", .str b.name)]

/-- The documents of values. -/
def toJsonAll : List Value → List Json
  | [] => []
  | item :: rest => item.toJson :: toJsonAll rest

end

/-- The kind and the text of a value, without what it is made of. -/
def briefJson (value : Value) : Json :=
  described value.kind value.render []

end Workbench.Value
