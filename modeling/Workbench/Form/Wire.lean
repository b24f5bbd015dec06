import Workbench.Form.Basic

/-!
Forms as documents: a form is an object with the fields `type` and `value`, where the value is a
token, a list of forms, or the record of a function.
-/

namespace Workbench.Form

/-- The document of a form of the given type. -/
def tagged (type : String) (value : Json) : Json :=
  .object [("type", .str type), ("value", value)]

mutual

/-- The document of a form. -/
def toJson : Form → Json
  | .word token => tagged "Word" token.toJson
  | .call items => tagged "Expression" (.list (toJsonAll items))
  | .list items => tagged "List" (.list (toJsonAll items))
  | .string token => tagged "StringLiteral" token.toJson
  | .number token => tagged "NumberLiteral" token.toJson
  | .boolean token => tagged "BooleanLiteral" token.toJson
  | .function token parameters body =>
      tagged "FunctionLiteral" (.object [("token", token.toJson),
        ("arguments", .list (toJsonAll parameters)), ("body", body.toJson)])

/-- The documents of forms. -/
def toJsonAll : List Form → List Json
  | [] => []
  | form :: rest => form.toJson :: toJsonAll rest

end

/-- The form that a document describes, where `fuel` bounds how deeply forms are nested. -/
def ofJsonWithin? : Nat → Json → Option Form
  | 0, _ => none
  | fuel + 1, document => do
      let (type, value) ← document.tagged? "type" "value"
      let value ← value
      match type with
      | "Word" => pure (.word (← Token.ofJson? value))
      | "StringLiteral" => pure (.string (← Token.ofJson? value))
      | "NumberLiteral" => pure (.number (← Token.ofJson? value))
      | "BooleanLiteral" => pure (.boolean (← Token.ofJson? value))
      | "Expression" => pure (.call (← (← value.items?).mapM (ofJsonWithin? fuel)))
      | "List" => pure (.list (← (← value.items?).mapM (ofJsonWithin? fuel)))
      | "FunctionLiteral" =>
          match ← value.namedRecord? ["token", "arguments", "body"] with
          | [token, parameters, body] =>
              pure (.function (← Token.ofJson? token)
                (← (← parameters.items?).mapM (ofJsonWithin? fuel)) (← ofJsonWithin? fuel body))
          | _ => none
      | _ => none

/-- The form that a document describes. A form is nested less deeply than its document. -/
def ofJson? (document : Json) : Option Form :=
  ofJsonWithin? (document.depth + 1) document

end Workbench.Form
