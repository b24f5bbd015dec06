import Workbench.Position
import Workbench.Text.Quoted

/-!
Tokens: the lexical units of a source text, each with its kind, its spelling and the places of its
first and its last character.
-/

namespace Workbench

namespace Token

/-- The kinds of tokens. -/
inductive Kind where
  | leftParen
  | rightParen
  | leftSquare
  | rightSquare
  | singleQuote
  /-- A text between double quotes, which belong to the spelling. -/
  | string
  /-- A name or an operator. -/
  | word
  | number
  /-- A semicolon and what follows it on its line. -/
  | comment
  /-- What is none of the others. -/
  | unknown
  deriving DecidableEq, Inhabited

/-- The name of a kind. -/
def Kind.name : Kind → String
  | .leftParen => "LParen"
  | .rightParen => "RParen"
  | .leftSquare => "LSquare"
  | .rightSquare => "RSquare"
  | .singleQuote => "SingleQuote"
  | .string => "StringLiteral"
  | .word => "Word"
  | .number => "NumberLiteral"
  | .comment => "Comment"
  | .unknown => "Unknown"

/-- Every kind. -/
def Kind.all : List Kind :=
  [.leftParen, .rightParen, .leftSquare, .rightSquare, .singleQuote, .string, .word, .number,
   .comment, .unknown]

/-- The kind of a name. -/
def Kind.ofName? (name : String) : Option Kind :=
  Kind.all.find? fun kind => kind.name = name

end Token

/-- A lexical unit of a source text. -/
structure Token where
  value : String
  kind : Token.Kind
  /-- The place of the first character. -/
  start : Position
  /-- The place of the last character. -/
  stop : Position
  deriving DecidableEq, Inhabited

namespace Token

/-- The token with its parts named. -/
def debug (t : Token) : String :=
  "Token \x7b value: " ++ Text.quoted t.value ++ ", kind: " ++ t.kind.name
    ++ ", start: " ++ t.start.debug ++ ", end: " ++ t.stop.debug ++ " \x7d"

/-- The document of a token. -/
def toJson (t : Token) : Json :=
  .object [("value", .str t.value), ("kind", .str t.kind.name), ("start", t.start.toJson),
    ("end", t.stop.toJson)]

/-- The token that a document describes. -/
def ofJson? (document : Json) : Option Token := do
  match ← document.record? ["value", "kind", "start", "end"] with
  | [value, kind, start, stop] =>
      pure ⟨← value.text?, ← Kind.ofName? (← kind.constant?), ← Position.ofJson? start,
        ← Position.ofJson? stop⟩
  | _ => none

end Token

end Workbench
