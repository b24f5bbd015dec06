import Workbench.Json.Basic
import Workbench.Text.Join

/-!
Writing JSON documents, on one line or spread over lines with two spaces of indentation. Texts are
written with the short escapes where JSON has them, other control characters by their code, and
everything else as itself.
-/

namespace Workbench.Json

/-- One hexadecimal digit, in lower case. -/
def hexDigit (n : Nat) : Char :=
  Nat.digitChar (n % 16)

/-- One character inside a JSON string. -/
def escape (c : Char) : List Char :=
  if c = '"' then ['\\', '"']
  else if c = '\\' then ['\\', '\\']
  else if c = '\x08' then ['\\', 'b']
  else if c = '\x0c' then ['\\', 'f']
  else if c = '\n' then ['\\', 'n']
  else if c = '\r' then ['\\', 'r']
  else if c = '\t' then ['\\', 't']
  else if c.toNat < 0x20 then
    ['\\', 'u', '0', '0', hexDigit (c.toNat / 16), hexDigit c.toNat]
  else [c]

/-- A text as a JSON string. -/
def quote (s : String) : String :=
  String.ofList ('"' :: (s.toList.flatMap escape ++ ['"']))

mutual

/-- A document on one line. -/
def compact : Json → String
  | .null => "null"
  | .bool flag => if flag then "true" else "false"
  | .int value => toString value
  | .decimal literal => literal
  | .str text => quote text
  | .unreadable => "null"
  | .list items => "[" ++ Text.joinWith "," (compactItems items) ++ "]"
  | .object fields => "\x7b" ++ Text.joinWith "," (compactFields fields) ++ "\x7d"

/-- The elements of a list, each on one line. -/
def compactItems : List Json → List String
  | [] => []
  | item :: rest => compact item :: compactItems rest

/-- The fields of an object, each on one line. -/
def compactFields : List (String × Json) → List String
  | [] => []
  | (name, value) :: rest => (quote name ++ ":" ++ compact value) :: compactFields rest

end

/-- A line break and the indentation of the given level. -/
def lineBreak (level : Nat) : String :=
  "\n" ++ String.ofList (List.replicate (2 * level) ' ')

/-- Items between brackets, one to a line; brackets without items stay together. -/
def spread (opening closing : String) (level : Nat) : List String → String
  | [] => opening ++ closing
  | items => opening ++ lineBreak (level + 1) ++ Text.joinWith ("," ++ lineBreak (level + 1)) items
      ++ lineBreak level ++ closing

mutual

/-- A document over several lines, at the given level of indentation. -/
def prettyAt (level : Nat) : Json → String
  | .list items => spread "[" "]" level (prettyItems (level + 1) items)
  | .object fields => spread "\x7b" "\x7d" level (prettyFields (level + 1) fields)
  | document => compact document

/-- The elements of a list at the given level. -/
def prettyItems (level : Nat) : List Json → List String
  | [] => []
  | item :: rest => prettyAt level item :: prettyItems level rest

/-- The fields of an object at the given level. -/
def prettyFields (level : Nat) : List (String × Json) → List String
  | [] => []
  | (name, value) :: rest =>
      (quote name ++ ": " ++ prettyAt level value) :: prettyFields level rest

end

/-- A document over several lines. -/
def pretty (document : Json) : String := prettyAt 0 document

/-- A field put into its place among fields that are sorted by name. -/
def insertField (field : String × Json) : List (String × Json) → List (String × Json)
  | [] => [field]
  | other :: rest =>
      if field.1 ≤ other.1 then field :: other :: rest else other :: insertField field rest

mutual

/-- The document with the fields of every object in the order of their names. -/
def sortFields : Json → Json
  | .list items => .list (sortItems items)
  | .object fields => .object (sortEach fields)
  | document => document

/-- Every element of a list, sorted. -/
def sortItems : List Json → List Json
  | [] => []
  | item :: rest => sortFields item :: sortItems rest

/-- Fields with sorted values, in the order of their names. -/
def sortEach : List (String × Json) → List (String × Json)
  | [] => []
  | (name, value) :: rest => insertField (name, sortFields value) (sortEach rest)

end

end Workbench.Json
