/-!
JSON documents. A document keeps what its readers have to tell apart and nothing else: an integer
literal is a number of its own, every other number keeps its spelling, and the fields of an object
stay in the order and multiplicity in which they were written, so that a reader can refuse a field
that is given twice.
-/

namespace Workbench

/-- A JSON document. -/
inductive Json where
  | null
  | bool (flag : Bool)
  /-- A number written without fraction and exponent. The literal `-0` is not one of these. -/
  | int (value : Int)
  /-- Any other number, by its spelling. -/
  | decimal (literal : String)
  | str (text : String)
  /-- A well-formed string, or an object with a well-formed key, that denotes no text because it
  spells an unpaired surrogate. -/
  | unreadable
  | list (items : List Json)
  | object (fields : List (String × Json))
  deriving Inhabited

namespace Json

/-- A natural number as a document. -/
def nat (n : Nat) : Json := .int n

/-- A list of documents made from the elements of a list. -/
def listOf {α : Type} (f : α → Json) (items : List α) : Json := .list (items.map f)

/-- The document of a value that may be absent: `null` when it is. -/
def ofOption {α : Type} (f : α → Json) : Option α → Json
  | some a => f a
  | none => .null

mutual

/-- How deeply lists and objects are nested in a document. -/
def depth : Json → Nat
  | .list items => 1 + depthOfItems items
  | .object fields => 1 + depthOfFields fields
  | _ => 0

/-- The greatest depth among some documents. -/
def depthOfItems : List Json → Nat
  | [] => 0
  | item :: rest => max item.depth (depthOfItems rest)

/-- The greatest depth among the values of some fields. -/
def depthOfFields : List (String × Json) → Nat
  | [] => 0
  | (_, value) :: rest => max value.depth (depthOfFields rest)

end

/-! ### Reading fields -/

/-- The values of the fields of one name, in order. -/
def valuesOf (name : String) (fields : List (String × Json)) : List Json :=
  (fields.filter fun field => field.1 = name).map Prod.snd

/-- A text. -/
def text? : Json → Option String
  | .str text => some text
  | _ => none

/-- A truth value. -/
def bool? : Json → Option Bool
  | .bool flag => some flag
  | _ => none

/-- A natural number below `2 ^ 64`. -/
def word? : Json → Option Nat
  | .int value => if 0 ≤ value ∧ value.toNat < UInt64.size then some value.toNat else none
  | _ => none

/-- The elements of a list. -/
def items? : Json → Option (List Json)
  | .list items => some items
  | _ => none

/-- The values of fields with the given names, of which each is there exactly once. -/
def fieldsOf? (names : List String) (fields : List (String × Json)) : Option (List Json) :=
  names.mapM fun name =>
    match valuesOf name fields with
    | [value] => some value
    | _ => none

/-- The fields of a record that has to be an object: it gives each of them exactly once, next to any
other fields. -/
def namedRecord? (names : List String) : Json → Option (List Json)
  | .object fields => fieldsOf? names fields
  | _ => none

/-- The fields of a record with the given field names: an object gives each of them exactly once,
next to any other fields, and a list gives their values in the order of the names. -/
def record? (names : List String) : Json → Option (List Json)
  | .object fields => fieldsOf? names fields
  | .list items => if items.length = names.length then some items else none
  | _ => none

/-- The fields of a record in which every field can be left out: an object gives each of them at
most once, next to any other fields, and a list gives the first ones in the order of the names. -/
def sparseRecord? (names : List String) : Json → Option (List (Option Json))
  | .object fields => names.mapM fun name =>
      match valuesOf name fields with
      | [] => some none
      | [value] => some (some value)
      | _ => none
  | .list items =>
      if items.length ≤ names.length then
        some (items.map some ++ List.replicate (names.length - items.length) none)
      else none
  | _ => none

/-- The name of a constant: a text, or an object with the name as its only key and `null` under
it. -/
def constant? : Json → Option String
  | .str name => some name
  | .object [(name, .null)] => some name
  | _ => none

/-- The tag and the content of a tagged value: an object with a field for each of the two, in any
order and next to any other fields, or a list of the two. In an object the tag is a constant; a list
gives it as a text, and cannot leave the content out. -/
def tagged? (tag content : String) : Json → Option (String × Option Json)
  | .object fields =>
      match valuesOf tag fields, valuesOf content fields with
      | [name], [value] => name.constant?.map (·, some value)
      | [name], [] => name.constant?.map (·, none)
      | _, _ => none
  | .list [.str name, value] => some (name, some value)
  | _ => none

end Json

end Workbench
