import Workbench.Token.Basic

/-!
Forms: programs as trees. A form is a literal or a word with the token it was read from, a call in
parentheses, a list in square brackets, or a function with its parameters and its body. The root of
a program is a call form that holds the top-level forms; it is never called.
-/

namespace Workbench

/-- The greatest of some numbers is within a bound exactly if all of them are. -/
theorem greatest_le_iff {α : Type} {measure : α → Nat} {greatest : List α → Nat}
    (hnil : greatest [] = 0)
    (hcons : ∀ a rest, greatest (a :: rest) = max (measure a) (greatest rest)) {as : List α}
    {bound : Nat} : greatest as ≤ bound ↔ ∀ a ∈ as, measure a ≤ bound := by
  induction as with
  | nil => simp [hnil]
  | cons a rest ih => rw [hcons, Nat.max_le, ih, List.forall_mem_cons]

/-- A program or a part of one. -/
inductive Form where
  | word (token : Token)
  /-- A group in parentheses. -/
  | call (items : List Form)
  /-- A group in square brackets. -/
  | list (items : List Form)
  /-- A text; the token's spelling has the quotes. -/
  | string (token : Token)
  | number (token : Token)
  | boolean (token : Token)
  /-- A function, with the token of the word that introduces it. -/
  | function (token : Token) (parameters : List Form) (body : Form)
  deriving Inhabited

namespace Form

/-- The kinds of forms. -/
inductive Kind where
  | word
  | call
  | list
  | string
  | number
  | boolean
  | function
  deriving DecidableEq

/-- The name of a kind in messages. -/
def Kind.name : Kind → String
  | .word => "word"
  | .call => "expression"
  | .list => "list"
  | .string => "string"
  | .number => "number"
  | .boolean => "boolean"
  | .function => "function"

/-- The kind of a form. -/
def kind : Form → Kind
  | .word _ => .word
  | .call _ => .call
  | .list _ => .list
  | .string _ => .string
  | .number _ => .number
  | .boolean _ => .boolean
  | .function .. => .function

/-- The token of a form that is a single word. -/
def word? : Form → Option Token
  | .word token => some token
  | _ => none

/-- Whether a form is a group that holds nothing. -/
def isEmptyGroup : Form → Bool
  | .call items => items.isEmpty
  | .list items => items.isEmpty
  | _ => false

mutual

/-- The number of forms in a form, itself and parameters included. -/
def size : Form → Nat
  | .call items => 1 + sizeAll items
  | .list items => 1 + sizeAll items
  | .function _ parameters body => 1 + (sizeAll parameters + body.size)
  | .word _ | .string _ | .number _ | .boolean _ => 1

/-- The number of forms in some forms. -/
def sizeAll : List Form → Nat
  | [] => 0
  | form :: rest => form.size + sizeAll rest

end

mutual

/-- The place of the last character that a token in the form covers. Brackets leave no token in a
form, so a form of brackets alone has no such place; the parameters of a function do not count. -/
def lastPlace : Form → Option Position
  | .word token | .string token | .number token | .boolean token => some token.stop
  | .call items => lastPlaceOf items
  | .list items => lastPlaceOf items
  | .function token _ body => body.lastPlace.or (some token.stop)

/-- The last place in a sequence of forms: that of the last form that has one. -/
def lastPlaceOf : List Form → Option Position
  | [] => none
  | form :: rest => (lastPlaceOf rest).or form.lastPlace

end

mutual

/-- How deeply brackets and functions are nested in a form. A function stands around its parameter
list as around its body. -/
def depth : Form → Nat
  | .call items => 1 + depthAll items
  | .list items => 1 + depthAll items
  | .function _ _ body => 1 + max 1 body.depth
  | .word _ | .string _ | .number _ | .boolean _ => 0

/-- The greatest depth among some forms. -/
def depthAll : List Form → Nat
  | [] => 0
  | form :: rest => max form.depth (depthAll rest)

end

/-- Forms are within a bound on their depth together exactly if each of them is. -/
theorem depthAll_le_iff {forms : List Form} {bound : Nat} :
    depthAll forms ≤ bound ↔ ∀ form ∈ forms, form.depth ≤ bound :=
  greatest_le_iff rfl fun _ _ => rfl

end Form

end Workbench
