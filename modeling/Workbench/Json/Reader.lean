import Workbench.Json.Basic
import Workbench.Text.Decimal

/-!
Reading JSON documents. The reader takes one character at a time. Characters gather into lexemes,
and each lexeme, once it is complete, takes its place on a stack of open brackets; so reading never
nests as deeply as the document does, and what has been read does not depend on what follows.
Reading is strict: nothing but blanks may follow the document, a string holds no raw control
character, and numbers are spelled as JSON spells them. A string with an unpaired surrogate is
read, as a document that denotes no text.
-/

namespace Workbench.Json

/-! ### Strings -/

/-- One element of a string literal: a character, or a UTF-16 code unit given by its number. -/
inductive StringUnit where
  | char (c : Char)
  | code (unit : Nat)
  deriving DecidableEq

/-- The text of a string literal. A leading surrogate has to be followed by a trailing one, which
has to stand nowhere else. -/
def textOfUnits : List StringUnit → Option (List Char)
  | [] => some []
  | .char c :: rest => (textOfUnits rest).map (c :: ·)
  | .code high :: .code low :: rest =>
      if 0xd800 ≤ high ∧ high < 0xdc00 then
        if 0xdc00 ≤ low ∧ low < 0xe000 then
          (textOfUnits rest).map
            (Char.ofNat (0x10000 + (high - 0xd800) * 0x400 + (low - 0xdc00)) :: ·)
        else none
      else if 0xdc00 ≤ high ∧ high < 0xe000 then none
      else (textOfUnits (.code low :: rest)).map (Char.ofNat high :: ·)
  | .code unit :: rest =>
      if 0xd800 ≤ unit ∧ unit < 0xe000 then none
      else (textOfUnits rest).map (Char.ofNat unit :: ·)

/-- The character that a backslash and one letter stand for. -/
def shortEscape : Char → Option Char
  | '"' => some '"'
  | '\\' => some '\\'
  | '/' => some '/'
  | 'b' => some '\x08'
  | 'f' => some '\x0c'
  | 'n' => some '\n'
  | 'r' => some '\r'
  | 't' => some '\t'
  | _ => none

/-- The value of a hexadecimal digit of either case. -/
def hexValue (c : Char) : Option Nat :=
  if '0' ≤ c ∧ c ≤ '9' then some (c.toNat - '0'.toNat)
  else if 'a' ≤ c ∧ c ≤ 'f' then some (c.toNat - 'a'.toNat + 10)
  else if 'A' ≤ c ∧ c ≤ 'F' then some (c.toNat - 'A'.toNat + 10)
  else none

/-! ### Numbers -/

/-- Whether the characters are the digits of a whole number: no zero leads a longer number. -/
def isWhole : List Char → Bool
  | ['0'] => true
  | '0' :: _ => false
  | cs => Text.areDigits cs

/-- Whether the characters are an exponent, if there are any: a mark, a sign if wanted, digits. -/
def isExponent : List Char → Bool
  | [] => true
  | mark :: '+' :: digits => (mark == 'e' || mark == 'E') && Text.areDigits digits
  | mark :: '-' :: digits => (mark == 'e' || mark == 'E') && Text.areDigits digits
  | mark :: digits => (mark == 'e' || mark == 'E') && Text.areDigits digits

/-- Whether the characters are what may follow the whole part of a number. -/
def isFractionAndExponent : List Char → Bool
  | '.' :: rest =>
      Text.areDigits (rest.takeWhile Char.isDigit) && isExponent (rest.dropWhile Char.isDigit)
  | cs => isExponent cs

/-- An unsigned number. -/
def unsigned? (negative : Bool) (cs : List Char) : Option Json :=
  let whole := cs.takeWhile Char.isDigit
  let rest := cs.dropWhile Char.isDigit
  if isWhole whole && isFractionAndExponent rest then
    let spelling := if negative then '-' :: cs else cs
    if !rest.isEmpty || (negative && whole == ['0']) then
      some (.decimal (String.ofList spelling))
    else if negative then some (.int (-(Text.valueOfDigits whole : Int)))
    else some (.int (Text.valueOfDigits whole))
  else none

/-- The number that a spelling denotes, if it is one. -/
def number? : List Char → Option Json
  | '-' :: cs => unsigned? true cs
  | cs => unsigned? false cs

/-- Whether a character can occur in a number. -/
def isNumberChar (c : Char) : Bool :=
  c.isDigit || c == '-' || c == '+' || c == '.' || c == 'e' || c == 'E'

/-- The constant that a word denotes. -/
def constantOfWord : List Char → Option Json
  | ['n', 'u', 'l', 'l'] => some .null
  | ['t', 'r', 'u', 'e'] => some (.bool true)
  | ['f', 'a', 'l', 's', 'e'] => some (.bool false)
  | _ => none

/-! ### Documents -/

/-- A lexeme of a document. -/
inductive Lexeme where
  | openList
  | closeList
  | openObject
  | closeObject
  | comma
  | colon
  /-- A string, with its text if it denotes one. -/
  | text (content : Option String)
  /-- A number or a constant. -/
  | scalar (value : Json)

/-- A bracket that is still open, with what it holds so far, the last element first. An object
whose keys cannot all be read holds no fields. -/
inductive Bracket where
  | list (items : List Json)
  /-- An object whose value for `key` is being read. -/
  | object (fields : Option (List (String × Json))) (key : Option String)

/-- What has to come next. -/
inductive Wanted where
  | value
  /-- The first element of a list, or its end. -/
  | firstItem
  | key
  /-- The first key of an object, or its end. -/
  | firstKey
  | colon
  /-- A comma, or the end of the innermost bracket. -/
  | separator
  /-- Nothing: the document is complete. -/
  | nothing (document : Json)

/-- A document of which some lexemes have been read. -/
structure Draft where
  brackets : List Bracket := []
  wanted : Wanted := .value

/-- A complete value takes its place in the innermost bracket. -/
def Draft.place (value : Json) : List Bracket → Draft
  | [] => ⟨[], .nothing value⟩
  | .list items :: rest => ⟨.list (value :: items) :: rest, .separator⟩
  | .object fields key :: rest =>
      let fields := do
        let fields ← fields
        let key ← key
        pure ((key, value) :: fields)
      ⟨.object fields none :: rest, .separator⟩

/-- The document of an object that is complete. -/
def objectOf : Option (List (String × Json)) → Json
  | some fields => .object fields.reverse
  | none => .unreadable

/-- The document of a string. -/
def stringOf : Option String → Json
  | some text => .str text
  | none => .unreadable

/-- One more lexeme of the document. -/
def Draft.add (draft : Draft) (lexeme : Lexeme) : Option Draft :=
  match draft.wanted, lexeme, draft.brackets with
  | .value, .scalar value, brackets => some (Draft.place value brackets)
  | .firstItem, .scalar value, brackets => some (Draft.place value brackets)
  | .value, .text content, brackets => some (Draft.place (stringOf content) brackets)
  | .firstItem, .text content, brackets => some (Draft.place (stringOf content) brackets)
  | .value, .openList, brackets => some ⟨.list [] :: brackets, .firstItem⟩
  | .firstItem, .openList, brackets => some ⟨.list [] :: brackets, .firstItem⟩
  | .value, .openObject, brackets => some ⟨.object (some []) none :: brackets, .firstKey⟩
  | .firstItem, .openObject, brackets => some ⟨.object (some []) none :: brackets, .firstKey⟩
  | .firstItem, .closeList, .list items :: rest => some (Draft.place (.list items.reverse) rest)
  | .separator, .closeList, .list items :: rest => some (Draft.place (.list items.reverse) rest)
  | .separator, .comma, .list items :: rest => some ⟨.list items :: rest, .value⟩
  | .firstKey, .closeObject, .object fields _ :: rest => some (Draft.place (objectOf fields) rest)
  | .separator, .closeObject, .object fields _ :: rest => some (Draft.place (objectOf fields) rest)
  | .separator, .comma, .object fields key :: rest => some ⟨.object fields key :: rest, .key⟩
  | .firstKey, .text content, .object fields _ :: rest =>
      some ⟨.object fields content :: rest, .colon⟩
  | .key, .text content, .object fields _ :: rest => some ⟨.object fields content :: rest, .colon⟩
  | .colon, .colon, brackets => some ⟨brackets, .value⟩
  | _, _, _ => none

/-! ### Characters -/

/-- What the characters read last belong to. -/
inductive Pending where
  | nothing
  /-- A string, with its elements so far, the last one first. -/
  | string (units : List StringUnit)
  /-- A backslash in a string. -/
  | escape (units : List StringUnit)
  /-- A code unit in a string: how many digits are missing and the value of those read. -/
  | code (units : List StringUnit) (missing value : Nat)
  /-- A number, with its characters so far, the last one first. -/
  | number (read : List Char)
  /-- A constant, with its characters so far, the last one first. -/
  | word (read : List Char)

/-- A document of which some characters have been read. -/
structure Reader where
  draft : Draft := {}
  pending : Pending := .nothing

/-- A character outside of strings, numbers and constants: a blank, a lexeme of its own, or the
start of a longer one. -/
def Draft.start (draft : Draft) (c : Char) : Option Reader :=
  let lexeme (lexeme : Lexeme) := (draft.add lexeme).map fun draft => ⟨draft, .nothing⟩
  if c == ' ' || c == '\t' || c == '\n' || c == '\r' then some ⟨draft, .nothing⟩
  else if c == '[' then lexeme .openList
  else if c == ']' then lexeme .closeList
  else if c == '\x7b' then lexeme .openObject
  else if c == '\x7d' then lexeme .closeObject
  else if c == ',' then lexeme .comma
  else if c == ':' then lexeme .colon
  else if c == '"' then some ⟨draft, .string []⟩
  else if c.isDigit || c == '-' then some ⟨draft, .number [c]⟩
  else if c.isLower then some ⟨draft, .word [c]⟩
  else none

/-- One more character of the document. -/
def Reader.feed (reader : Reader) (c : Char) : Option Reader :=
  match reader.pending with
  | .nothing => reader.draft.start c
  | .string units =>
      if c == '"' then do
        let text := (textOfUnits units.reverse).map String.ofList
        pure ⟨← reader.draft.add (.text text), .nothing⟩
      else if c == '\\' then some ⟨reader.draft, .escape units⟩
      else if c.toNat < 0x20 then none
      else some ⟨reader.draft, .string (.char c :: units)⟩
  | .escape units =>
      if c == 'u' then some ⟨reader.draft, .code units 4 0⟩
      else (shortEscape c).map fun meant => ⟨reader.draft, .string (.char meant :: units)⟩
  | .code units missing value =>
      (hexValue c).map fun digit =>
        if missing ≤ 1 then ⟨reader.draft, .string (.code (16 * value + digit) :: units)⟩
        else ⟨reader.draft, .code units (missing - 1) (16 * value + digit)⟩
  | .number read =>
      if isNumberChar c then some ⟨reader.draft, .number (c :: read)⟩
      else do (← reader.draft.add (.scalar (← number? read.reverse))).start c
  | .word read =>
      if c.isLower then some ⟨reader.draft, .word (c :: read)⟩
      else do (← reader.draft.add (.scalar (← constantOfWord read.reverse))).start c

/-- All characters of a text, one after the other. -/
def Reader.feedAll (reader : Reader) : List Char → Option Reader
  | [] => some reader
  | c :: cs =>
      match reader.feed c with
      | some next => next.feedAll cs
      | none => none

@[simp]
theorem Reader.feedAll_nil (reader : Reader) : reader.feedAll [] = some reader := rfl

/-- A text is read part by part. -/
theorem Reader.feedAll_append (reader : Reader) (cs ds : List Char) :
    reader.feedAll (cs ++ ds) = (reader.feedAll cs).bind fun next => next.feedAll ds := by
  induction cs generalizing reader with
  | nil => rfl
  | cons c cs ih =>
    simp only [List.cons_append, Reader.feedAll]
    cases reader.feed c with
    | none => rfl
    | some next => exact ih next

/-- The document that a text spells: a blank after the text ends its last lexeme, and then nothing
more may be wanted. -/
def read? (text : String) : Option Json := do
  let reader ← (← Reader.feedAll {} text.toList).feed ' '
  match reader.draft.wanted, reader.pending with
  | .nothing document, .nothing => some document
  | _, _ => none

end Workbench.Json
