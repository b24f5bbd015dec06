import Workbench.Text.Blank
import Workbench.Text.Numeral
import Workbench.Token.Basic

/-!
Cutting a source text into tokens. The first character of a token and what follows it decide two
things, the token's kind and how many further characters belong to it; all else is counting. Every
character is a blank between tokens or belongs to exactly one token, so there is no text that cannot
be cut: what has no place in the language becomes a token of unknown kind.
-/

namespace Workbench.Token

/-- The marks that count as letters of a word. -/
def isSymbol (c : Char) : Bool :=
  ['+', '-', '*', '/', '=', '<', '>', '!', '?', '_', '&', '%'].contains c

/-- Whether a word can start with the character. -/
def isWordStart (c : Char) : Bool :=
  Text.isAlphabetic c || isSymbol c

/-- Whether a word can go on with the character. -/
def isWordPart (c : Char) : Bool :=
  Text.isAlphanumeric c || isSymbol c

/-- The kind of a bracket or quote that is a token by itself. -/
def Kind.ofDelimiter? : Char → Option Kind
  | '(' => some .leftParen
  | ')' => some .rightParen
  | '[' => some .leftSquare
  | ']' => some .rightSquare
  | '\'' => some .singleQuote
  | _ => none

/-- How many of the first characters satisfy a test. -/
def countWhile (test : Char → Bool) (cs : List Char) : Nat :=
  (cs.takeWhile test).length

/-- Whether a number starts here: a decimal digit, or a minus sign right before one. -/
def startsNumber (c : Char) (cs : List Char) : Bool :=
  c.isDigit || (c == '-' && (cs.head?.map Char.isDigit).getD false)

/-- The kind of the token that starts with `c`, where `cs` follows, and how many characters of `cs`
belong to it. A string without a closing quote is of unknown kind and takes all that is left. -/
def classify (c : Char) (cs : List Char) : Kind × Nat :=
  match Kind.ofDelimiter? c with
  | some kind => (kind, 0)
  | none =>
      if c = '"' then
        let inside := countWhile (· ≠ '"') cs
        if inside < cs.length then (.string, inside + 1) else (.unknown, inside)
      else if c = ';' then (.comment, countWhile (· ≠ '\n') cs)
      else if startsNumber c cs then (.number, countWhile Text.isAlphanumeric cs)
      else if isWordStart c then (.word, countWhile isWordPart cs)
      else (.unknown, 0)

/-- The token with the given spelling that starts at `p`. -/
def spelled (p : Position) (kind : Kind) (spelling : List Char) : Token :=
  ⟨String.ofList spelling, kind, p, p.afterAll spelling.dropLast⟩

/-- The tokens of a text that starts at `p` and whose first `held` characters belong to a token that
has been made already. -/
def scan (p : Position) (held : Nat) : List Char → List Token
  | [] => []
  | c :: cs =>
      match held with
      | more + 1 => scan (p.after c) more cs
      | 0 =>
          if Text.isBlank c then scan (p.after c) 0 cs
          else
            let (kind, more) := classify c cs
            spelled p kind (c :: cs.take more) :: scan (p.after c) more cs

/-- The tokens of a source text. -/
def tokenize (source : String) : List Token :=
  scan .first 0 source.toList

/-- Characters that belong to a token that has been made only move the place forward. -/
theorem scan_held (p : Position) (held : Nat) (cs : List Char) :
    scan p held cs = scan (p.afterAll (cs.take held)) 0 (cs.drop held) := by
  induction cs generalizing p held with
  | nil => cases held <;> rfl
  | cons c cs ih =>
    cases held with
    | zero => rfl
    | succ more => exact ih (p.after c) more

/-- A decimal digit is a letter or a numeral. -/
theorem isAlphanumeric_of_isDigit (c : Char) (h : c.isDigit = true) :
    Text.isAlphanumeric c = true := by
  have hascii : c.toNat < 0x80 := by
    simp only [Char.isDigit, ge_iff_le, Bool.and_eq_true, decide_eq_true_eq] at h
    have := UInt32.le_iff_toNat_le.mp h.2
    exact Nat.lt_of_le_of_lt this (by decide)
  simp [Text.isAlphanumeric, Text.isNumeral, hascii, h]

/-- A word can go on with a decimal digit. -/
theorem isWordPart_of_isDigit (c : Char) (h : c.isDigit = true) : isWordPart c = true := by
  simp [isWordPart, isAlphanumeric_of_isDigit c h]

end Workbench.Token
