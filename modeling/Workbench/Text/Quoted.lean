import Workbench.Text.Extending
import Workbench.Text.Hidden
import Workbench.Text.Ignorable

/-!
Quoted text: the form in which a text is shown to a programmer. It stands between double quotes,
and each character is written on its own: the quote, the backslash and the usual controls by a
backslash and one letter, a character that cannot be seen by its code point, and any other
character as itself.
-/

namespace Workbench.Text

namespace Quoted

/-- The code point of a character, as a backslash, `u` and lower-case hexadecimal digits in
braces. -/
def codePoint (c : Char) : List Char :=
  ['\\', 'u', '\x7b'] ++ Nat.toDigits 16 c.toNat ++ ['\x7d']

/-- One character as it stands inside the quotes. -/
def escape (c : Char) : List Char :=
  if c = '\x00' then ['\\', '0']
  else if c = '\t' then ['\\', 't']
  else if c = '\r' then ['\\', 'r']
  else if c = '\n' then ['\\', 'n']
  else if c = '"' then ['\\', '"']
  else if c = '\\' then ['\\', '\\']
  else if isExtending c || isHidden c || isIgnorable c then codePoint c
  else [c]

/-- The characters of a text, escaped one by one, between double quotes. -/
def encode (cs : List Char) : List Char :=
  '"' :: (cs.flatMap escape ++ ['"'])

@[simp]
theorem encode_nil : encode [] = ['"', '"'] := rfl

end Quoted

/-- A text in quoted form. -/
def quoted (s : String) : String :=
  String.ofList (Quoted.encode s.toList)

/-- The characters of a quoted text are its encoding. -/
@[simp]
theorem toList_quoted (s : String) : (quoted s).toList = Quoted.encode s.toList := by
  simp [quoted]

end Workbench.Text
