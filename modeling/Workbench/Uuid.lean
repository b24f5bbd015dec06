/-!
Universally unique identifiers: 128 bits, written as 32 hexadecimal digits. Reading takes the digits
in either case, on their own or with hyphens after the eighth, twelfth, sixteenth and twentieth; the
form with hyphens may stand in braces or behind `urn:uuid:`, in either case too. Writing gives lower
case and hyphens.
-/

namespace Workbench

/-- An identifier, by its hexadecimal digits. -/
structure Uuid where
  digits : List (Fin 16)
  length_digits : digits.length = 32
  deriving DecidableEq

namespace Uuid

/-- The identifier made of random numbers, one for each digit: the thirteenth digit tells that it was
made so, and the seventeenth has its upper two bits fixed. -/
def ofRandom (number : Fin 32 → Nat) : Uuid where
  digits := List.ofFn fun place : Fin 32 =>
    Fin.ofNat 16 (if place.val = 12 then 4 else if place.val = 16 then 8 + number place % 4
      else number place)
  length_digits := List.length_ofFn

/-- The value of a hexadecimal digit of either case. -/
def digit? (c : Char) : Option (Fin 16) :=
  if '0' ≤ c ∧ c ≤ '9' then some (Fin.ofNat 16 (c.toNat - '0'.toNat))
  else if 'a' ≤ c ∧ c ≤ 'f' then some (Fin.ofNat 16 (c.toNat - 'a'.toNat + 10))
  else if 'A' ≤ c ∧ c ≤ 'F' then some (Fin.ofNat 16 (c.toNat - 'A'.toNat + 10))
  else none

/-- Characters with hyphens in the places where an identifier has them. -/
def hyphenate (cs : List Char) : List Char :=
  cs.take 8 ++ '-' :: ((cs.drop 8).take 4 ++ '-' :: ((cs.drop 12).take 4 ++ '-' ::
    ((cs.drop 16).take 4 ++ '-' :: cs.drop 20)))

/-- The identifier with the given digits and nothing else. -/
def ofDigits? (cs : List Char) : Option Uuid :=
  match cs.mapM digit? with
  | some digits => if h : digits.length = 32 then some ⟨digits, h⟩ else none
  | none => none

/-- The identifier with the given digits and the hyphens in their places. -/
def ofHyphenated? (cs : List Char) : Option Uuid :=
  let plain := cs.filter (· ≠ '-')
  if hyphenate plain = cs then ofDigits? plain else none

/-- The mark in front of an identifier that is written as a resource name, in lower case. -/
def resourceMark : List Char := ['u', 'r', 'n', ':', 'u', 'u', 'i', 'd', ':']

/-- The identifier that a text spells. -/
def read? (text : String) : Option Uuid :=
  let cs := text.toList
  if cs.head? = some '\x7b' ∧ cs.getLast? = some '\x7d' then ofHyphenated? (cs.drop 1).dropLast
  else if (cs.take resourceMark.length).map Char.toLower = resourceMark then
    ofHyphenated? (cs.drop resourceMark.length)
  else if cs.length = 32 then ofDigits? cs
  else ofHyphenated? cs

/-- The text of an identifier. -/
def render (uuid : Uuid) : String :=
  String.ofList (hyphenate (uuid.digits.map fun digit => Nat.digitChar digit.val))

end Uuid

end Workbench
