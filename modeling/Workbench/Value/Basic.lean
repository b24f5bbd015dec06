import Workbench.Builtin
import Workbench.Form.Basic

/-!
Values: what programs compute. Integers are those of 64 bits. A function that a program makes has a
stamp of its own, and two functions are the same only if their stamps are: making a function twice
from the same text gives two functions.
-/

namespace Workbench

/-- A value. -/
inductive Value where
  | null
  | bool (flag : Bool)
  | int (number : Int64)
  | str (text : String)
  | list (items : List Value)
  /-- A function made by a program. The stamp tells it from every other one. -/
  | function (stamp : Nat) (parameters : List String) (body : Form)
  | builtin (name : Builtin)
  deriving Inhabited

namespace Value

/-- The kinds of values. -/
inductive Kind where
  | null
  | boolean
  | number
  | string
  | list
  | function
  | builtin
  deriving DecidableEq

/-- The name of a kind in messages. -/
def Kind.name : Kind → String
  | .null => "null"
  | .boolean => "boolean"
  | .number => "number"
  | .string => "string"
  | .list => "list"
  | .function => "function"
  | .builtin => "builtin"

/-- The kind of a value. -/
def kind : Value → Kind
  | .null => .null
  | .bool _ => .boolean
  | .int _ => .number
  | .str _ => .string
  | .list _ => .list
  | .function .. => .function
  | .builtin _ => .builtin

/-- Whether a condition holds that has this value: zero, nothing and what is empty do not. -/
def isTruthy : Value → Bool
  | .null => false
  | .bool flag => flag
  | .int number => number ≠ 0
  | .str text => !text.isEmpty
  | .list items => !items.isEmpty
  | .function .. => true
  | .builtin _ => true

/-- The contents of a text. -/
def text? : Value → Option String
  | .str text => some text
  | _ => none

mutual

/-- Whether two values are the same. -/
def same : Value → Value → Bool
  | .null, .null => true
  | .bool a, .bool b => a == b
  | .int a, .int b => a == b
  | .str a, .str b => a == b
  | .list as, .list bs => sameAll as bs
  | .function a _ _, .function b _ _ => a == b
  | .builtin a, .builtin b => a == b
  | _, _ => false

/-- Whether two sequences have the same length and the same values in each place. -/
def sameAll : List Value → List Value → Bool
  | [], [] => true
  | a :: as, b :: bs => a.same b && sameAll as bs
  | _, _ => false

end

mutual

/-- How deeply lists are nested in a value. -/
def depth : Value → Nat
  | .list items => 1 + depthAll items
  | _ => 0

/-- The greatest depth among some values. -/
def depthAll : List Value → Nat
  | [] => 0
  | item :: rest => max item.depth (depthAll rest)

end

/-- The least integer of 64 bits: `-2 ^ 63`. -/
def minInt : Int := -9223372036854775808

/-- The greatest integer of 64 bits: `2 ^ 63 - 1`. -/
def maxInt : Int := 9223372036854775807

/-- An integer as one of 64 bits, if it fits. -/
def narrow? (n : Int) : Option Int64 :=
  if minInt ≤ n ∧ n ≤ maxInt then some (Int64.ofInt n) else none

/-- An integer that fits into 64 bits is kept exactly. -/
theorem toInt_of_narrow? {n : Int} {m : Int64} (h : narrow? n = some m) : m.toInt = n := by
  unfold narrow? at h
  split at h
  · rename_i hn
    cases h
    exact Int64.toInt_ofInt_of_le (by simpa [minInt] using hn.1)
      (by have := hn.2; unfold maxInt at this; omega)
  · cases h

/-- An integer of 64 bits fits. -/
theorem narrow?_toInt (m : Int64) : narrow? m.toInt = some m := by
  have hmin : minInt ≤ m.toInt := by
    have := m.le_toInt
    unfold minInt
    omega
  have hmax : m.toInt ≤ maxInt := by
    have := m.toInt_lt
    unfold maxInt
    omega
  rw [narrow?, if_pos ⟨hmin, hmax⟩, Int64.ofInt_toInt]

end Value

end Workbench
