import Workbench.Builtin
import Workbench.Value.Basic

/-!
Faults: what can go wrong while a program is evaluated, apart from its running into a limit. A fault
is a cause with the data it concerns; its wording is in one place.
-/

namespace Workbench

/-- What a builtin function wants of an argument. -/
inductive Fault.Wanted where
  | number
  | list
  | stringOrList
  deriving DecidableEq

/-- What is wanted, in words. -/
def Fault.Wanted.name : Fault.Wanted → String
  | .number => "number"
  | .list => "list"
  | .stringOrList => "string or list"

/-- Why a program cannot be evaluated further. -/
inductive Fault where
  /-- A number that is not a decimal integer of 64 bits. -/
  | invalidNumber (spelling : String) (place : Position)
  /-- A function whose parameter is not a word. -/
  | parameterNotAWord (found : Form.Kind)
  /-- A definition that does not have three parts. -/
  | definitionSize (found : Nat)
  /-- A definition of something that is not a word. -/
  | definitionOf (found : Form.Kind)
  /-- A conditional that has neither three nor four parts. -/
  | conditionalSize (found : Nat)
  /-- A function called with the wrong number of arguments. -/
  | argumentCount (found wanted : Nat)
  /-- A call of something that is not a function. -/
  | notCallable (found : Value.Kind)
  /-- A builtin function called with the wrong number of arguments. -/
  | builtinCount (builtin : Builtin) (found wanted : Nat)
  /-- A builtin function called with an argument it does not take. -/
  | builtinArgument (builtin : Builtin) (wanted : Fault.Wanted) (found : Value.Kind)
  /-- A result that is not an integer of 64 bits. -/
  | overflow (builtin : Builtin)
  | divisionByZero
  deriving DecidableEq

/-- What is wrong, in words. -/
def Fault.message : Fault → String
  | .invalidNumber spelling place =>
      "invalid number literal '" ++ spelling ++ "' at " ++ place.render
  | .parameterNotAWord found => "function argument must be a word, got " ++ found.name
  | .definitionSize found =>
      "invalid amount of arguments to define, got: " ++ toString found ++ " expected: 3"
  | .definitionOf found => "invalid name for define: " ++ found.name ++ " should be a word"
  | .conditionalSize found => "invalid amount of arguments to 'if', got: " ++ toString found
  | .argumentCount found wanted =>
      "invalid number of arguments passed into function, got " ++ toString found ++ " expected "
        ++ toString wanted
  | .notCallable found => "cannot call value of type " ++ found.name
  | .builtinCount builtin found wanted =>
      "invalid number of arguments for function '" ++ builtin.name ++ "': got: " ++ toString found
        ++ " expected: " ++ toString wanted
  | .builtinArgument builtin wanted found =>
      "invalid argument type for function '" ++ builtin.name ++ "': expected " ++ wanted.name
        ++ ", got " ++ found.name
  | .overflow builtin => "integer overflow in '" ++ builtin.name ++ "'"
  | .divisionByZero => "division by zero"

end Workbench
