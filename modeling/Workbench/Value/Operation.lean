import Workbench.Fault
import Workbench.Value.Render

/-!
What the builtin functions answer and what they print. Arithmetic is exact: an argument that is not
an integer is refused before anything is computed, and a step whose exact result does not fit into
64 bits is a fault. Comparisons look at every two neighbours.
-/

namespace Workbench.Builtin

/-! ### Arithmetic -/

/-- The arguments as integers. The first one that is not an integer is at fault. -/
def integers (builtin : Builtin) : List Value → Except Fault (List Int64)
  | [] => .ok []
  | .int number :: rest => (integers builtin rest).map (number :: ·)
  | value :: _ => .error (.builtinArgument builtin .number value.kind)

/-- An exact result, if it fits. -/
def exact (builtin : Builtin) (n : Int) : Except Fault Int64 :=
  match Value.narrow? n with
  | some number => .ok number
  | none => .error (.overflow builtin)

/-- An operation from left to right over some integers, each step of which has to fit. -/
def accumulate (builtin : Builtin) (operation : Int → Int → Int) (total : Int64) :
    List Int64 → Except Fault Int64
  | [] => .ok total
  | number :: rest => do
      let total ← exact builtin (operation total.toInt number.toInt)
      accumulate builtin operation total rest

/-- Quotients from left to right, each rounded toward zero. -/
def quotients (total : Int64) : List Int64 → Except Fault Int64
  | [] => .ok total
  | number :: rest =>
      if number = 0 then .error .divisionByZero
      else do
        let total ← exact .divide (total.toInt.tdiv number.toInt)
        quotients total rest

/-- The difference of the first integer and all others; a single one is negated. -/
def differences : List Int64 → Except Fault Int64
  | [] => .error (.builtinCount .subtract 0 1)
  | [number] => exact .subtract (-number.toInt)
  | number :: rest => accumulate .subtract (· - ·) number rest

/-! ### Comparison -/

/-- Whether a relation holds between every two neighbours. -/
def chained (relation : Value → Value → Bool) : List Value → Bool
  | a :: b :: rest => relation a b && chained relation (b :: rest)
  | _ => true

/-- Whether both are integers and the first is less. -/
def lessThan : Value → Value → Bool
  | .int a, .int b => decide (a < b)
  | _, _ => false

/-- A comparison of at least one argument. -/
def compared (builtin : Builtin) (holds : List Value → Bool) : List Value → Except Fault Value
  | [] => .error (.builtinCount builtin 0 2)
  | arguments => .ok (.bool (holds arguments))

/-! ### Texts and lists -/

/-- The number of characters of a text or of elements of a list. -/
def lengthOf : List Value → Except Fault Value
  | [.str text] => .ok (.int (Int64.ofNat text.length))
  | [.list items] => .ok (.int (Int64.ofNat items.length))
  | [value] => .error (.builtinArgument .length .stringOrList value.kind)
  | arguments => .error (.builtinCount .length arguments.length 1)

/-- The elements of the only argument, which has to be a list. -/
def onlyList (builtin : Builtin) : List Value → Except Fault (List Value)
  | [.list items] => .ok items
  | [value] => .error (.builtinArgument builtin .list value.kind)
  | arguments => .error (.builtinCount builtin arguments.length 1)

/-- The element of a list at an index counted from zero, or null if there is none. -/
def element : List Value → Except Fault Value
  | [.int index, .list items] =>
      .ok (if index.toInt < 0 then .null else items[index.toInt.toNat]?.getD .null)
  | [.int _, value] => .error (.builtinArgument .nth .list value.kind)
  | [value, _] => .error (.builtinArgument .nth .number value.kind)
  | arguments => .error (.builtinCount .nth arguments.length 2)

/-! ### Calls -/

/-- What a builtin function answers. -/
def answer : Builtin → List Value → Except Fault Value
  | .add, arguments => do
      let numbers ← integers .add arguments
      return .int (← accumulate .add (· + ·) 0 numbers)
  | .subtract, arguments => do
      let numbers ← integers .subtract arguments
      return .int (← differences numbers)
  | .multiply, arguments => do
      let numbers ← integers .multiply arguments
      return .int (← accumulate .multiply (· * ·) 1 numbers)
  | .divide, arguments => do
      match ← integers .divide arguments with
      | [] => throw (.builtinCount .divide 0 2)
      | number :: rest => return .int (← quotients number rest)
  | .equal, arguments => compared .equal (chained Value.same) arguments
  | .notEqual, arguments => compared .notEqual (fun values => !chained Value.same values) arguments
  | .less, arguments => compared .less (chained lessThan) arguments
  | .greater, arguments => compared .greater (chained fun a b => lessThan b a) arguments
  | .concat, arguments => .ok (.str (String.join (arguments.map Value.render)))
  | .length, arguments => lengthOf arguments
  | .list, arguments => .ok (.list arguments)
  | .head, arguments => do return (← onlyList .head arguments).headD .null
  | .tail, arguments => do return .list (← onlyList .tail arguments).tail
  | .nth, arguments => element arguments
  | .print, _ => .ok .null
  | .debug, _ => .ok .null

/-- The values of the print event that a call of a builtin function raises, if it raises one. -/
def event : Builtin → List Value → Option (List Value)
  | .print, arguments => some arguments
  | .debug, arguments => some (arguments.map fun value => .str value.debug)
  | _, _ => none

end Workbench.Builtin
