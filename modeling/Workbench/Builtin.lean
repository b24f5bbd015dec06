/-!
The builtin functions by name. What they do to values is in `Workbench.Value.Operation`.
-/

namespace Workbench

/-- The functions that every program can use. -/
inductive Builtin where
  | add
  | subtract
  | multiply
  | divide
  | equal
  | notEqual
  | less
  | greater
  | concat
  | length
  | list
  | head
  | tail
  | nth
  | print
  | debug
  deriving DecidableEq, Inhabited

namespace Builtin

/-- The name to which a builtin function is bound. -/
def name : Builtin → String
  | .add => "+"
  | .subtract => "-"
  | .multiply => "*"
  | .divide => "/"
  | .equal => "=="
  | .notEqual => "!="
  | .less => "<"
  | .greater => ">"
  | .concat => "str"
  | .length => "len"
  | .list => "list"
  | .head => "head"
  | .tail => "tail"
  | .nth => "nth"
  | .print => "print"
  | .debug => "debug"

/-- Every builtin function, in the order in which they are listed to users. -/
def all : List Builtin :=
  [.add, .subtract, .multiply, .divide, .equal, .notEqual, .less, .greater, .concat, .length, .list,
   .head, .tail, .nth, .print, .debug]

/-- The builtin function of a name. -/
def ofName? (name : String) : Option Builtin :=
  all.find? fun builtin => builtin.name = name

/-- A builtin function is found under its name. -/
theorem ofName?_name (builtin : Builtin) : ofName? builtin.name = some builtin := by
  cases builtin <;> decide

/-- Builtin functions have names of their own. -/
theorem name_injective {a b : Builtin} (h : a.name = b.name) : a = b := by
  have := ofName?_name a
  rw [h, ofName?_name b] at this
  exact (Option.some.inj this).symm

end Builtin

end Workbench
