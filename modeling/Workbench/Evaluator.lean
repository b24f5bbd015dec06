import Workbench.Failure
import Workbench.Text.Decimal
import Workbench.Value.Operation

/-!
Evaluation of forms. Names are looked up dynamically: in the frame of the innermost call that binds
them, then further out, down to the globals, and a name that nothing binds is null. A definition
binds in the innermost frame.

Evaluation always ends. The evaluator is given an *allowance*, the number of groups that may still
be entered one inside the other; each call and each list takes one unit of it while it is evaluated,
and the body of a function is evaluated within the allowance of the call that runs it. So the
recursion is on the allowance, whatever the program, and a program that would go deeper fails.

Print events leave the evaluator at once, through a *sink* that acts on a world which evaluation
never looks at.
-/

namespace Workbench

/-- The bindings of one call, the latest first. -/
abbrev Frame := List (String × Value)

/-- The frame that binds parameters to arguments. Of two parameters of one name the later counts. -/
def Frame.ofArguments (parameters : List String) (arguments : List Value) : Frame :=
  (parameters.zip arguments).reverse

/-- The globals of a fresh program: every builtin function under its name. -/
def Frame.standard : Frame :=
  Builtin.all.map fun builtin => (builtin.name, .builtin builtin)

/-- The frames that names are looked up in. -/
structure Scope where
  /-- The frame of the innermost call, or the globals. -/
  top : Frame
  /-- The frames around it, the innermost first. -/
  outer : List Frame := []

namespace Scope

/-- The frames, the innermost first. -/
def frames (scope : Scope) : List Frame := scope.top :: scope.outer

/-- The value of a name in the innermost frame that binds it. -/
def lookup (scope : Scope) (name : String) : Value :=
  (scope.frames.findSome? fun frame => List.lookup name frame).getD .null

/-- The scope in which the innermost frame binds a name to a value. -/
def define (scope : Scope) (name : String) (value : Value) : Scope :=
  { scope with top := (name, value) :: scope.top }

/-- The scope inside a call. -/
def enter (scope : Scope) (frame : Frame) : Scope := ⟨frame, scope.frames⟩

/-- The scope after the call that it is inside of. -/
def leave (scope : Scope) : Scope :=
  match scope.outer with
  | top :: outer => ⟨top, outer⟩
  | [] => scope

/-- A call that is left leaves the scope as it was before. -/
@[simp]
theorem leave_enter (scope : Scope) (frame : Frame) : (scope.enter frame).leave = scope := rfl

end Scope

/-- What evaluation reads and changes, where print events act on a world of type `ω`. -/
structure Machine (ω : Type) where
  scope : Scope
  /-- The stamp of the next function that is made. -/
  stamp : Nat := 0
  /-- What a print event does to the world. -/
  sink : List Value → ω → ω
  world : ω

/-- The limits of evaluation. -/
structure Bounds where
  /-- How many calls of functions made by the program may be nested. -/
  calls : Nat := 256
  /-- How many groups may be under evaluation at once. -/
  nesting : Nat := 320
  deriving DecidableEq

/-- A step of evaluation: it changes the machine and ends with an answer or a failure. -/
abbrev Eval (ω : Type) := ExceptT Failure (StateM (Machine ω))

namespace Eval

variable {ω : Type}

/-- The program is at fault. -/
def fault {α : Type} (cause : Fault) : Eval ω α := throw (.fault cause none)

/-- The answer of something that may be at fault. -/
def ofExcept {α : Type} : Except Fault α → Eval ω α
  | .ok a => pure a
  | .error cause => fault cause

/-- The text of a string literal: what stands between its quotes. A spelling that does not stand
between quotes is its own text. -/
def unquote (spelling : String) : String :=
  match spelling.toList with
  | '"' :: rest => if rest.getLast? = some '"' then String.ofList rest.dropLast else spelling
  | _ => spelling

/-- The value of a number literal. -/
def numberOf (token : Token) : Except Fault Value :=
  match (Text.integer? token.value.toList).bind Value.narrow? with
  | some number => .ok (.int number)
  | none => .error (.invalidNumber token.value token.start)

/-- The names of parameters. The first one that is not a word is at fault. -/
def parameterNames : List Form → Except Fault (List String)
  | [] => .ok []
  | .word token :: rest => (parameterNames rest).map (token.value :: ·)
  | form :: _ => .error (.parameterNotAWord form.kind)

/-- The value of a name. -/
def lookup (name : String) : Eval ω Value := do
  return (← get).scope.lookup name

/-- Binds a name in the innermost frame. -/
def define (name : String) (value : Value) : Eval ω Unit :=
  modify fun machine => { machine with scope := machine.scope.define name value }

/-- A new function. -/
def makeFunction (parameters : List String) (body : Form) : Eval ω Value := do
  let machine ← get
  set { machine with stamp := machine.stamp + 1 }
  return .function machine.stamp parameters body

/-- Raises a print event, which reaches the world before evaluation goes on. -/
def raise (values : List Value) : Eval ω Unit :=
  modify fun machine => { machine with world := machine.sink values machine.world }

/-- A call of a builtin function: its print event comes before its answer. -/
def callBuiltin (builtin : Builtin) (arguments : List Value) : Eval ω Value :=
  match builtin.event arguments with
  | some values => do
      raise values
      ofExcept (builtin.answer arguments)
  | none => ofExcept (builtin.answer arguments)

/-- Evaluates a body in a frame of its own, which is gone afterwards, whatever the outcome. -/
def inFrame (frame : Frame) (body : Eval ω Value) : Eval ω Value := fun machine =>
  let (outcome, after) := body { machine with scope := machine.scope.enter frame }
  (outcome, { after with scope := after.scope.leave })

/-- Fails if as many calls are nested as may be. -/
def checkCalls (bounds : Bounds) : Eval ω Unit := do
  let machine ← get
  if bounds.calls < machine.scope.frames.length then throw (.callDepth bounds.calls) else pure ()

/-! ### Calls

What follows is given the evaluation of the forms inside as an argument, `inside`. -/

/-- Applies a value to arguments. Null can be called with anything and answers null. -/
def apply (bounds : Bounds) (inside : Form → Eval ω Value) (callee : Value)
    (arguments : List Value) : Eval ω Value :=
  match callee with
  | .builtin builtin => callBuiltin builtin arguments
  | .function _ parameters body =>
      if arguments.length ≠ parameters.length then
        fault (.argumentCount arguments.length parameters.length)
      else do
        checkCalls bounds
        inFrame (Frame.ofArguments parameters arguments) (inside body)
  | .null => pure .null
  | value => fault (.notCallable value.kind)

/-- The values of forms, from left to right. -/
def evalAll (inside : Form → Eval ω Value) : List Form → Eval ω (List Value)
  | [] => pure []
  | form :: rest => do
      let value ← inside form
      return value :: (← evalAll inside rest)

/-- The value of the last of some forms, which are evaluated from left to right; null if there are
none. -/
def evalLast (inside : Form → Eval ω Value) (last : Value) : List Form → Eval ω Value
  | [] => pure last
  | form :: rest => do evalLast inside (← inside form) rest

/-- A definition, given all parts of its form. -/
def evalDefinition (inside : Form → Eval ω Value) : List Form → Eval ω Value
  | [_, .word token, form] => do
      define token.value (← inside form)
      return .null
  | [_, form, _] => fault (.definitionOf form.kind)
  | items => fault (.definitionSize items.length)

/-- A conditional, given all parts of its form. -/
def evalConditional (inside : Form → Eval ω Value) : List Form → Eval ω Value
  | [_, condition, consequent] => do
      if (← inside condition).isTruthy then inside consequent else return .null
  | [_, condition, consequent, alternative] => do
      if (← inside condition).isTruthy then inside consequent else inside alternative
  | items => fault (.conditionalSize items.length)

/-- A call of the value of the first form. -/
def evalApplication (bounds : Bounds) (inside : Form → Eval ω Value) (head : Form)
    (rest : List Form) : Eval ω Value := do
  let callee ← inside head
  let arguments ← evalAll inside rest
  apply bounds inside callee arguments

/-- A group in parentheses. An empty one is null, and one that holds nothing but a function is that
function. The words of the language mark the special forms, whatever they are bound to. -/
def evalCall (bounds : Bounds) (inside : Form → Eval ω Value) : List Form → Eval ω Value
  | [] => pure .null
  | [.function token parameters body] => inside (.function token parameters body)
  | .word token :: rest =>
      if token.value = "define" ∨ token.value = "def" then
        evalDefinition inside (.word token :: rest)
      else if token.value = "if" then evalConditional inside (.word token :: rest)
      else if token.value = "do" then evalLast inside .null rest
      else evalApplication bounds inside (.word token) rest
  | head :: rest => evalApplication bounds inside head rest

/-- The value of a form, within the allowance. -/
def eval (bounds : Bounds) : (allowance : Nat) → Form → Eval ω Value
  | _, .word token => lookup token.value
  | _, .boolean token => pure (.bool (token.value = "true"))
  | _, .string token => pure (.str (unquote token.value))
  | _, .number token => ofExcept (numberOf token)
  | _, .function _ parameters body => do
      makeFunction (← ofExcept (parameterNames parameters)) body
  | 0, .list _ => throw (.nesting bounds.nesting)
  | 0, .call _ => throw (.nesting bounds.nesting)
  | allowance + 1, .list items => do return .list (← evalAll (eval bounds allowance) items)
  | allowance + 1, .call items => evalCall bounds (eval bounds allowance) items

/-- The value of a top-level form. A fault in it is reported with the place where the form ends. -/
def evalTop (bounds : Bounds) (form : Form) : Eval ω Value := fun machine =>
  let (outcome, after) := eval bounds bounds.nesting form machine
  (outcome.mapError (Failure.endingAt form.lastPlace), after)

/-- The value of a program: of its last top-level form, after all others. -/
def evalProgram (bounds : Bounds) : Form → Eval ω Value
  | .call forms => evalLast (evalTop bounds) .null forms
  | form => evalLast (evalTop bounds) .null [form]

end Eval

/-! ### An evaluator that is kept -/

/-- The sink that keeps print events, in order. -/
def record (values : List Value) (events : Array (List Value)) : Array (List Value) :=
  events.push values

/-- The machine that keeps its print events, at the start of a program among the given globals. -/
def Machine.recording (globals : Frame) : Machine (Array (List Value)) :=
  { scope := { top := globals }, sink := record, world := #[] }

/-- The outcome of one evaluation, with the print events that it raised. -/
structure Outcome where
  result : Except Failure Value
  events : List (List Value)

/-- Evaluates, and hands the print events over. -/
def Machine.perform (machine : Machine (Array (List Value)))
    (step : Eval (Array (List Value)) Value) : Outcome × Machine (Array (List Value)) :=
  let (result, after) := step.run { machine with world := #[] }
  (⟨result, after.world.toList⟩, { after with world := #[] })

end Workbench
