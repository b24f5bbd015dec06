import Workbench.Evaluator
import Workbench.Token.Lexer

/-!
Programs from source text to result. Running a program cuts its text into tokens, reads them into a
form and evaluates the form among fresh globals. What a run shows to the outside is its print
events, in order, and its outcome.
-/

namespace Workbench

/-- The limits of one run. -/
structure Limits where
  /-- How many calls of functions made by the program may be nested. -/
  callDepth : Nat := 256
  /-- How deeply brackets and functions may be nested in the source text. -/
  nestingDepth : Nat := 256
  deriving DecidableEq

/-- The limits of evaluation that the limits of a run stand for. How many groups may be under
evaluation at once is the same for all runs. -/
def Limits.bounds (limits : Limits) : Bounds := { calls := limits.callDepth }

namespace Program

/-- The version of the language. -/
def version : String := "0.1.0"

/-- What a successful run produces. -/
structure Output where
  result : Value
  tokens : List Token
  form : Form

/-- What a run shows: its print events, in order, and how it ended. -/
structure Run where
  events : List (List Value)
  outcome : Except Failure Output

/-- The tokens and the form of a source text. -/
def read (limits : Limits) (source : String) : Except Failure (List Token × Form) :=
  let tokens := Token.tokenize source
  match Form.parse limits.nestingDepth tokens with
  | .ok form => .ok (tokens, form)
  | .error error => .error (.parse error)

/-- Runs a source text among fresh globals. Its print events go to a sink, each as soon as it is
raised, and act on a world. -/
def runInto {ω : Type} (limits : Limits) (source : String) (sink : List Value → ω → ω)
    (world : ω) : Except Failure Output × ω :=
  match read limits source with
  | .error failure => (.error failure, world)
  | .ok (tokens, form) =>
      let machine : Machine ω := { scope := { top := Frame.standard }, sink := sink, world := world }
      let (result, after) := (Eval.evalProgram limits.bounds form).run machine
      (result.map fun result => ⟨result, tokens, form⟩, after.world)

/-- Runs a source text among fresh globals and keeps its print events. -/
def run (limits : Limits) (source : String) : Run :=
  let (outcome, events) := runInto limits source record #[]
  ⟨events.toList, outcome⟩

end Program

end Workbench
