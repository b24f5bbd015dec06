import Workbench.Engine.Status
import Workbench.Program

/-!
Engines: what a session runs programs with. An engine is set up once before it is used, and a setup
may take some time; then it executes and inspects source texts. What an engine does may depend on
how often it has done it before, and both a setup and an execution may crash.
-/

namespace Workbench

/-- A crash, with its text if it has one. -/
structure Crash where
  text : Option String
  deriving DecidableEq

/-- What is reported of a crash. -/
def Crash.message (crash : Crash) : String :=
  crash.text.getD "unknown panic payload"

namespace Engine

/-- Why an engine did not become ready. -/
inductive InitError where
  /-- The setup failed. -/
  | setup (reason : String)
  /-- The setup crashed. -/
  | crashed (crash : Crash)
  /-- The engine was shut down. -/
  | shutDown
  deriving DecidableEq

/-- What went wrong, in words. -/
def InitError.message : InitError → String
  | .setup reason => "engine setup failed: " ++ reason
  | .crashed crash => "engine panicked during initialization: " ++ crash.message
  | .shutDown => "engine was shut down"

/-- A setup: it is not done the first times it is looked at, as often as the delay says, and then it
has a result. -/
structure Setup where
  delay : Nat := 0
  result : Except InitError Unit := .ok ()

/-- Why a source text could not be executed or inspected. -/
inductive ExecutionError where
  /-- The program failed. -/
  | program (failure : Failure)
  /-- The engine crashed. -/
  | crashed (crash : Crash)
  /-- The engine refused for a reason of its own. -/
  | refused (reason : String)
  deriving DecidableEq

/-- What went wrong, in words. -/
def ExecutionError.message : ExecutionError → String
  | .program failure => failure.message
  | .crashed crash => "engine panicked: " ++ crash.message
  | .refused reason => reason

/-- An execution: its print events, in order, and how it ended. -/
structure Execution where
  events : List (List Value)
  outcome : Except ExecutionError Program.Output

end Engine

/-- An engine. -/
structure Engine where
  name : String := "engine"
  /-- The setup that follows the given number of earlier ones. -/
  setup : Nat → Engine.Setup
  /-- The execution of a source text that follows the given number of earlier ones. -/
  execute : Nat → String → Engine.Execution
  /-- The tokens and the form of a source text. -/
  inspect : String → Except Engine.ExecutionError (List Token × Form)

namespace Engine

/-- The setup of the engine for the language: there is nothing to do but to refuse limits of zero. -/
def lispSetup (limits : Limits) : Setup :=
  if limits.callDepth = 0 ∨ limits.nestingDepth = 0 then
    { result := .error (.setup "engine limits must be at least 1") }
  else {}

/-- A run of a program as an execution. -/
def executionOf (run : Program.Run) : Execution :=
  ⟨run.events, run.outcome.mapError .program⟩

/-- The engine for the language of this library. -/
def lisp (limits : Limits) : Engine where
  name := "alc"
  setup _ := lispSetup limits
  execute _ source := executionOf (Program.run limits source)
  inspect source := (Program.read limits source).mapError .program

/-! ### Scripted engines -/

/-- How a planned execution goes on after its own print event. -/
inductive Plan.Course where
  /-- With the program. -/
  | program
  | refuse (reason : String)
  | crash (crash : Crash)

/-- A planned execution. -/
structure Plan where
  /-- The values of a print event that comes first, if there is one. -/
  print : Option (List Value) := none
  course : Plan.Course := .program

/-- The planned execution of a source text. -/
def Plan.execution (limits : Limits) (source : String) (plan : Plan) : Execution :=
  let rest : Execution := match plan.course with
    | .program => executionOf (Program.run limits source)
    | .refuse reason => ⟨[], .error (.refused reason)⟩
    | .crash crash => ⟨[], .error (.crashed crash)⟩
  { rest with events := plan.print.toList ++ rest.events }

/-- An engine that follows plans for its setups and executions, each in order, and does what the
engine for the language does when there is no plan. -/
def scripted (limits : Limits) (setups : List Setup) (plans : List Plan) : Engine where
  setup earlier := setups[earlier]?.getD (lispSetup limits)
  execute earlier source := (plans[earlier]?.getD {}).execution limits source
  inspect source := (Program.read limits source).mapError .program

end Engine

end Workbench
