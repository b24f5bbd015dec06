import Workbench.Board.Basic
import Workbench.Config
import Workbench.Engine.Host
import Workbench.Observer.Audience

/-!
Sessions: an engine, a board and the observers of print events under one configuration, and the
operations on them. Runs are numbered as they are accepted, from one. The board's own observer turns
every print event into a message; it is registered first and cannot be removed through the session.
-/

namespace Workbench

namespace Session

/-- The observers of a session. -/
inductive Observer where
  /-- The observer that turns print events into messages. -/
  | messageLog
  | guest (number : Nat)
  deriving DecidableEq

/-- The run that is in progress, and the thread it runs on. -/
structure InFlight where
  run : Nat
  thread : Nat
  deriving DecidableEq

/-! ### Outcomes -/

/-- Why there is no result of a run. -/
inductive RunError where
  /-- The engine does not accept runs. -/
  | notReady (status : Engine.Status)
  /-- Another run is in progress. -/
  | busy
  /-- The run was asked for on the thread of the run that is in progress. -/
  | reentrant (run : Nat)
  /-- The run failed. -/
  | execution (run : Nat) (error : Engine.ExecutionError)

/-- What is said about an engine that does not accept runs. -/
def notReadyMessage (status : Engine.Status) : String :=
  "engine is not ready (status: " ++ status.render ++ ")"

/-- What went wrong, in words, given the names of runs. -/
def RunError.message (name : Nat → String) : RunError → String
  | .notReady status => notReadyMessage status
  | .busy => "a run is already in progress"
  | .reentrant run => "run triggered from inside print dispatch of run " ++ name run
  | .execution run error => "run " ++ name run ++ " failed: " ++ error.message

/-- What is reported of a run that succeeded. -/
structure RunReport where
  run : Nat
  result : Value
  tokenCount : Nat
  nodeCount : Nat
  /-- How many print events were dispatched while it ran. -/
  printEvents : Nat
  /-- How many times an observer failed while it ran. -/
  observerFailures : Nat

/-! ### Views -/

/-- The contents of a board. -/
structure Snapshot where
  artifacts : Option (Board.Artifacts Nat)
  messages : List (Board.Message Nat)
  lastError : Option (Board.Diagnostic Nat)

namespace Snapshot

/-- The texts of the messages. -/
def texts (snapshot : Snapshot) : List String := snapshot.messages.map Board.Message.text

/-- The tokens of the latest successful run. -/
def tokens (snapshot : Snapshot) : List Token :=
  (snapshot.artifacts.map Board.Artifacts.tokens).getD []

/-- The form of the latest successful run. -/
def form? (snapshot : Snapshot) : Option Form := snapshot.artifacts.map Board.Artifacts.form

end Snapshot

/-- What can be seen of a session. -/
structure View where
  snapshot : Snapshot
  status : Engine.Status
  inFlight : Option InFlight
  observers : List ObserverId
  events : Nat
  failures : Nat
  attempts : Nat

/-! ### Operations -/

/-- The operations on a session. -/
inductive Op where
  | prepare
  /-- So many requests for initialization at once. -/
  | prepareMany (count : Nat)
  | run (source : String)
  /-- A run on another thread, which is waited for. -/
  | runElsewhere (source : String)
  | inspect (source : String)
  | register (observer : Observer)
  | unregister (id : ObserverId)
  /-- An operation on the registry itself. -/
  | registry (op : Registry.Op Observer)
  | append (text : String)
  | clearMessages
  | shutDown
  | subscribe
  | drain (subscriber : Nat)
  | view
  | snapshot
  | config

/-- The answers of the operations. -/
inductive Answer where
  | done
  | prepared (result : Except Engine.InitError Unit)
  | preparedMany (results : List (Except Engine.InitError Unit))
  | ran (result : Except RunError RunReport)
  | inspected (result : Except Engine.ExecutionError (List Token × Form))
  | registered (result : Except RunError ObserverId)
  | unregistered (removed : Bool)
  | registry (answer : Registry.Answer)
  | subscribed (subscriber : Nat)
  | drained (notices : List (Board.Notice (Board.Event Nat)))
  | view (view : View)
  | snapshot (snapshot : Snapshot)
  | config (config : Config)

end Session

/-- A session. -/
structure Session where
  config : Config
  engine : Engine
  host : Engine.Host := {}
  board : Board Nat
  /-- How many runs have been accepted. -/
  runs : Nat := 0
  inFlight : Option Session.InFlight := none
  audience : Audience Session.Observer Session.Op Session.Answer := {}

namespace Session

instance : HasAudience Session Observer Op Answer where
  audience := Session.audience
  withAudience session audience := { session with audience := audience }

/-- The identifier of the message log, which is registered first. -/
def messageLogId : ObserverId := ⟨1⟩

/-- A new session over an engine. There is none if the configuration asks for more change events to
be kept than can be. -/
def withEngine? (config : Config) (engine : Engine) : Option Session :=
  (Board.ofCapacity? config.eventCapacity.toNat).map fun board =>
    { config := config
      engine := engine
      board := board
      audience := { registry := (({} : Registry Observer).register .messageLog).2 } }

/-- A new session for the language of this library. -/
def new? (config : Config) : Option Session :=
  withEngine? config (Engine.lisp config.limits)

/-- The contents of the board. -/
def currentSnapshot (session : Session) : Snapshot :=
  ⟨session.board.artifacts, session.board.messages.toList, session.board.lastError⟩

/-- What can be seen of the session. -/
def currentView (session : Session) : View where
  snapshot := session.currentSnapshot
  status := session.host.status
  inFlight := session.inFlight
  observers := session.audience.registry.ids
  events := session.audience.registry.events
  failures := session.audience.registry.failures
  attempts := session.host.attempts

end Session

end Workbench
