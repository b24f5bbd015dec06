import Workbench.Session.Basic

/-!
Runs of a session, and its other operations. A request to run is refused, without any effect, if the
engine is not ready or a run is in progress. An accepted run is in progress until its outcome has
been published: its print events are dispatched one after the other, and then either its artifacts
replace the ones before, as a whole, or its failure is recorded.

Evaluation never looks at what observers do, so the print events of a run can be dispatched when
they are all known. Everything is given the dispatch of events as an argument; `dispatch` ties the
knot, with a bound on how deeply events are nested.
-/

namespace Workbench.Session

/-- A step in a session. -/
abbrev Step := Act Session

/-- Changes the board. -/
def onBoard (f : Board Nat → Board Nat) : Step Unit :=
  modify fun session => { session with board := f session.board }

/-! ### Runs -/

/-- Why a request to run on a thread is refused, if it is. -/
def refusal? (session : Session) (thread : Nat) : Option RunError :=
  if session.host.status.isReady then
    session.inFlight.map fun current =>
      if current.thread = thread then .reentrant current.run else .busy
  else some (.notReady session.host.status)

/-- The session once a request to run on a thread has been accepted. -/
def begin (session : Session) (thread : Nat) : Session :=
  let run := session.runs + 1
  { session with
    runs := run
    inFlight := some ⟨run, thread⟩
    board := { session.board with currentRun := some run } }

/-- The session when the run in progress is over. -/
def finish (session : Session) : Session :=
  { session with inFlight := none, board := { session.board with currentRun := none } }

/-- Dispatches print events one after the other. -/
def dispatchAll (dispatch : List Value → Step Registry.Report) : List (List Value) → Step Unit
  | [] => pure ()
  | values :: rest => do
      let _ ← dispatch values
      dispatchAll dispatch rest

/-- The board on which the outcome of a successful run is published: its artifacts, and its result
as a message if results are echoed. -/
def publish (echo : Bool) (run : Nat) (output : Program.Output) (board : Board Nat) : Board Nat :=
  let board := board.replaceArtifacts ⟨run, output.tokens, output.form, output.result⟩
  if echo then board.append (Value.message [output.result]) else board

/-- The run of a source text that has been accepted as the given run. -/
def execute (dispatch : List Value → Step Registry.Report) (run : Nat) (source : String) :
    Step (Except RunError RunReport) := do
  let before ← get
  let execution := before.engine.execute (run - 1) source
  dispatchAll dispatch execution.events
  let registry ← Audience.registryNow
  match execution.outcome with
  | .ok output => do
      onBoard (publish before.config.echoResult run output)
      return .ok {
        run := run
        result := output.result
        tokenCount := output.tokens.length
        nodeCount := output.form.size
        printEvents := registry.events - before.audience.registry.events
        observerFailures := registry.failures - before.audience.registry.failures }
  | .error error => do
      onBoard fun board => board.recordFailure run error.message
      return .error (.execution run error)

/-- A request to run a source text on a thread. -/
def run (dispatch : List Value → Step Registry.Report) (thread : Nat) (source : String) :
    Step (Except RunError RunReport) := do
  let session ← get
  match session.refusal? thread with
  | some error => return .error error
  | none => do
      set (session.begin thread)
      let result ← execute dispatch (session.runs + 1) source
      modify finish
      return result

/-! ### Other operations -/

/-- So many requests for initialization at once. -/
def prepareMany (count : Nat) : Step (List (Except Engine.InitError Unit)) := do
  let session ← get
  let (results, host) := session.host.prepareAll session.engine count
  set { session with host := host }
  return results

/-- A request for initialization. -/
def prepare : Step (Except Engine.InitError Unit) := do
  return (← prepareMany 1).headD (.error .shutDown)

/-- The tokens and the form of a source text, which leaves everything as it is. -/
def inspect (source : String) : Step (Except Engine.ExecutionError (List Token × Form)) := do
  let session ← get
  if session.host.status.isReady then return session.engine.inspect source
  else return .error (.refused (notReadyMessage session.host.status))

/-- Registers an observer, if the engine is ready. -/
def register (observer : Observer) : Step (Except RunError ObserverId) := do
  let session ← get
  if session.host.status.isReady then
    return .ok (← Audience.onRegistry fun registry => registry.register observer)
  else return .error (.notReady session.host.status)

/-- Removes the observer of an identifier, unless it is the message log. -/
def unregister (id : ObserverId) : Step Bool := do
  if id = messageLogId then return false
  else Audience.onRegistry fun registry => registry.unregister id

/-- Shuts the engine down and removes all observers. -/
def shutDown : Step Unit := do
  modify fun session => { session with host := session.host.shutDown }
  let _ ← Audience.onRegistry Registry.clear

/-- Performs an operation on a thread, where `dispatch` says what dispatching an event on a thread
does. -/
def Op.perform (dispatch : Nat → List Value → Step Registry.Report) (thread : Nat) :
    Op → Step Answer
  | .prepare => return .prepared (← Session.prepare)
  | .prepareMany count => return .preparedMany (← Session.prepareMany count)
  | .run source => return .ran (← Session.run (dispatch thread) thread source)
  | .runElsewhere source => return .ran (← Session.run (dispatch (thread + 1)) (thread + 1) source)
  | .inspect source => return .inspected (← Session.inspect source)
  | .register observer => return .registered (← Session.register observer)
  | .unregister id => return .unregistered (← Session.unregister id)
  | .registry op => return .registry (← op.perform (dispatch thread))
  | .append text => do
      onBoard fun board => board.append text
      return .done
  | .clearMessages => do
      onBoard Board.clearMessages
      return .done
  | .shutDown => do
      Session.shutDown
      return .done
  | .subscribe => do
      let session ← get
      let (subscriber, board) := session.board.subscribe
      set { session with board := board }
      return .subscribed subscriber
  | .drain subscriber => do
      let session ← get
      let (notices, board) := session.board.drain subscriber
      set { session with board := board }
      return .drained notices
  | .view => return .view (← get).currentView
  | .snapshot => return .snapshot (← get).currentSnapshot
  | .config => return .config (← get).config

/-! ### Events -/

/-- A call of an observer with an event, where `perform` says what operations do. -/
def callObserver (perform : Op → Step Answer) (values : List Value) : Observer → Step Verdict
  | .messageLog => do
      onBoard fun board => board.append (Value.message values)
      return .accepted
  | .guest number => Audience.callGuest perform values number

/-- Dispatches an event on a thread. Events may be nested as deeply as the first argument says. -/
def dispatch : Nat → Nat → List Value → Step Registry.Report
  | 0, _, _ => failure
  | depth + 1, thread, values =>
      Audience.dispatch (callObserver (Op.perform (dispatch depth) thread) values)

/-- Performs an operation on the main thread. Events may be nested as deeply as the first argument
says. -/
def perform (depth : Nat) (op : Op) : Step Answer :=
  op.perform (dispatch depth) 0

/-- A run on the main thread of a session whose observers leave the session alone, so that no event
is dispatched inside another one. -/
def runQuietly (source : String) : Step (Except RunError RunReport) :=
  run (dispatch 1 0) 0 source

end Workbench.Session
