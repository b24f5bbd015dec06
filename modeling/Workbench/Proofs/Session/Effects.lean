import Workbench.Proofs.Observer.Registry
import Workbench.Session.Run

/-!
# What the operations on a session do

Every operation on a session has one of a few effects (`Op.Effect`), whatever dispatching an event
does; so a fact about all operations is proved by going through the effects, and never by going
through the code again. A request to run is either refused, which changes nothing
(`run_of_refused`), or accepted: then its events are dispatched in the session in which it has
begun, and what they leave is concluded by a function (`run_of_accepted`).

What is true of all operations carries over to the events in which observers perform them, however
deeply events are nested (`AttendsEvents.dispatch`).
-/

namespace Workbench.Session

open Audience

instance : LawfulHasAudience Session := ⟨fun _ _ => rfl⟩

/-- The session with another registry. -/
def withRegistry (session : Session) (registry : Registry Observer) : Session :=
  { session with audience := { session.audience with registry := registry } }

/-- The session with another board. -/
def withBoard (session : Session) (board : Board Nat) : Session :=
  { session with board := board }

/-! ### Runs -/

/-- What is answered of a run whose events have been heard, and the session when it is over. -/
def conclude (before : Session) (run : Nat)
    (outcome : Except Engine.ExecutionError Program.Output) (heard : Session) :
    Except RunError RunReport × Session :=
  match outcome with
  | .ok output =>
      (.ok {
        run := run
        result := output.result
        tokenCount := output.tokens.length
        nodeCount := output.form.size
        printEvents := heard.audience.registry.events - before.audience.registry.events
        observerFailures := heard.audience.registry.failures - before.audience.registry.failures },
      (heard.withBoard (publish before.config.echoResult run output heard.board)).finish)
  | .error error =>
      (.error (.execution run error),
      (heard.withBoard (heard.board.recordFailure run error.message)).finish)

/-- The message that the outcome of a run adds, if there is one. -/
def echoed {ε : Type} (echo : Bool) (run : Option Nat) :
    Except ε Program.Output → List (Board.Message Nat)
  | .ok output => if echo then [⟨Value.message [output.result], run⟩] else []
  | .error _ => []

section Conclude

variable {before heard after : Session} {run : Nat} {result : Except RunError RunReport}
variable {outcome : Except Engine.ExecutionError Program.Output}

/-- What a run leaves when it is over: its outcome changes the board, and nothing is in progress. -/
theorem eq_of_conclude (h : conclude before run outcome heard = (result, after)) :
    ∃ board : Board Nat,
      after = { heard with inFlight := none, board := { board with currentRun := none } } := by
  cases outcome with
  | ok output =>
      cases h
      exact ⟨_, rfl⟩
  | error error =>
      cases h
      exact ⟨_, rfl⟩

/-- The messages when a run is over: those heard before, and its result if results are echoed. -/
theorem messages_of_conclude (h : conclude before run outcome heard = (result, after)) :
    after.board.messages.toList = heard.board.messages.toList ++
      echoed before.config.echoResult heard.board.currentRun outcome := by
  cases outcome with
  | ok output =>
      cases h
      simp only [finish, withBoard, publish, echoed]
      split
      · exact Array.toList_push
      · exact (List.append_nil _).symm
  | error error =>
      cases h
      exact (List.append_nil _).symm

/-- The events that are reported of a run are those dispatched meanwhile. -/
theorem printEvents_of_conclude {report : RunReport}
    (h : conclude before run outcome heard = (.ok report, after)) :
    report.printEvents = heard.audience.registry.events - before.audience.registry.events := by
  cases outcome with
  | error error => cases h
  | ok output =>
      cases h
      rfl

end Conclude

section Run

variable {dispatch : List Value → Step Registry.Report} {thread : Nat} {source : String}
variable {session : Session}

/-- A request that is refused changes nothing. -/
theorem run_of_refused {error : RunError} (hrefused : session.refusal? thread = some error) :
    run dispatch thread source session = some (.error error, session) := by
  unfold run
  simp only [Act.bind_apply, Act.get_apply, Option.bind_some, hrefused]
  rfl

/-- A request that is accepted: the events of the run are dispatched, and it is concluded. -/
theorem run_of_accepted (haccepted : session.refusal? thread = none) :
    run dispatch thread source session =
      (dispatchAll dispatch (session.engine.execute session.runs source).events
        (session.begin thread)).map fun (_, heard) =>
          conclude session (session.runs + 1) (session.engine.execute session.runs source).outcome
            heard := by
  unfold run
  simp only [Act.bind_apply, Act.get_apply, Option.bind_some, haccepted]
  change Option.bind (Option.bind (dispatchAll dispatch
    (session.engine.execute session.runs source).events (session.begin thread)) _) _ = _
  rcases dispatchAll dispatch _ (session.begin thread) with _ | ⟨_, heard⟩
  · rfl
  · have hexecution : (session.begin thread).engine.execute (session.runs + 1 - 1) source =
        session.engine.execute session.runs source := rfl
    simp only [Option.bind_some, Option.map_some, hexecution]
    cases (session.engine.execute session.runs source).outcome with
    | ok output => rfl
    | error error => rfl

/-- The results of a request to run. -/
theorem run_eq_some_iff {result : Except RunError RunReport} {after : Session} :
    run dispatch thread source session = some (result, after) ↔
      (∃ error, session.refusal? thread = some error ∧ result = .error error ∧ after = session) ∨
      (session.refusal? thread = none ∧ ∃ heard,
        dispatchAll dispatch (session.engine.execute session.runs source).events
          (session.begin thread) = some ((), heard) ∧
        conclude session (session.runs + 1) (session.engine.execute session.runs source).outcome
          heard = (result, after)) := by
  rcases hrefusal : session.refusal? thread with _ | error
  · rw [run_of_accepted hrefusal, Option.map_eq_some_iff]
    constructor
    · rintro ⟨⟨_, heard⟩, hheard, hresult⟩
      exact Or.inr ⟨rfl, heard, hheard, hresult⟩
    · rintro (⟨_, hsome, -⟩ | ⟨-, heard, hheard, hresult⟩)
      · cases hsome
      · exact ⟨((), heard), hheard, hresult⟩
  · rw [run_of_refused hrefusal]
    constructor
    · intro h
      cases h
      exact Or.inl ⟨error, rfl, rfl, rfl⟩
    · rintro (⟨_, hsome, rfl, rfl⟩ | ⟨hnone, -⟩)
      · cases hsome
        rfl
      · cases hnone

/-- Why a request is refused: the engine is not ready, or a run is in progress. -/
theorem refusal?_cases {error : RunError} (hrefused : session.refusal? thread = some error) :
    (error = .notReady session.host.status ∧ session.host.status.isReady = false) ∨
      ∃ current, session.inFlight = some current ∧
        (current.thread = thread ∧ error = .reentrant current.run ∨
          current.thread ≠ thread ∧ error = .busy) := by
  unfold refusal? at hrefused
  split at hrefused
  · obtain ⟨current, hinFlight, hcurrent⟩ := Option.map_eq_some_iff.mp hrefused
    refine Or.inr ⟨current, hinFlight, ?_⟩
    split at hcurrent
    · rename_i hthread
      exact Or.inl ⟨hthread, hcurrent.symm⟩
    · rename_i hthread
      exact Or.inr ⟨hthread, hcurrent.symm⟩
  · rename_i hready
    exact Or.inl ⟨(Option.some.inj hrefused).symm, Bool.eq_false_iff.mpr hready⟩

/-- A request is accepted exactly if the engine is ready and no run is in progress. -/
theorem refusal?_eq_none_iff :
    session.refusal? thread = none ↔ session.host.status.isReady ∧ session.inFlight = none := by
  unfold refusal?
  split
  · rename_i hready
    rw [Option.map_eq_none_iff]
    exact ⟨fun hnone => ⟨hready, hnone⟩, fun h => h.2⟩
  · rename_i hready
    exact ⟨fun hnone => absurd hnone (Option.some_ne_none _), fun h => absurd h.1 hready⟩

/-- What a request to run is answered while a run is in progress. It changes nothing. -/
theorem run_of_in_flight (dispatch : List Value → Step Registry.Report) (thread : Nat)
    (source : String) {current : InFlight} (hinFlight : session.inFlight = some current) :
    run dispatch thread source session = some (.error
      (if session.host.status.isReady then
        if current.thread = thread then .reentrant current.run else .busy
      else .notReady session.host.status), session) := by
  refine run_of_refused ?_
  unfold refusal?
  rw [hinFlight]
  split
  · rfl
  · rfl

/-- A request that is made while a run is in progress is refused and changes nothing. -/
theorem run_in_flight (dispatch : List Value → Step Registry.Report) (thread : Nat)
    (source : String) (hinFlight : session.inFlight.isSome) :
    ∃ error, run dispatch thread source session = some (.error error, session) := by
  obtain ⟨current, hcurrent⟩ := Option.isSome_iff_exists.mp hinFlight
  exact ⟨_, run_of_in_flight dispatch thread source hcurrent⟩

end Run

/-! ### Effects -/

/-- What an operation on a thread can do to a session, where `dispatch` says what dispatching an
event on a thread does. The operations are named where it matters which one it is. -/
inductive Op.Effect (dispatch : Nat → List Value → Step Registry.Report) (thread : Nat)
    (session : Session) : Op → Session → Prop where
  /-- It only looks, or it is refused. -/
  | nothing (op : Op) : Effect dispatch thread session op session
  | prepared (op : Op) (count : Nat) :
      Effect dispatch thread session op
        { session with host := (session.host.prepareAll session.engine count).2 }
  /-- It is a request to run, on this thread or another. -/
  | ran (op : Op) (thread' : Nat) (source : String) {result : Except RunError RunReport}
      {after : Session}
      (hrun : Session.run (dispatch thread') thread' source session = some (result, after)) :
      Effect dispatch thread session op after
  /-- It subscribes or reads what waits for a subscriber. -/
  | fed (op : Op) (feed : Board.Feed (Board.Event Nat)) :
      Effect dispatch thread session op (session.withBoard { session.board with feed := feed })
  | registered (observer : Observer) (hready : session.host.status.isReady) :
      Effect dispatch thread session (.register observer)
        (session.withRegistry (session.audience.registry.register observer).2)
  | unregistered (id : ObserverId) (hid : id ≠ messageLogId) :
      Effect dispatch thread session (.unregister id)
        (session.withRegistry (session.audience.registry.unregister id).2)
  /-- It changes the registry, past the session. -/
  | bypassed (op : Registry.Op Observer) (registry : Registry Observer) :
      Effect dispatch thread session (.registry op) (session.withRegistry registry)
  /-- It dispatches an event, past the session. -/
  | dispatched (op : Registry.Op Observer) (values : List Value)
      (hop : op = .dispatch values ∨ op = .print values) {report : Registry.Report}
      {after : Session} (hdispatch : dispatch thread values session = some (report, after)) :
      Effect dispatch thread session (.registry op) after
  | appended (text : String) :
      Effect dispatch thread session (.append text)
        (session.withBoard (session.board.append text))
  | cleared : Effect dispatch thread session .clearMessages
      (session.withBoard session.board.clearMessages)
  | shutDown : Effect dispatch thread session .shutDown
      ({ session with host := session.host.shutDown }.withRegistry
        session.audience.registry.clear.2)

section Effect

variable {dispatch : Nat → List Value → Step Registry.Report} {thread : Nat}
variable {session after : Session} {answer : Answer}

/-- What an operation on the registry does. -/
theorem effect_registry {op : Registry.Op Observer} {answer : Registry.Answer}
    (h : op.perform (dispatch thread) session = some (answer, after)) :
    Op.Effect dispatch thread session (.registry op) after := by
  cases op with
  | register observer =>
      cases h
      exact .bypassed _ _
  | unregister id =>
      cases h
      exact .bypassed _ _
  | unregisterObserver observer =>
      cases h
      exact .bypassed _ _
  | clear =>
      cases h
      exact .bypassed _ _
  | contains id =>
      cases h
      exact .nothing _
  | debug =>
      cases h
      exact .nothing _
  | dispatch values =>
      obtain ⟨report, _, hdispatch, hreturn⟩ := Act.bind_eq_some_iff.mp h
      cases hreturn
      exact .dispatched _ values (Or.inl rfl) hdispatch
  | print values =>
      obtain ⟨report, _, hdispatch, hreturn⟩ := Act.bind_eq_some_iff.mp h
      cases hreturn
      exact .dispatched _ values (Or.inr rfl) hdispatch

/-- What registering an observer through the session does. -/
theorem effect_register {observer : Observer} {result : Except RunError ObserverId}
    (h : Session.register observer session = some (result, after)) :
    Op.Effect dispatch thread session (.register observer) after := by
  change (if session.host.status.isReady then _ else _ : Step _) session = _ at h
  split at h
  · rename_i hready
    cases h
    exact .registered observer hready
  · cases h
    exact .nothing _

/-- What removing an observer through the session does. -/
theorem effect_unregister {id : ObserverId} {removed : Bool}
    (h : Session.unregister id session = some (removed, after)) :
    Op.Effect dispatch thread session (.unregister id) after := by
  unfold Session.unregister at h
  split at h
  · cases h
    exact .nothing _
  · rename_i hid
    cases h
    exact .unregistered id hid

/-- What inspecting a source text does: nothing. -/
theorem eq_of_inspect {source : String}
    {result : Except Engine.ExecutionError (List Token × Form)}
    (h : Session.inspect source session = some (result, after)) : after = session := by
  change (if session.host.status.isReady then _ else _ : Step _) session = _ at h
  split at h
  · cases h
    rfl
  · cases h
    rfl

/-- **Every operation has an effect.** -/
theorem Op.perform_effect {op : Op}
    (h : op.perform dispatch thread session = some (answer, after)) :
    op.Effect dispatch thread session after := by
  cases op with
  | prepare =>
      cases h
      exact .prepared _ 1
  | prepareMany count =>
      cases h
      exact .prepared _ count
  | run source =>
      obtain ⟨result, _, hrun, hreturn⟩ := Act.bind_eq_some_iff.mp h
      cases hreturn
      exact .ran _ thread source hrun
  | runElsewhere source =>
      obtain ⟨result, _, hrun, hreturn⟩ := Act.bind_eq_some_iff.mp h
      cases hreturn
      exact .ran _ (thread + 1) source hrun
  | inspect source =>
      obtain ⟨result, _, hinspect, hreturn⟩ := Act.bind_eq_some_iff.mp h
      cases hreturn
      rw [eq_of_inspect hinspect]
      exact .nothing _
  | register observer =>
      obtain ⟨result, _, hregister, hreturn⟩ := Act.bind_eq_some_iff.mp h
      cases hreturn
      exact effect_register hregister
  | unregister id =>
      obtain ⟨removed, _, hunregister, hreturn⟩ := Act.bind_eq_some_iff.mp h
      cases hreturn
      exact effect_unregister hunregister
  | registry op =>
      obtain ⟨result, _, hop, hreturn⟩ := Act.bind_eq_some_iff.mp h
      cases hreturn
      exact effect_registry hop
  | append text =>
      cases h
      exact .appended text
  | clearMessages =>
      cases h
      exact .cleared
  | shutDown =>
      cases h
      exact .shutDown
  | subscribe =>
      cases h
      exact .fed _ _
  | drain subscriber =>
      cases h
      exact .fed _ _
  | view =>
      cases h
      exact .nothing _
  | snapshot =>
      cases h
      exact .nothing _
  | config =>
      cases h
      exact .nothing _

end Effect

/-! ### Events -/

/-- The audiences that can come of one by what the code around observers does to it: a call is
counted, a guest is credited with something, or a failure is counted. -/
inductive Attended (audience : Audience Observer Op Answer) :
    Audience Observer Op Answer → Prop where
  | called {number : Nat} {guest : Guest Op Answer}
      (hguest : audience.guests[number]? = some guest) :
      Attended audience (audience.called number guest)
  | credited (credits : Array (Credit Op Answer)) :
      Attended audience { audience with credits := credits }
  | failed : Attended audience { audience with registry := audience.registry.countFailure }

/-- Guests obey as before. -/
theorem Attended.obeys {P : Op → Prop} {audience audience' : Audience Observer Op Answer}
    (h : Attended audience audience') (hobeys : audience.Obeys P) : audience'.Obeys P := by
  cases h with
  | called hguest => exact hobeys.called hguest
  | credited credits => exact hobeys
  | failed => exact hobeys

/-- Nobody is registered or removed, and no event is counted. -/
theorem Attended.registry_eq {audience audience' : Audience Observer Op Answer}
    (h : Attended audience audience') :
    audience'.registry.entries = audience.registry.entries ∧
      audience'.registry.nextId = audience.registry.nextId ∧
      audience'.registry.events = audience.registry.events := by
  cases h with
  | called => exact ⟨rfl, rfl, rfl⟩
  | credited => exact ⟨rfl, rfl, rfl⟩
  | failed => exact ⟨rfl, rfl, rfl⟩

/-- A manner that allows for the code around observers, in sessions whose guests come to operations
of a kind only. -/
structure Attends (manner : Act.Manner Session) (P : Op → Prop) : Prop where
  obeys : ∀ session : Session, manner.inv session → session.audience.Obeys P
  attended : ∀ (session : Session) (audience : Audience Observer Op Answer), manner.inv session →
    Attended session.audience audience →
    manner.inv { session with audience := audience } ∧
      manner.rel session { session with audience := audience }

/-- A manner that also allows for events: one more message, and one more event. -/
structure AttendsEvents (manner : Act.Manner Session) (P : Op → Prop) : Prop
    extends Attends manner P where
  logged : ∀ (session : Session) (text : String), manner.inv session →
    manner.inv (session.withBoard (session.board.append text)) ∧
      manner.rel session (session.withBoard (session.board.append text))
  began : ∀ session : Session, manner.inv session →
    manner.inv (began session) ∧ manner.rel session (began session)

section Keeps

variable {manner : Act.Manner Session} {P : Op → Prop}

/-- A failure of an observer may be counted. -/
theorem Attends.taken (h : Attends manner P) (verdict : Verdict) (session : Session)
    (hsession : manner.inv session) :
    manner.inv (taken verdict session) ∧ manner.rel session (taken verdict session) := by
  unfold Audience.taken
  split
  · exact ⟨hsession, manner.refl session⟩
  · exact h.attended session _ hsession .failed

/-- A guest may be credited with something. -/
theorem Attends.credit (h : Attends manner P) (guest call : Nat) (feat : Feat Op Answer) :
    manner.Keeps (credit guest call feat : Step Unit) := by
  refine Act.Manner.keeps_of_apply (fun session => rfl) fun session hsession => ?_
  exact h.attended session _ hsession (.credited _)

/-- A call of a guest keeps to the manner if the operations do that it can come to. -/
theorem Attends.callGuest (h : Attends manner P) {perform : Op → Step Answer}
    (hperform : ∀ op, P op → manner.Keeps (perform op)) (values : List Value) (number : Nat) :
    manner.Keeps (callGuest perform values number) := by
  refine callGuest_keeps hperform h.credit h.obeys ?_ values number
  intro session number guest hsession hguest
  exact h.attended session _ hsession (.called hguest)

/-- A call of a guest ends if the operations do that it can come to. -/
theorem Attends.callGuest_ends (h : Attends manner P) {perform : Op → Step Answer}
    (hperform : ∀ op, P op → manner.Keeps (perform op))
    (hends : ∀ op, P op → manner.Ends (perform op)) (values : List Value) (number : Nat) :
    manner.Ends (Audience.callGuest perform values number) := by
  refine Audience.callGuest_ends hperform hends h.credit h.obeys ?_ values number
  intro session number guest hsession hguest
  exact (h.attended session _ hsession (.called hguest)).1

/-- A call of an observer keeps to the manner if the operations do that guests can come to. -/
theorem AttendsEvents.callObserver (h : AttendsEvents manner P) {perform : Op → Step Answer}
    (hperform : ∀ op, P op → manner.Keeps (perform op)) (values : List Value)
    (observer : Observer) : manner.Keeps (callObserver perform values observer) := by
  cases observer with
  | messageLog =>
      refine Act.Manner.keeps_of_apply (fun session => rfl) fun session hsession => ?_
      exact h.logged session _ hsession
  | guest number => exact h.callGuest hperform values number

/-- **Events keep to the manner, however deeply they are nested**, if the operations do that guests
can come to, given that the events inside them do. -/
theorem AttendsEvents.dispatch (h : AttendsEvents manner P)
    (hperform : ∀ depth, (∀ thread values, manner.Keeps (dispatch depth thread values)) →
      ∀ thread op, P op → manner.Keeps (op.perform (dispatch depth) thread))
    (depth thread : Nat) (values : List Value) :
    manner.Keeps (dispatch depth thread values) := by
  -- What guests do inside an event dispatches with a smaller bound.
  induction depth generalizing thread values with
  | zero =>
      intro session report after _ hnone
      cases hnone
  | succ depth ih =>
      refine dispatch_keeps ?_ h.taken h.began
      exact h.callObserver (hperform depth ih thread) values

/-- The events of a run keep to a manner if each of them does. -/
theorem dispatchAll_keeps {dispatch : List Value → Step Registry.Report}
    (hdispatch : ∀ values, manner.Keeps (dispatch values)) (events : List (List Value)) :
    manner.Keeps (dispatchAll dispatch events) := by
  induction events with
  | nil => exact Act.Manner.keeps_pure ()
  | cons values rest ih => exact (hdispatch values).bind fun _ => ih

/-- The events of a run end if each of them does. -/
theorem dispatchAll_ends {dispatch : List Value → Step Registry.Report}
    (hdispatch : ∀ values, manner.Keeps (dispatch values))
    (hends : ∀ values, manner.Ends (dispatch values)) (events : List (List Value)) :
    manner.Ends (dispatchAll dispatch events) := by
  induction events with
  | nil => exact Act.Manner.ends_pure ()
  | cons values rest ih => exact (hends values).bind (hdispatch values) fun _ => ih

end Keeps

end Workbench.Session
