import Workbench.Proofs.Evaluator.Sink
import Workbench.Proofs.Session.Atomicity

/-!
# Runs of a session are faithful to the program

A session over the engine for the language runs a program as `Program.run` does, whatever its
observers do meanwhile. **Theorem** (`run_faithful`), for a session that has come about by
operations and is ready:

* a run that is answered is answered with the result or the failure of the program, and the
  artifacts are the tokens and the form of the program and its result (`Agrees`);
* it does the same as an evaluation in which every print event is dispatched as soon as it is raised
  (`liveRun`), because evaluation does not look at what a sink does;
* it is answered, if no observer dispatches events of its own (`Op.DispatchesNothing`): requests to
  run are refused, so that events are not nested;
* if nobody goes past the session and the observers are orderly (`Op.IsOrderly`), then the messages
  are those there were, the print events of the program in order, and the result if results are
  echoed, and the print events that are reported are those of the program.
-/

namespace Workbench.Session

open Audience

/-! ### Events as they are raised -/

/-- The sink that dispatches each print event at once. There is no session any more when an event
has no result. -/
def live (dispatch : List Value → Step Registry.Report) (values : List Value)
    (heard : Option Session) : Option Session :=
  heard.bind fun session => (dispatch values session).map Prod.snd

/-- When one event has no result, none of those after it is dispatched. -/
theorem foldl_live_none (dispatch : List Value → Step Registry.Report)
    (events : List (List Value)) :
    events.foldl (fun heard values => live dispatch values heard) none = none := by
  induction events with
  | nil => rfl
  | cons values rest ih => exact ih

/-- Dispatching events that are all known is giving them to the live sink. -/
theorem dispatchAll_eq_live (dispatch : List Value → Step Registry.Report)
    (events : List (List Value)) (session : Session) :
    dispatchAll dispatch events session =
      (events.foldl (fun heard values => live dispatch values heard) (some session)).map
        fun heard => ((), heard) := by
  induction events generalizing session with
  | nil => rfl
  | cons values rest ih =>
      change (dispatch values session).bind (fun result => dispatchAll dispatch rest result.2) =
        (rest.foldl _ ((dispatch values session).map Prod.snd)).map _
      rcases dispatch values session with _ | ⟨report, after⟩
      · -- Without a result there is no session for the events that follow.
        change none = (rest.foldl _ none).map _
        rw [foldl_live_none]
        rfl
      · exact ih after

/-- A run in which every print event is dispatched as soon as the program raises it. -/
def liveRun (dispatch : List Value → Step Registry.Report) (thread : Nat) (limits : Limits)
    (source : String) (session : Session) : Option (Except RunError RunReport × Session) :=
  let (outcome, heard) :=
    Program.runInto limits source (live dispatch) (some (session.begin thread))
  heard.map fun heard =>
    conclude session (session.runs + 1) (outcome.mapError Engine.ExecutionError.program) heard

/-- **An accepted run is a live one**: it makes no difference that its events are dispatched when
they are all known. -/
theorem run_eq_liveRun {dispatch : List Value → Step Registry.Report} {thread : Nat}
    {limits : Limits} {source : String} {session : Session}
    (hengine : session.engine = Engine.lisp limits) (haccepted : session.refusal? thread = none) :
    run dispatch thread source session = liveRun dispatch thread limits source session := by
  rw [run_of_accepted haccepted, hengine, dispatchAll_eq_live, Option.map_map]
  unfold liveRun
  rw [Program.runInto_eq_replay]
  rfl

/-! ### Observers that dispatch nothing -/

/-- The operations that do not dispatch an event past the session. -/
def Op.DispatchesNothing : Op → Prop
  | .registry (.dispatch _) => False
  | .registry (.print _) => False
  | _ => True

/-- While a run is in progress, operations that dispatch nothing end. -/
theorem Op.perform_ends {P : Op → Prop} (dispatch : Nat → List Value → Step Registry.Report)
    (thread : Nat) (op : Op) (hop : op.DispatchesNothing) :
    (within P).Ends (op.perform dispatch thread) := by
  intro session hsession
  cases op with
  | run source =>
      obtain ⟨error, hrefused⟩ := run_in_flight (dispatch thread) thread source hsession.1
      exact ⟨_, session, Act.bind_eq_some_iff.mpr ⟨_, _, hrefused, rfl⟩⟩
  | runElsewhere source =>
      obtain ⟨error, hrefused⟩ :=
        run_in_flight (dispatch (thread + 1)) (thread + 1) source hsession.1
      exact ⟨_, session, Act.bind_eq_some_iff.mpr ⟨_, _, hrefused, rfl⟩⟩
  | inspect source =>
      have hinspect : ∃ result, Session.inspect source session = some (result, session) := by
        change ∃ result, (if session.host.status.isReady then _ else _ : Step _) session = _
        split <;> exact ⟨_, rfl⟩
      obtain ⟨result, hresult⟩ := hinspect
      exact ⟨_, session, Act.bind_eq_some_iff.mpr ⟨_, _, hresult, rfl⟩⟩
  | register observer =>
      have hregister : ∃ result after,
          Session.register observer session = some (result, after) := by
        change ∃ result after, (if session.host.status.isReady then _ else _ : Step _) session = _
        split <;> exact ⟨_, _, rfl⟩
      obtain ⟨result, after, hresult⟩ := hregister
      exact ⟨_, after, Act.bind_eq_some_iff.mpr ⟨_, _, hresult, rfl⟩⟩
  | unregister id =>
      have hunregister : ∃ removed after,
          Session.unregister id session = some (removed, after) := by
        unfold Session.unregister
        split <;> exact ⟨_, _, rfl⟩
      obtain ⟨removed, after, hresult⟩ := hunregister
      exact ⟨_, after, Act.bind_eq_some_iff.mpr ⟨_, _, hresult, rfl⟩⟩
  | registry op =>
      cases op with
      | dispatch values => exact absurd hop id
      | print values => exact absurd hop id
      | register observer => exact ⟨_, _, rfl⟩
      | unregister id => exact ⟨_, _, rfl⟩
      | unregisterObserver observer => exact ⟨_, _, rfl⟩
      | contains id => exact ⟨_, _, rfl⟩
      | clear => exact ⟨_, _, rfl⟩
      | debug => exact ⟨_, _, rfl⟩
  | prepare => exact ⟨_, _, rfl⟩
  | prepareMany count => exact ⟨_, _, rfl⟩
  | append text => exact ⟨_, _, rfl⟩
  | clearMessages => exact ⟨_, _, rfl⟩
  | shutDown => exact ⟨_, _, rfl⟩
  | subscribe => exact ⟨_, _, rfl⟩
  | drain subscriber => exact ⟨_, _, rfl⟩
  | view => exact ⟨_, _, rfl⟩
  | snapshot => exact ⟨_, _, rfl⟩
  | config => exact ⟨_, _, rfl⟩

/-- An event of a run ends if no observer dispatches events of its own. -/
theorem dispatch_ends_of_dispatchesNothing (depth thread : Nat) (values : List Value) :
    (within Op.DispatchesNothing).Ends (dispatch (depth + 1) thread values) := by
  have hattends := attends_within Op.DispatchesNothing
  have hperform : ∀ op : Op, op.DispatchesNothing →
      (within Op.DispatchesNothing).Keeps (op.perform (dispatch depth) thread) :=
    fun op _ => op.perform_within (dispatch_within Op.DispatchesNothing depth) thread
  refine dispatch_ends (hattends.callObserver hperform values) ?_
    (fun verdict session hsession => (hattends.taken verdict session hsession).1)
    (fun session hsession => (hattends.began session hsession).1)
  intro observer
  cases observer with
  | messageLog => exact Act.Manner.ends_of_apply fun session => rfl
  | guest number =>
      exact hattends.callGuest_ends hperform (Op.perform_ends (dispatch depth) thread) values number

/-- The events of a run end if no observer dispatches events of its own. -/
theorem exists_heard {session : Session} (hobeys : session.audience.Obeys Op.DispatchesNothing)
    (depth thread : Nat) (events : List (List Value)) :
    ∃ heard, dispatchAll (dispatch (depth + 1) thread) events (session.begin thread) =
      some ((), heard) := by
  have hbegin : (within Op.DispatchesNothing).inv (session.begin thread) := ⟨rfl, hobeys⟩
  obtain ⟨_, heard, hheard⟩ := dispatchAll_ends
    (dispatch_within Op.DispatchesNothing (depth + 1) thread)
    (dispatch_ends_of_dispatchesNothing depth thread) events hbegin
  exact ⟨heard, hheard⟩

/-! ### Orderly observers -/

/-- The operations that the session itself offers, without clearing the messages and shutting down.
-/
def Op.IsOrderly : Op → Prop
  | .registry _ => False
  | .append _ => False
  | .clearMessages => False
  | .shutDown => False
  | _ => True

/-- An orderly operation dispatches no events. -/
theorem Op.IsOrderly.dispatchesNothing {op : Op} (h : op.IsOrderly) : op.DispatchesNothing := by
  cases op with
  | registry op => exact absurd h id
  | _ => trivial

/-- A session with a run in progress whose observers are orderly, the message log first among them.
-/
structure Orderly (session : Session) : Prop where
  inFlight : session.inFlight.isSome
  obeys : session.audience.Obeys Op.IsOrderly
  sound : session.audience.registry.Sound
  log : LogFirst session.audience.registry

/-- The manner of the guests of such a session: they keep within the run in progress, add no
messages and dispatch no events. -/
def orderly : Act.Manner Session where
  inv := Orderly
  rel session after := Within session after ∧
    after.board.messages = session.board.messages ∧
    after.audience.registry.events = session.audience.registry.events
  refl session := ⟨.refl session, rfl, rfl⟩
  trans h h' := ⟨h.1.trans h'.1, h'.2.1.trans h.2.1, h'.2.2.trans h.2.2⟩

/-- Guests may come to do something else, and events and failures may be counted. -/
theorem Orderly.withAudience {session : Session} (h : session.Orderly)
    {audience : Audience Observer Op Answer} (hobeys : audience.Obeys Op.IsOrderly)
    (hentries : audience.registry.entries = session.audience.registry.entries)
    (hnext : audience.registry.nextId = session.audience.registry.nextId) :
    { session with audience := audience }.Orderly := by
  refine ⟨h.inFlight, hobeys, h.sound.congr hentries hnext, ?_⟩
  change audience.registry.entries.head? = _
  rw [hentries]
  exact h.log

/-- Calls of guests, what they are credited with and what they fail at are orderly. -/
theorem attends_orderly : Attends orderly Op.IsOrderly where
  obeys _ hsession := hsession.obeys
  attended session audience hsession hattended := by
    obtain ⟨hentries, hnext, hevents⟩ := hattended.registry_eq
    refine ⟨hsession.withAudience (hattended.obeys hsession.obeys) hentries hnext, ?_, rfl, hevents⟩
    exact within_of_board session session.host audience session.board.feed

/-- Orderly operations keep to the manner of orderly guests. -/
theorem Op.perform_orderly (depth thread : Nat) (op : Op) (hop : op.IsOrderly) :
    orderly.Keeps (op.perform (dispatch depth) thread) := by
  intro session answer after hsession h
  obtain ⟨⟨hinFlight, hobeys⟩, hwithin⟩ :=
    op.perform_within (dispatch_within Op.IsOrderly depth) thread
      ⟨hsession.inFlight, hsession.obeys⟩ h
  cases Op.perform_effect h with
  | nothing => exact ⟨hsession, hwithin, rfl, rfl⟩
  | ran _ thread' source hrun =>
      obtain ⟨error, hrefused⟩ :=
        run_in_flight (dispatch depth thread') thread' source hsession.inFlight
      rw [hrefused] at hrun
      cases hrun
      exact ⟨hsession, hwithin, rfl, rfl⟩
  | prepared => exact ⟨⟨hinFlight, hobeys, hsession.sound, hsession.log⟩, hwithin, rfl, rfl⟩
  | fed => exact ⟨⟨hinFlight, hobeys, hsession.sound, hsession.log⟩, hwithin, rfl, rfl⟩
  | registered observer =>
      exact ⟨⟨hinFlight, hobeys, (hsession.sound.register observer).1,
        hsession.log.register observer⟩, hwithin, rfl, (Registry.register_counters _ observer).1⟩
  | unregistered id hid =>
      exact ⟨⟨hinFlight, hobeys, (hsession.sound.unregister id).1, hsession.log.unregister hid⟩,
        hwithin, rfl, rfl⟩
  | bypassed => exact absurd hop id
  | dispatched => exact absurd hop id
  | appended => exact absurd hop id
  | cleared => exact absurd hop id
  | shutDown => exact absurd hop id

/-- What an event of a run leaves when the observers are orderly. -/
structure Logged (events : List (List Value)) (session after : Session) : Prop where
  orderly : after.Orderly
  within : Within session after
  /-- Each event is a message. -/
  messages : after.board.messages.toList = session.board.messages.toList ++
    events.map fun values => ⟨Value.message values, session.board.currentRun⟩
  /-- Each event is counted. -/
  events : after.audience.registry.events = session.audience.registry.events + events.length

/-- **An event is a message**: the message log is called first, and nobody after it adds messages.
-/
theorem dispatch_logged {depth thread : Nat} {values : List Value} {session after : Session}
    {report : Registry.Report} (hsession : session.Orderly)
    (h : dispatch (depth + 1) thread values session = some (report, after)) :
    Logged [values] session after := by
  obtain ⟨turns, hturns, hcourse, -⟩ := (dispatch_eq_some_iff _ _ _ _).mp h
  obtain ⟨rest, hentries⟩ := List.head?_eq_some_iff.mp hsession.log
  have hdistinct : Observer.messageLog ∉ rest.map Registry.Entry.observer := by
    have hnodup := hsession.sound.distinct
    rw [hentries] at hnodup
    exact (List.nodup_cons.mp hnodup).1
  have hbegan : (registryOf (began session)).entries = logEntry :: rest := hentries
  rw [hbegan] at hturns
  cases hcourse with
  | finished => cases hturns
  | passed entry hgone _ =>
      obtain ⟨rfl, -⟩ := List.cons.inj hturns
      refine absurd ?_ hgone
      change logEntry.id ∈ ((registryOf (began session)).entries.map Registry.Entry.id)
      rw [hbegan]
      exact List.mem_cons_self
  | @called _ v _ turns entry _ verdict hcall hrest =>
      obtain ⟨rfl, rfl⟩ := List.cons.inj hturns
      cases hcall
      -- The log has taken the event; the others are guests, for each observer is registered once.
      have hguests : ∀ turn ∈ turns, orderly.Keeps
          (callObserver (Op.perform (dispatch depth) thread) values turn.entry.observer) := by
        intro turn hturn
        cases hobserver : turn.entry.observer with
        | messageLog =>
            refine absurd ?_ hdistinct
            rw [← hobserver]
            exact List.mem_map_of_mem (List.mem_map_of_mem hturn)
        | guest number =>
            exact attends_orderly.callGuest (Op.perform_orderly depth thread) values number
      have hstart : Orderly ((began session).withBoard
          (session.board.append (Value.message values))) :=
        ⟨hsession.inFlight, hsession.obeys, hsession.sound.congr rfl rfl, hsession.log⟩
      obtain ⟨-, horderly, hwithin, hmessages, hevents⟩ :=
        hrest.keeps attends_orderly.taken hguests hstart
      have hlogged := (within_of_board session session.host (began session).audience
        session.board.feed).trans (within_append (began session) (Value.message values))
      refine ⟨horderly, hlogged.trans hwithin, ?_, hevents⟩
      rw [hmessages]
      exact Array.toList_push

/-- The events of a run are messages. -/
theorem dispatchAll_logged {depth thread : Nat} {events : List (List Value)}
    {session heard : Session} (hsession : session.Orderly)
    (h : dispatchAll (dispatch (depth + 1) thread) events session = some ((), heard)) :
    Logged events session heard := by
  induction events generalizing session with
  | nil =>
      cases h
      exact ⟨hsession, .refl heard, (List.append_nil _).symm, rfl⟩
  | cons values rest ih =>
      obtain ⟨report, mid, hevent, hrest⟩ := Act.bind_eq_some_iff.mp h
      have hfirst := dispatch_logged hsession hevent
      have hothers := ih hfirst.orderly hrest
      refine ⟨hothers.orderly, hfirst.within.trans hothers.within, ?_, ?_⟩
      · rw [hothers.messages, hfirst.messages, hfirst.within.currentRun, List.append_assoc]
        rfl
      · rw [hothers.events, hfirst.events, List.length_singleton, List.length_cons]
        omega

/-- **The messages of a run**, over any engine: with orderly observers there is an answer, each
print event of the execution is a message and is counted, and the result is a message if results are
echoed. -/
theorem run_logged {session : Session} {thread : Nat} {source : String}
    (haccepted : session.refusal? thread = none) (hbegin : (session.begin thread).Orderly)
    (depth : Nat) : ∃ result after,
      run (dispatch (depth + 1) thread) thread source session = some (result, after) ∧
      after.board.messages.toList = session.board.messages.toList ++
        (session.engine.execute session.runs source).events.map
          (fun values => ⟨Value.message values, some (session.runs + 1)⟩) ++
        echoed session.config.echoResult (some (session.runs + 1))
          (session.engine.execute session.runs source).outcome ∧
      ∀ report, result = .ok report →
        report.printEvents = (session.engine.execute session.runs source).events.length := by
  have hobeys : session.audience.Obeys Op.DispatchesNothing :=
    hbegin.obeys.imp fun _ => Op.IsOrderly.dispatchesNothing
  obtain ⟨heard, hheard⟩ :=
    exists_heard hobeys depth thread (session.engine.execute session.runs source).events
  have hlogged := dispatchAll_logged hbegin hheard
  obtain ⟨result, after, hresult⟩ : ∃ result after, conclude session (session.runs + 1)
      (session.engine.execute session.runs source).outcome heard = (result, after) := ⟨_, _, rfl⟩
  refine ⟨result, after, ?_, ?_, ?_⟩
  · rw [run_of_accepted haccepted, hheard]
    exact congrArg some hresult
  · rw [messages_of_conclude hresult, hlogged.messages, hlogged.within.currentRun]
    rfl
  · rintro report rfl
    rw [printEvents_of_conclude hresult, hlogged.events]
    exact Nat.add_sub_cancel_left _ _

/-! ### Faithfulness -/

/-- A run is answered with what the program comes to, and leaves the artifacts of the program or its
failure. -/
structure Agrees (program : Program.Run) (run : Nat) (result : Except RunError RunReport)
    (after : Session) : Prop where
  succeeded : ∀ output, program.outcome = .ok output →
    (∃ report, result = .ok report ∧ report.run = run ∧ report.result = output.result ∧
      report.tokenCount = output.tokens.length ∧ report.nodeCount = output.form.size) ∧
    after.board.artifacts = some ⟨run, output.tokens, output.form, output.result⟩
  failed : ∀ failure, program.outcome = .error failure →
    result = .error (.execution run (.program failure)) ∧
    after.board.lastError = some ⟨run, failure.message⟩

/-- A run that is over agrees with the program that was run. -/
theorem agrees_of_conclude {program : Program.Run} {before heard after : Session} {run : Nat}
    {result : Except RunError RunReport}
    (h : conclude before run (Engine.executionOf program).outcome heard = (result, after)) :
    Agrees program run result after := by
  obtain ⟨events, outcome⟩ := program
  constructor
  · rintro output rfl
    cases h
    refine ⟨⟨_, rfl, rfl, rfl, rfl, rfl⟩, ?_⟩
    change (publish _ run output heard.board).artifacts = _
    unfold publish
    split <;> rfl
  · rintro failure rfl
    cases h
    exact ⟨rfl, rfl⟩

/-- What a session over the engine for the language makes of a source text, on any thread and
however deeply events may be nested. -/
structure Faithful (config : Config) (source : String) (session : Session) : Prop where
  /-- The answer is that of the program. -/
  agrees : ∀ depth thread result after,
    run (dispatch depth thread) thread source session = some (result, after) →
      Agrees (Program.run config.limits source) (session.runs + 1) result after
  /-- Print events might as well be dispatched as soon as they are raised. -/
  live : ∀ depth thread, run (dispatch depth thread) thread source session =
    liveRun (dispatch depth thread) thread config.limits source session
  /-- There is an answer if no observer dispatches events of its own. -/
  answered : session.audience.Obeys Op.DispatchesNothing → ∀ depth thread, ∃ result after,
    run (dispatch (depth + 1) thread) thread source session = some (result, after)
  /-- If nobody goes past the session and the observers are orderly, then there is an answer, the
  messages are those of the program, and the print events reported are those of the program. -/
  logged : Reachable Op.IsSessional config (Engine.lisp config.limits) session →
    session.audience.Obeys Op.IsOrderly → ∀ depth thread, ∃ result after,
      run (dispatch (depth + 1) thread) thread source session = some (result, after) ∧
      after.board.messages.toList = session.board.messages.toList ++
        (Program.run config.limits source).events.map
          (fun values => ⟨Value.message values, some (session.runs + 1)⟩) ++
        echoed config.echoResult (some (session.runs + 1))
          (Program.run config.limits source).outcome ∧
      ∀ report, result = .ok report →
        report.printEvents = (Program.run config.limits source).events.length

/-- The result is echoed exactly if that of the program is. -/
theorem echoed_executionOf (echo : Bool) (run : Option Nat) (program : Program.Run) :
    echoed echo run (Engine.executionOf program).outcome = echoed echo run program.outcome := by
  obtain ⟨events, outcome⟩ := program
  cases outcome <;> rfl

/-- **A run of a session is faithful to the program**, in every session over the engine for the
language that has come about by operations and is ready, whatever its observers do. -/
theorem run_faithful {P : Op → Prop} {config : Config} {session : Session}
    (hreachable : Reachable P config (Engine.lisp config.limits) session)
    (hready : session.host.status.isReady) (source : String) :
    Faithful config source session := by
  obtain ⟨hidle, hconfig, hengine⟩ := hreachable.idle
  have haccepted : ∀ thread, session.refusal? thread = none :=
    fun thread => refusal?_eq_none_iff.mpr ⟨hready, hidle.inFlight⟩
  have hexecution : session.engine.execute session.runs source =
      Engine.executionOf (Program.run config.limits source) := by
    rw [hengine]
    rfl
  refine ⟨?_, fun depth thread => run_eq_liveRun hengine (haccepted thread), ?_, ?_⟩
  · intro depth thread result after h
    rw [run_of_accepted (haccepted thread), Option.map_eq_some_iff] at h
    obtain ⟨⟨_, heard⟩, -, hresult⟩ := h
    rw [hexecution] at hresult
    exact agrees_of_conclude hresult
  · intro hobeys depth thread
    obtain ⟨heard, hheard⟩ := exists_heard hobeys depth thread
      (session.engine.execute session.runs source).events
    rw [run_of_accepted (haccepted thread), hheard]
    exact ⟨_, _, rfl⟩
  · intro hsessional hobeys depth thread
    have hguarded := hsessional.guarded
    have hbegin : (session.begin thread).Orderly :=
      ⟨rfl, hobeys, hguarded.sound, hguarded.logFirst hready⟩
    obtain ⟨result, after, hrun, hmessages, hevents⟩ :=
      run_logged (haccepted thread) hbegin depth
    rw [hexecution, hconfig, echoed_executionOf] at hmessages
    rw [hexecution] at hevents
    exact ⟨result, after, hrun, hmessages, hevents⟩

/-- The guest is orderly: asking for runs is an operation of the session. -/
theorem obeys_occupied (engine : Engine) : (occupied engine).audience.Obeys Op.IsOrderly := by
  intro number guest hguest
  have hinsistent : guest.behaviour = insistent := by
    cases number with
    | zero =>
        cases hguest
        rfl
    | succ number => cases hguest
  intro call _ values
  rw [hinsistent]
  exact ⟨trivial, fun _ => trivial⟩

/-- A session for the language with a guest that asks for runs. -/
def attended : Session := occupied (Engine.lisp ({} : Config).limits)

/-- The requests of the guest are refused, and the messages are the print events of the program. -/
theorem run_faithful_attended :
    ∃ result after, run (dispatch 1 0) 0 "(print 1) (print 2)" attended = some (result, after) ∧
      Agrees (Program.run ({} : Config).limits "(print 1) (print 2)") (attended.runs + 1) result
        after ∧
      after.board.messages.toList = attended.board.messages.toList ++
        (Program.run ({} : Config).limits "(print 1) (print 2)").events.map
          (fun values => ⟨Value.message values, some (attended.runs + 1)⟩) ++
        echoed ({} : Config).echoResult (some (attended.runs + 1))
          (Program.run ({} : Config).limits "(print 1) (print 2)").outcome := by
  have hreachable : Reachable Op.IsSessional {} (Engine.lisp ({} : Config).limits) attended :=
    reachable_occupied rfl
  have hfaithful := run_faithful hreachable rfl "(print 1) (print 2)"
  obtain ⟨result, after, hrun, hmessages, -⟩ :=
    hfaithful.logged hreachable (obeys_occupied _) 0 0
  exact ⟨result, after, hrun, hfaithful.agrees 1 0 result after hrun, hmessages⟩

end Workbench.Session
