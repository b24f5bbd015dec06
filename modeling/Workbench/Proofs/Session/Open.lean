import Workbench.Proofs.Session.Faithfulness

/-!
# Sessions that are open for runs

A session of the engine for the language is *open* (`IsOpen`) when it accepts runs and no guest acts
on events. A new session is open once it has been prepared (`isOpen_prepared`). Then it stays open,
and each run adds to the messages those of the program, and is answered as the program comes out,
whatever the session has been through (`IsOpen.run_quietly`).
-/

namespace Workbench

namespace Engine.Host

/-! ### Setups of the engine for the language -/

/-- The first request is told when the setup fails at once. -/
theorem prepareAll_of_failed_setup {engine : Engine} {error : InitError}
    (hsetup : engine.setup 0 = { result := .error error }) :
    (prepareAll engine {} 1).1 = [.error error] := by
  have hlook : (look engine { requests := [.asked] } 0).1 = .answered (.error error) := by
    change (lookOwner _ 0 (engine.setup 0)).1 = _
    rw [hsetup]
    rfl
  unfold prepareAll
  simp [hsetup, lookRounds, lookAll, hlook]

/-- A host that its first request has made ready. -/
def prepared : Host := { status := .ready, attempts := 1, requests := [.closed] }

/-- The first request prepares the engine for the language, if no limit is zero. -/
theorem prepareAll_lisp {limits : Limits} (hcalls : limits.callDepth ≠ 0)
    (hnesting : limits.nestingDepth ≠ 0) :
    prepareAll (Engine.lisp limits) {} 1 = ([.ok ()], prepared) :=
  prepareAll_of_setup (if_neg (not_or.mpr ⟨hcalls, hnesting⟩))

/-- A limit of zero is refused. -/
theorem prepareAll_lisp_of_zero {limits : Limits}
    (hzero : limits.callDepth = 0 ∨ limits.nestingDepth = 0) :
    (prepareAll (Engine.lisp limits) {} 1).1 =
      [.error (.setup "engine limits must be at least 1")] :=
  prepareAll_of_failed_setup (if_pos hzero)

end Engine.Host

namespace Session

open Audience

/-! ### Sessions without guests -/

/-- The manner of events on which nobody acts: they leave the host alone. -/
def passive : Act.Manner Session where
  inv session := session.audience.Obeys fun _ => False
  rel session after := after.host = session.host
  refl _ := rfl
  trans h h' := h'.trans h

/-- Calls, messages and events leave the host alone. -/
theorem attends_passive : AttendsEvents passive fun _ => False where
  obeys _ hsession := hsession
  attended _ _ hsession hattended := ⟨hattended.obeys hsession, rfl⟩
  logged _ _ hsession := ⟨hsession, rfl⟩
  began _ hsession := ⟨hsession, rfl⟩

/-- A session of a configuration that accepts runs, and whose guests, if it has any, perform
nothing. -/
structure IsOpen (config : Config) (session : Session) : Prop where
  reachable : Reachable Op.IsSessional config (Engine.lisp config.limits) session
  ready : session.host.status.isReady
  unattended : session.audience.Obeys fun _ => False

/-- The texts of the messages of a program: its print events, and its result if results are echoed.
-/
def programTexts (config : Config) (source : String) : List String :=
  let program := Program.run config.limits source
  program.events.map Value.message ++
    (echoed config.echoResult none program.outcome).map Board.Message.text

/-- The run of a message is no part of its text. -/
theorem texts_echoed {ε : Type} (echo : Bool) (run : Option Nat)
    (outcome : Except ε Program.Output) :
    (echoed echo run outcome).map Board.Message.text =
      (echoed echo none outcome).map Board.Message.text := by
  unfold echoed
  split
  · split <;> rfl
  · rfl

namespace IsOpen

variable {config : Config} {session : Session}

/-- The session is as it should be when a run has begun. -/
theorem orderly_begin (h : IsOpen config session) (thread : Nat) :
    (session.begin thread).Orderly := by
  have hguarded := h.reachable.guarded
  exact ⟨rfl, h.unattended.imp fun _ => False.elim, hguarded.sound, hguarded.logFirst h.ready⟩

/-- An open session refuses no run. -/
theorem accepts (h : IsOpen config session) (thread : Nat) : session.refusal? thread = none :=
  refusal?_eq_none_iff.mpr ⟨h.ready, h.reachable.idle.1.inFlight⟩

/-- Clearing the messages leaves the session open. -/
theorem clear (h : IsOpen config session) :
    IsOpen config (session.withBoard session.board.clearMessages) :=
  ⟨h.reachable.perform 0 .clearMessages trivial rfl, h.ready, h.unattended⟩

/-- What a run leaves is open again. -/
theorem of_run (h : IsOpen config session) {source : String}
    {outcome : Except RunError RunReport} {after : Session}
    (hrun : runQuietly source session = some (outcome, after)) : IsOpen config after := by
  have hreachable : Reachable Op.IsSessional config (Engine.lisp config.limits) after := by
    have hperform : perform 1 (.run source) session = some (.ran outcome, after) :=
      Act.bind_eq_some_iff.mpr ⟨_, _, hrun, rfl⟩
    exact h.reachable.perform 1 (.run source) trivial hperform
  unfold runQuietly at hrun
  rw [run_of_accepted (h.accepts 0), Option.map_eq_some_iff] at hrun
  obtain ⟨⟨_, heard⟩, hheard, hconclude⟩ := hrun
  have hdispatch : ∀ values, passive.Keeps (dispatch 1 0 values) :=
    attends_passive.dispatch (fun _ _ _ _ hop => hop.elim) 1 0
  have hbegin : passive.inv (session.begin 0) := h.unattended
  obtain ⟨hobeys, hhost⟩ := dispatchAll_keeps hdispatch _ hbegin hheard
  obtain ⟨board, rfl⟩ := eq_of_conclude hconclude
  refine ⟨hreachable, ?_, hobeys⟩
  change heard.host.status.isReady
  rw [hhost]
  exact h.ready

/-- **A run adds the messages of the program**, whatever the session has been through, and is
answered as the program comes out. -/
theorem run_quietly (h : IsOpen config session) (source : String) :
    ∃ outcome after, runQuietly source session = some (outcome, after) ∧ IsOpen config after ∧
      after.board.texts = session.board.texts ++ programTexts config source ∧
      Agrees (Program.run config.limits source) (session.runs + 1) outcome after := by
  obtain ⟨-, hconfig, hengine⟩ := h.reachable.idle
  have hexecution : session.engine.execute session.runs source =
      Engine.executionOf (Program.run config.limits source) := by
    rw [hengine]
    rfl
  obtain ⟨outcome, after, hrun, hmessages, -⟩ :=
    @run_logged session 0 source (h.accepts 0) (h.orderly_begin 0) 0
  refine ⟨outcome, after, hrun, h.of_run hrun, ?_, ?_⟩
  · rw [hexecution, hconfig, echoed_executionOf] at hmessages
    unfold Board.texts programTexts
    rw [hmessages, List.map_append, List.map_append, texts_echoed, List.map_map, List.append_assoc]
    rfl
  · rw [run_of_accepted (h.accepts 0), Option.map_eq_some_iff] at hrun
    obtain ⟨⟨_, heard⟩, -, hconclude⟩ := hrun
    rw [hexecution] at hconclude
    exact agrees_of_conclude hconclude

end IsOpen

/-! ### New sessions -/

/-- What a request for initialization comes to in a new session. -/
theorem prepare_of_new? {config : Config} {new : Session} (h : new? config = some new) :
    prepare new =
      some (((Engine.Host.prepareAll (Engine.lisp config.limits) {} 1).1.headD (.error .shutDown)),
        { new with host := (Engine.Host.prepareAll (Engine.lisp config.limits) {} 1).2 }) := by
  obtain ⟨board, -, rfl⟩ := Option.map_eq_some_iff.mp h
  rfl

/-- A new session has no messages. -/
theorem texts_of_new? {config : Config} {new : Session} (h : new? config = some new) :
    new.board.texts = [] := by
  obtain ⟨board, hboard, rfl⟩ := Option.map_eq_some_iff.mp h
  obtain ⟨feed, -, rfl⟩ := Option.map_eq_some_iff.mp hboard
  rfl

/-- A new session is open when it has been prepared. -/
theorem isOpen_prepared {config : Config} {new : Session} (h : new? config = some new)
    (hcalls : config.limits.callDepth ≠ 0) (hnesting : config.limits.nestingDepth ≠ 0) :
    IsOpen config { new with host := Engine.Host.prepared } := by
  have hprepare := prepare_of_new? h
  rw [Engine.Host.prepareAll_lisp hcalls hnesting] at hprepare
  have hperform : perform 0 .prepare new =
      some (.prepared (.ok ()), { new with host := Engine.Host.prepared }) :=
    Act.bind_eq_some_iff.mpr ⟨_, _, hprepare, rfl⟩
  refine ⟨(Reachable.new h).perform 0 .prepare trivial hperform, rfl, ?_⟩
  obtain ⟨board, -, rfl⟩ := Option.map_eq_some_iff.mp h
  exact nofun

end Session

end Workbench
