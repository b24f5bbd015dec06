import Workbench.Proofs.Engine.Readiness
import Workbench.Proofs.Session.Effects

/-!
# Sessions that come about

`Reachable P config engine` are the sessions over an engine that come about by operations of a kind
`P`, performed on the session or by its guests. Two facts hold of them between operations:

* no run is in progress, and no messages belong to one (`Reachable.idle`), because every operation
  and every event leaves the slot of the run in progress as it found it (`steady`);
* if the operations are those that the session itself offers, then the message log is the first
  observer, unless the session is shut down (`Reachable.guarded`).
-/

namespace Workbench.Engine.Host

/-! ### Nothing but shutting down shuts a host down, and nothing revives it -/

/-- An attempt that ends leaves a host shut down exactly if it was. -/
theorem settled_eq_shutDown_iff {outcome : Status} (houtcome : IsOutcome outcome)
    (status : Status) : settled status outcome = .shutDown ↔ status = .shutDown := by
  unfold settled
  split
  · rename_i hdown
    exact ⟨fun _ => hdown, fun _ => rfl⟩
  · rename_i hup
    refine ⟨fun h => ?_, fun h => absurd h hup⟩
    rcases houtcome with rfl | ⟨reason, rfl⟩ <;> cases h

/-- The owner of an attempt leaves a host shut down exactly if it was. -/
theorem status_lookOwner_eq_shutDown_iff (host : Host) (number : Nat) (setup : Setup) :
    (host.lookOwner number setup).2.status = .shutDown ↔ host.status = .shutDown := by
  rcases host.status_lookOwner number setup with hsame | ⟨outcome, houtcome, hsettled⟩
  · rw [hsame]
  · rw [hsettled]
    exact settled_eq_shutDown_iff houtcome host.status

/-- A look at a request leaves a host shut down exactly if it was. -/
theorem status_look_eq_shutDown_iff (engine : Engine) (host : Host) (number : Nat) :
    (host.look engine number).2.status = .shutDown ↔ host.status = .shutDown := by
  have hwaiting : (host.lookWaiting number).2.status = .shutDown ↔ host.status = .shutDown := by
    rw [host.status_lookWaiting number]
  unfold look
  split
  · split
    · rename_i hstart
      -- A host that may start an attempt is not shut down, nor is it when the attempt has started.
      refine (status_lookOwner_eq_shutDown_iff _ number _).trans (iff_of_false nofun ?_)
      intro hdown
      rw [hdown] at hstart
      cases hstart
    · exact hwaiting
  · exact status_lookOwner_eq_shutDown_iff host number _
  · exact hwaiting
  · exact Iff.rfl
  · exact Iff.rfl

/-- Looks at requests leave a host shut down exactly if it was. -/
theorem status_lookAll_eq_shutDown_iff (engine : Engine) (answers : Answers) (host : Host) :
    (lookAll engine host answers).2.status = .shutDown ↔ host.status = .shutDown := by
  induction answers generalizing host with
  | nil => exact Iff.rfl
  | cons request rest ih =>
      obtain ⟨number, _ | answer⟩ := request
      · exact (ih _).trans (status_look_eq_shutDown_iff engine host number)
      · exact ih host

/-- Rounds of looks leave a host shut down exactly if it was. -/
theorem status_lookRounds_eq_shutDown_iff (engine : Engine) (rounds : Nat) (answers : Answers)
    (host : Host) :
    (lookRounds engine rounds answers host).2.status = .shutDown ↔ host.status = .shutDown := by
  induction rounds generalizing answers host with
  | zero => exact Iff.rfl
  | succ rounds ih =>
      exact (ih _ _).trans (status_lookAll_eq_shutDown_iff engine answers host)

/-- **Requests neither shut a host down nor revive it.** -/
theorem status_prepareAll_eq_shutDown_iff (engine : Engine) (host : Host) (count : Nat) :
    (host.prepareAll engine count).2.status = .shutDown ↔ host.status = .shutDown :=
  status_lookRounds_eq_shutDown_iff engine _ _ _

/-- A move other than shutting down leaves a host shut down exactly if it was. -/
theorem status_move_eq_shutDown_iff (engine : Engine) (host : Host) {next : Move}
    (hnext : next ≠ .shutDown) :
    (host.move engine next).status = .shutDown ↔ host.status = .shutDown := by
  cases next with
  | ask => exact Iff.rfl
  | look number => exact status_look_eq_shutDown_iff engine host number
  | drop number =>
      simp only [move, drop]
      split
      · exact settled_eq_shutDown_iff (Or.inr ⟨_, rfl⟩) host.status
      all_goals exact Iff.rfl
  | shutDown => exact absurd rfl hnext

/-- The first request prepares an engine that is set up at once. -/
theorem prepareAll_of_setup {engine : Engine} (hsetup : engine.setup 0 = {}) :
    prepareAll engine {} 1 =
      ([.ok ()], { status := .ready, attempts := 1, requests := [.closed] }) := by
  have hlook : look engine { requests := [.asked] } 0 =
      (.answered (.ok ()), { status := .ready, attempts := 1, requests := [.closed] }) := by
    change lookOwner _ 0 (engine.setup 0) = _
    rw [hsetup]
    rfl
  unfold prepareAll
  simp [hsetup, lookRounds, lookAll, hlook]

end Workbench.Engine.Host

namespace Workbench.Session

open Audience

/-! ### Histories -/

/-- The operations that the session itself offers, and not its registry or its board. -/
def Op.IsSessional : Op → Prop
  | .registry _ => False
  | .append _ => False
  | _ => True

/-- The sessions that come about by operations of a kind: guests arrive, who come to operations of
this kind only, and operations of this kind are performed. -/
inductive Reachable (P : Op → Prop) (config : Config) (engine : Engine) : Session → Prop where
  | new {session : Session} (h : withEngine? config engine = some session) :
      Reachable P config engine session
  | invite {session after : Session} {number : Nat} (h : Reachable P config engine session)
      (behaviour : Behaviour Op Answer)
      (hbehaviour : ∀ call values, (behaviour call values).Forall P)
      (hstep : Audience.invite behaviour session = some (number, after)) :
      Reachable P config engine after
  | perform {session after : Session} {answer : Answer} (h : Reachable P config engine session)
      (depth : Nat) (op : Op) (hop : P op)
      (hstep : Session.perform depth op session = some (answer, after)) :
      Reachable P config engine after

/-! ### The run in progress -/

/-- The manner of every operation: whatever run is in progress stays in progress, messages belong to
it, and the session keeps its configuration and its engine. -/
def steady : Act.Manner Session where
  inv session := session.board.currentRun = session.inFlight.map InFlight.run
  rel session after := after.config = session.config ∧ after.engine = session.engine ∧
    after.inFlight = session.inFlight
  refl _ := ⟨rfl, rfl, rfl⟩
  trans h h' := ⟨h'.1.trans h.1, h'.2.1.trans h.2.1, h'.2.2.trans h.2.2⟩

/-- Calls, messages and events leave the run in progress as it is. -/
theorem attends_steady : AttendsEvents steady fun _ => True where
  obeys session _ := obeys_true session.audience
  attended _ _ hsession _ := ⟨hsession, rfl, rfl, rfl⟩
  logged _ _ hsession := ⟨hsession, rfl, rfl, rfl⟩
  began _ hsession := ⟨hsession, rfl, rfl, rfl⟩

/-- A run begins and is over again. -/
theorem run_steady {dispatch : List Value → Step Registry.Report}
    (hdispatch : ∀ values, steady.Keeps (dispatch values)) (thread : Nat) (source : String) :
    steady.Keeps (run dispatch thread source) := by
  intro session result after hsession h
  rcases run_eq_some_iff.mp h with ⟨error, -, -, rfl⟩ | ⟨haccepted, heard, hheard, hresult⟩
  · exact ⟨hsession, steady.refl after⟩
  · -- The slot is taken when the run begins, and free again as it was before when the run is over.
    have hbegin : steady.inv (session.begin thread) := rfl
    obtain ⟨-, hconfig, hengine, -⟩ := dispatchAll_keeps hdispatch _ hbegin hheard
    obtain ⟨board, rfl⟩ := eq_of_conclude hresult
    refine ⟨rfl, hconfig, hengine, ?_⟩
    exact (refusal?_eq_none_iff.mp haccepted).2.symm

/-- Every operation is steady, if the events inside it are. -/
theorem Op.perform_steady {dispatch : Nat → List Value → Step Registry.Report}
    (hdispatch : ∀ thread values, steady.Keeps (dispatch thread values)) (thread : Nat) (op : Op) :
    steady.Keeps (op.perform dispatch thread) := by
  intro session answer after hsession h
  cases Op.perform_effect h with
  | nothing => exact ⟨hsession, steady.refl session⟩
  | ran _ thread' source hrun => exact run_steady (hdispatch thread') thread' source hsession hrun
  | dispatched _ values _ hevent => exact hdispatch thread values hsession hevent
  | prepared => exact ⟨hsession, rfl, rfl, rfl⟩
  | fed => exact ⟨hsession, rfl, rfl, rfl⟩
  | registered => exact ⟨hsession, rfl, rfl, rfl⟩
  | unregistered => exact ⟨hsession, rfl, rfl, rfl⟩
  | bypassed => exact ⟨hsession, rfl, rfl, rfl⟩
  | appended => exact ⟨hsession, rfl, rfl, rfl⟩
  | cleared => exact ⟨hsession, rfl, rfl, rfl⟩
  | shutDown => exact ⟨hsession, rfl, rfl, rfl⟩

/-- Operations are steady, however deeply events are nested in them. -/
theorem perform_steady (depth : Nat) (op : Op) : steady.Keeps (perform depth op) := by
  have hdispatch : ∀ thread values, steady.Keeps (dispatch depth thread values) :=
    attends_steady.dispatch (fun _ hevents thread op _ => op.perform_steady hevents thread) depth
  exact op.perform_steady hdispatch 0

/-- No run is in progress. -/
structure Idle (session : Session) : Prop where
  inFlight : session.inFlight = none
  currentRun : session.board.currentRun = none

/-- **Between operations no run is in progress**, and a session keeps its configuration and its
engine. -/
theorem Reachable.idle {P : Op → Prop} {config : Config} {engine : Engine} {session : Session}
    (h : Reachable P config engine session) :
    session.Idle ∧ session.config = config ∧ session.engine = engine := by
  induction h with
  | new h =>
      obtain ⟨board, hboard, rfl⟩ := Option.map_eq_some_iff.mp h
      obtain ⟨feed, -, rfl⟩ := Option.map_eq_some_iff.mp hboard
      exact ⟨⟨rfl, rfl⟩, rfl, rfl⟩
  | invite _ behaviour _ hstep ih =>
      cases hstep
      exact ⟨⟨ih.1.inFlight, ih.1.currentRun⟩, ih.2⟩
  | @perform session after answer _ depth op _ hstep ih =>
      obtain ⟨hidle, hconfig, hengine⟩ := ih
      have hsession : steady.inv session := by
        change session.board.currentRun = session.inFlight.map InFlight.run
        rw [hidle.inFlight, hidle.currentRun]
        rfl
      obtain ⟨hafter, hconfig', hengine', hinFlight⟩ := perform_steady depth op hsession hstep
      have hnone := hinFlight.trans hidle.inFlight
      change after.board.currentRun = after.inFlight.map InFlight.run at hafter
      rw [hnone] at hafter
      exact ⟨⟨hnone, hafter⟩, hconfig'.trans hconfig, hengine'.trans hengine⟩

/-! ### The message log -/

/-- The entry of the message log. -/
def logEntry : Registry.Entry Observer := ⟨messageLogId, .messageLog⟩

/-- The message log is the first observer. -/
def LogFirst (registry : Registry Observer) : Prop := registry.entries.head? = some logEntry

/-- Another observer comes after the message log. -/
theorem LogFirst.register {registry : Registry Observer} (h : LogFirst registry)
    (observer : Observer) : LogFirst (registry.register observer).2 := by
  unfold Registry.register
  split
  · exact h
  · change (registry.entries ++ [_]).head? = some logEntry
    rw [List.head?_append, h]
    rfl

/-- The message log stays first when another identifier is removed. -/
theorem LogFirst.unregister {registry : Registry Observer} (h : LogFirst registry)
    {id : ObserverId} (hid : id ≠ messageLogId) : LogFirst (registry.unregister id).2 := by
  obtain ⟨rest, hentries⟩ := List.head?_eq_some_iff.mp h
  change (registry.entries.filter fun entry => entry.id ≠ id).head? = some logEntry
  have hlog : logEntry.id ≠ id := Ne.symm hid
  rw [hentries, List.filter_cons, if_pos (decide_eq_true hlog)]
  rfl

/-- What holds of a session of which nobody goes past the session to its registry. -/
structure Guarded (session : Session) : Prop where
  /-- No guest goes past the session. -/
  obeys : session.audience.Obeys Op.IsSessional
  /-- The table of the registry is as it should be. -/
  sound : session.audience.registry.Sound
  /-- The message log comes first, unless the session is shut down and nobody is registered. -/
  log : LogFirst session.audience.registry ∨
    session.host.status = .shutDown ∧ session.audience.registry.entries = []

/-- The manner of the operations that the session itself offers. -/
def guarding : Act.Manner Session where
  inv := Guarded
  rel _ _ := True
  refl _ := trivial
  trans _ _ := trivial

/-- Only the audience and the host matter. -/
theorem Guarded.congr {session session' : Session} (h : session.Guarded)
    (haudience : session'.audience = session.audience) (hhost : session'.host = session.host) :
    session'.Guarded := by
  refine ⟨haudience ▸ h.obeys, haudience ▸ h.sound, ?_⟩
  rw [haudience, hhost]
  exact h.log

/-- Guests may come to do something else, and events and failures may be counted. -/
theorem Guarded.withAudience {session : Session} (h : session.Guarded)
    {audience : Audience Observer Op Answer} (hobeys : audience.Obeys Op.IsSessional)
    (hentries : audience.registry.entries = session.audience.registry.entries)
    (hnext : audience.registry.nextId = session.audience.registry.nextId) :
    { session with audience := audience }.Guarded := by
  refine ⟨hobeys, h.sound.congr hentries hnext, ?_⟩
  change audience.registry.entries.head? = _ ∨
    session.host.status = _ ∧ audience.registry.entries = []
  rw [hentries]
  exact h.log

/-- Calls, messages and events keep a session guarded. -/
theorem attends_guarding : AttendsEvents guarding Op.IsSessional where
  obeys _ hsession := hsession.obeys
  attended session audience hsession hattended := by
    obtain ⟨hentries, hnext, -⟩ := hattended.registry_eq
    exact ⟨hsession.withAudience (hattended.obeys hsession.obeys) hentries hnext, trivial⟩
  logged _ _ hsession := ⟨hsession.congr rfl rfl, trivial⟩
  began _ hsession := ⟨hsession.withAudience hsession.obeys rfl rfl, trivial⟩

/-- A session that is ready is not shut down. -/
theorem Guarded.logFirst {session : Session} (h : session.Guarded)
    (hready : session.host.status.isReady) : LogFirst session.audience.registry := by
  rcases h.log with hfirst | ⟨hdown, -⟩
  · exact hfirst
  · rw [hdown] at hready
    cases hready

/-- Every operation of the session keeps it guarded, if the events inside it do. -/
theorem Op.perform_guarded {dispatch : Nat → List Value → Step Registry.Report}
    (hdispatch : ∀ thread values, guarding.Keeps (dispatch thread values)) (thread : Nat) (op : Op)
    (hop : op.IsSessional) : guarding.Keeps (op.perform dispatch thread) := by
  intro session answer after hsession h
  refine ⟨?_, trivial⟩
  cases Op.perform_effect h with
  | nothing => exact hsession
  | prepared _ count =>
      refine ⟨hsession.obeys, hsession.sound, ?_⟩
      rcases hsession.log with hfirst | ⟨hdown, hnobody⟩
      · exact Or.inl hfirst
      · exact Or.inr ⟨(Engine.Host.status_prepareAll_eq_shutDown_iff _ _ count).mpr hdown, hnobody⟩
  | ran _ thread' source hrun =>
      rcases run_eq_some_iff.mp hrun with ⟨error, -, -, rfl⟩ | ⟨-, heard, hheard, hresult⟩
      · exact hsession
      · have hbegin : (session.begin thread').Guarded := hsession.congr rfl rfl
        have hguarded := (dispatchAll_keeps (hdispatch thread') _ hbegin hheard).1
        obtain ⟨board, rfl⟩ := eq_of_conclude hresult
        exact Guarded.congr hguarded rfl rfl
  | fed => exact hsession.congr rfl rfl
  | registered observer hready =>
      exact ⟨hsession.obeys, (hsession.sound.register observer).1,
        Or.inl ((hsession.logFirst hready).register observer)⟩
  | unregistered id hid =>
      refine ⟨hsession.obeys, (hsession.sound.unregister id).1, ?_⟩
      rcases hsession.log with hfirst | ⟨hdown, hnobody⟩
      · exact Or.inl (hfirst.unregister hid)
      · refine Or.inr ⟨hdown, ?_⟩
        change session.audience.registry.entries.filter _ = []
        rw [hnobody]
        rfl
  | cleared => exact hsession.congr rfl rfl
  | shutDown => exact ⟨hsession.obeys, hsession.sound.clear.1, Or.inr ⟨rfl, rfl⟩⟩
  | bypassed => exact absurd hop id
  | dispatched => exact absurd hop id
  | appended => exact absurd hop id

/-- A new session has the message log and nobody else. -/
theorem guarded_of_withEngine? {config : Config} {engine : Engine} {session : Session}
    (h : withEngine? config engine = some session) : session.Guarded := by
  obtain ⟨board, -, rfl⟩ := Option.map_eq_some_iff.mp h
  refine ⟨?_, (Registry.sound_new.register Observer.messageLog).1, Or.inl rfl⟩
  intro number guest hguest
  cases hguest

/-- **The message log comes first** in every session that is not shut down, if nobody goes past the
session. -/
theorem Reachable.guarded {config : Config} {engine : Engine} {session : Session}
    (h : Reachable Op.IsSessional config engine session) : session.Guarded := by
  induction h with
  | new h => exact guarded_of_withEngine? h
  | invite _ behaviour hbehaviour hstep ih =>
      cases hstep
      exact ih.withAudience (ih.obeys.push hbehaviour) rfl rfl
  | perform _ depth op hop hstep ih =>
      have hdispatch : ∀ thread values, guarding.Keeps (dispatch depth thread values) :=
        attends_guarding.dispatch
          (fun _ hevents thread op hop => op.perform_guarded hevents thread hop) depth
      exact (op.perform_guarded hdispatch 0 hop ih hstep).1

/-! ### A session with a guest -/

/-- A guest that asks for a run whenever it is called. -/
def insistent : Behaviour Op Answer := fun _ _ => .act (.run "again") fun _ => .finish .accepted

/-- A session that is ready, with such a guest. -/
def occupied (engine : Engine) : Session where
  config := {}
  engine := engine
  host := { status := .ready, attempts := 1, requests := [.closed] }
  board := { feed := { capacity := Nat.nextPowerOfTwo 256 } }
  audience := {
    registry := { entries := [logEntry, ⟨⟨2⟩, .guest 0⟩], nextId := 3 }
    guests := #[{ behaviour := insistent }] }

/-- Such a session comes about over every engine that is set up at once. -/
theorem reachable_occupied {engine : Engine} (hsetup : engine.setup 0 = {}) :
    Reachable Op.IsSessional {} engine (occupied engine) := by
  have hnew : withEngine? {} engine = some
      { config := {}
        engine := engine
        board := { feed := { capacity := Nat.nextPowerOfTwo 256 } }
        audience := { registry := { entries := [logEntry], nextId := 2 } } } := rfl
  have hprepare : ∀ session : Session, session.engine = engine → session.host = {} →
      perform 0 .prepare session = some (.prepared (.ok ()), { session with
        host := { status := .ready, attempts := 1, requests := [.closed] } }) := by
    intro session hengine hhost
    change some (Answer.prepared ((session.host.prepareAll session.engine 1).1.headD _),
      { session with host := (session.host.prepareAll session.engine 1).2 }) = _
    rw [hengine, hhost, Engine.Host.prepareAll_of_setup hsetup]
    rfl
  have hready := (Reachable.new (P := Op.IsSessional) hnew).perform 0 .prepare trivial
    (hprepare _ rfl rfl)
  have hguest := hready.invite insistent (fun _ _ => ⟨trivial, fun _ => trivial⟩) rfl
  exact hguest.perform 0 (.register (.guest 0)) trivial rfl

end Workbench.Session
