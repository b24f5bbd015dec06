import Workbench.Proofs.Session.Atomicity

/-!
# Operations that begin no run

The operations that a session itself offers do little as long as no run begins (`Minor`): they leave
the runs and what the board shows alone, but that messages can be cleared; they keep the message log
in its place until the session is shut down, and leave nobody registered from then on. Only shutting
down shuts a session down, and only an operation that asks to run begins a run
(`Op.runs_of_perform`).
-/

namespace Workbench.Session

open Audience

/-! ### What an operation does that begins no run -/

/-- What becomes of a session when an operation that the session itself offers is performed and no
run begins. -/
structure Minor (op : Op) (session after : Session) : Prop where
  config : after.config = session.config
  engine : after.engine = session.engine
  runs : after.runs = session.runs
  inFlight : after.inFlight = session.inFlight
  currentRun : after.board.currentRun = session.board.currentRun
  artifacts : after.board.artifacts = session.board.artifacts
  lastError : after.board.lastError = session.board.lastError
  messages : after.board.messages = session.board.messages ∨
    op = .clearMessages ∧ after.board.messages = #[]
  guests : after.audience.guests = session.audience.guests
  status : after.host.status = .shutDown ↔ session.host.status = .shutDown ∨ op = .shutDown
  log : op ≠ .shutDown → LogFirst session.audience.registry → LogFirst after.audience.registry
  nobody : op = .shutDown ∨
    session.host.status = .shutDown ∧ session.audience.registry.entries = [] →
    after.audience.registry.entries = []

/-- Another host, another registry and other subscribers. -/
theorem minor_of_parts {op : Op} (hop : op ≠ .shutDown) {session : Session} {host : Engine.Host}
    (hstatus : host.status = .shutDown ↔ session.host.status = .shutDown)
    {registry : Registry Observer} (hlog : LogFirst session.audience.registry → LogFirst registry)
    (hnobody : session.host.status = .shutDown ∧ session.audience.registry.entries = [] →
      registry.entries = [])
    (feed : Board.Feed (Board.Event Nat)) :
    Minor op session { session with
      host := host
      audience := { session.audience with registry := registry }
      board := { session.board with feed := feed } } where
  config := rfl
  engine := rfl
  runs := rfl
  inFlight := rfl
  currentRun := rfl
  artifacts := rfl
  lastError := rfl
  messages := Or.inl rfl
  guests := rfl
  status := hstatus.trans ⟨Or.inl, fun h => h.resolve_right hop⟩
  log _ hfirst := hlog hfirst
  nobody h := hnobody (h.resolve_left hop)

/-- **What an operation does that begins no run.** -/
theorem Op.perform_minor {dispatch : Nat → List Value → Step Registry.Report} {thread : Nat}
    {op : Op} {session after : Session} {answer : Answer} (hop : op.IsSessional)
    (h : op.perform dispatch thread session = some (answer, after))
    (hquiet : ∀ thread source result,
      Session.run (dispatch thread) thread source session = some (result, after) →
        after = session) :
    Minor op session after := by
  -- The effects allow for an operation that does nothing, which shutting down is not.
  by_cases hdown : op = .shutDown
  · subst hdown
    cases h
    exact ⟨rfl, rfl, rfl, rfl, rfl, rfl, rfl, Or.inl rfl, rfl, ⟨fun _ => Or.inr rfl, fun _ => rfl⟩,
      fun hne => absurd rfl hne, fun _ => rfl⟩
  · have hsame : Minor op session session :=
      minor_of_parts hdown Iff.rfl id And.right session.board.feed
    cases Op.perform_effect h with
    | nothing => exact hsame
    | prepared _ count =>
        exact minor_of_parts hdown (Engine.Host.status_prepareAll_eq_shutDown_iff _ _ count) id
          And.right session.board.feed
    | ran _ thread' source hrun =>
        rw [hquiet thread' source _ hrun]
        exact hsame
    | fed _ feed => exact minor_of_parts hdown Iff.rfl id And.right feed
    | registered observer hready =>
        refine minor_of_parts hdown Iff.rfl (fun hfirst => hfirst.register observer) ?_
          session.board.feed
        rintro ⟨hstatus, -⟩
        rw [hstatus] at hready
        cases hready
    | unregistered id hid =>
        refine minor_of_parts hdown Iff.rfl (fun hfirst => hfirst.unregister hid) ?_
          session.board.feed
        rintro ⟨-, hnobody⟩
        change session.audience.registry.entries.filter _ = []
        rw [hnobody]
        rfl
    | cleared => exact { hsame with messages := Or.inr ⟨rfl, rfl⟩ }
    | shutDown => exact absurd rfl hdown
    | bypassed => exact absurd hop id
    | dispatched => exact absurd hop id
    | appended => exact absurd hop id

/-- A run that is accepted is counted. -/
theorem runs_of_accepted {depth thread : Nat} {source : String} {session after : Session}
    {result : Except RunError RunReport} (haccepted : session.refusal? thread = none)
    (h : run (dispatch depth thread) thread source session = some (result, after)) :
    after.runs = session.runs + 1 := by
  rcases run_eq_some_iff.mp h with ⟨error, hrefused, -⟩ | ⟨-, heard, hheard, hresult⟩
  · rw [haccepted] at hrefused
    cases hrefused
  · obtain ⟨board, rfl⟩ := eq_of_conclude hresult
    exact ((dispatchAll_during hheard).within rfl).runs

/-- A request to run after which as many runs have been accepted as before changes nothing. -/
theorem eq_of_runs_eq {depth thread : Nat} {source : String} {session after : Session}
    {result : Except RunError RunReport}
    (h : run (dispatch depth thread) thread source session = some (result, after))
    (hruns : after.runs = session.runs) : after = session := by
  rcases hrefusal : session.refusal? thread with _ | error
  · have hcounted := runs_of_accepted hrefusal h
    omega
  · rw [run_of_refused hrefusal] at h
    cases h
    rfl

/-! ### Operations that ask to run -/

/-- The source text that an operation asks to run. -/
def Op.source? : Op → Option String
  | .run source => some source
  | .runElsewhere source => some source
  | _ => none

section Source

variable {dispatch : Nat → List Value → Step Registry.Report} {thread : Nat} {op : Op}
variable {session after : Session} {answer : Answer}

/-- An operation that asks to run answers what the run does. -/
theorem Op.perform_of_source {source : String} (hsource : op.source? = some source)
    (h : op.perform dispatch thread session = some (answer, after)) :
    ∃ thread' result, Session.run (dispatch thread') thread' source session =
      some (result, after) ∧ answer = .ran result := by
  cases op with
  | run =>
      cases hsource
      obtain ⟨result, _, hrun, hreturn⟩ := Act.bind_eq_some_iff.mp h
      cases hreturn
      exact ⟨thread, result, hrun, rfl⟩
  | runElsewhere =>
      cases hsource
      obtain ⟨result, _, hrun, hreturn⟩ := Act.bind_eq_some_iff.mp h
      cases hreturn
      exact ⟨thread + 1, result, hrun, rfl⟩
  | _ => cases hsource

/-- An operation that does not ask to run begins no run. -/
theorem Op.runs_of_perform (hop : op.IsSessional) (hsource : op.source? = none)
    (h : op.perform dispatch thread session = some (answer, after)) :
    after.runs = session.runs := by
  cases op with
  | run => cases hsource
  | runElsewhere => cases hsource
  | registry => exact absurd hop id
  | append => exact absurd hop id
  | inspect source =>
      obtain ⟨result, _, hinspect, hreturn⟩ := Act.bind_eq_some_iff.mp h
      cases hreturn
      rw [eq_of_inspect hinspect]
  | register observer =>
      obtain ⟨result, _, hregister, hreturn⟩ := Act.bind_eq_some_iff.mp h
      cases hreturn
      change (if session.host.status.isReady then _ else _ : Step _) session = _ at hregister
      split at hregister <;> cases hregister <;> rfl
  | unregister id =>
      obtain ⟨removed, _, hunregister, hreturn⟩ := Act.bind_eq_some_iff.mp h
      cases hreturn
      unfold Session.unregister at hunregister
      split at hunregister <;> cases hunregister <;> rfl
  | prepare | prepareMany | clearMessages | shutDown | subscribe | drain | view | snapshot
  | config =>
      cases h
      rfl

end Source

end Workbench.Session
