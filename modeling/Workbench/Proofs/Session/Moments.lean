import Workbench.Proofs.Session.Past
import Workbench.Proofs.Session.Quiet

/-!
# A session at every moment of its history

A session *leads* to another one by steps that are as small as the code that observers can come
between (`Leads`): a run is accepted, each of its events begins, the message log adds a message, an
observer is called and performs operations, and in the end the run is concluded. Operations may also
be performed, and requests for initialization be looked at or dropped, at any moment and on any
thread. Along with the session goes its past, the list of what has happened until then. A `Moment`
is a session that a new one leads to, with its past.

**Theorem** (`Moment.history_consistent`): at every moment the session is what its past says
(`Consistent`); and every operation on a session without a run in progress leads from there to such
a moment again, where the past goes on with the operation and its answer (`Accounts`), whatever
observers do meanwhile.

The invariant (`Told`) says of each part of a session what it owes to the past, and each step
changes few parts. What an operation can do that begins no run is said once (`Minor`), and that
operations of observers are nothing but further steps is a manner of all events (`passing`).
-/

namespace Workbench.Session

open Audience

/-! ### Moments -/

/-- The sessions that come about from one, moment by moment, with what has happened until then.
Guests come to operations only that the session itself offers. -/
inductive Leads (config : Config) (engine : Engine) (origin : List Happening) (first : Session) :
    List Happening → Session → Prop where
  | start : Leads config engine origin first origin first
  | invite {past : List Happening} {session after : Session} {number : Nat}
      (h : Leads config engine origin first past session) (behaviour : Behaviour Op Answer)
      (hbehaviour : ∀ call values, (behaviour call values).Forall Op.IsSessional)
      (hstep : Audience.invite behaviour session = some (number, after)) :
      Leads config engine origin first past after
  /-- A request for initialization is made, looked at or dropped. -/
  | moved {past : List Happening} {session : Session}
      (h : Leads config engine origin first past session) (next : Engine.Host.Move)
      (hnext : next ≠ .shutDown) :
      Leads config engine origin first past
        { session with host := session.host.move engine next }
  /-- An operation is performed that begins no run. -/
  | performed {past : List Happening} {session after : Session} {answer : Answer}
      (h : Leads config engine origin first past session) (depth thread : Nat) (op : Op)
      (hop : op.IsSessional)
      (hstep : op.perform (dispatch depth) thread session = some (answer, after))
      (hruns : after.runs = session.runs) :
      Leads config engine origin first (past ++ [.performed op answer]) after
  /-- A request to run is accepted. -/
  | accepted {past : List Happening} {session : Session}
      (h : Leads config engine origin first past session) (thread : Nat) (source : String)
      (haccepted : session.refusal? thread = none) :
      Leads config engine origin first (past ++ [.accepted (session.runs + 1) source])
        (session.begin thread)
  /-- An event of the run in progress begins. -/
  | event {past : List Happening} {session : Session}
      (h : Leads config engine origin first past session)
      (hinFlight : session.inFlight.isSome) :
      Leads config engine origin first past (began session)
  /-- The message log adds a message of the run in progress. -/
  | logged {past : List Happening} {session : Session}
      (h : Leads config engine origin first past session)
      (hinFlight : session.inFlight.isSome) (text : String) :
      Leads config engine origin first past (session.withBoard (session.board.append text))
  /-- A guest is called or credited with something, or has failed. -/
  | attended {past : List Happening} {session : Session}
      (h : Leads config engine origin first past session)
      {audience : Audience Observer Op Answer} (hattended : Attended session.audience audience) :
      Leads config engine origin first past { session with audience := audience }
  /-- The run in progress is over, and its outcome is published. -/
  | completed {past : List Happening} {before heard after : Session} {run thread : Nat}
      {source : String} {result : Except RunError RunReport}
      (h : Leads config engine origin first past heard)
      (hinFlight : heard.inFlight = some ⟨run, thread⟩) (hsource : .accepted run source ∈ past)
      (hconfig : before.config = config)
      (hresult : conclude before run (engine.execute (run - 1) source).outcome heard =
        (result, after)) :
      Leads config engine origin first
        (past ++ [.completed run (engine.execute (run - 1) source).outcome]) after

/-- A session over an engine at some moment, with what has happened since it was new. -/
def Moment (config : Config) (engine : Engine) (past : List Happening) (session : Session) : Prop :=
  ∃ first, withEngine? config engine = some first ∧ Leads config engine [] first past session

section Leads

variable {config : Config} {engine : Engine} {origin past past' : List Happening}
variable {first session after : Session}

/-- What leads from a first session to a second one, and from there to a third, leads to the third.
-/
theorem Leads.trans (h : Leads config engine origin first past session)
    (h' : Leads config engine past session past' after) :
    Leads config engine origin first past' after := by
  induction h' with
  | start => exact h
  | invite _ behaviour hbehaviour hstep ih => exact ih.invite behaviour hbehaviour hstep
  | moved _ next hnext ih => exact ih.moved next hnext
  | performed _ depth thread op hop hstep hruns ih =>
      exact ih.performed depth thread op hop hstep hruns
  | accepted _ thread source haccepted ih => exact ih.accepted thread source haccepted
  | event _ hinFlight ih => exact ih.event hinFlight
  | logged _ hinFlight text ih => exact ih.logged hinFlight text
  | attended _ hattended ih => exact ih.attended hattended
  | completed _ hinFlight hsource hconfig hresult ih =>
      exact ih.completed hinFlight hsource hconfig hresult

/-- A moment leads to moments. -/
theorem Moment.leads (h : Moment config engine past session)
    (h' : Leads config engine past session past' after) : Moment config engine past' after := by
  obtain ⟨first, hnew, hleads⟩ := h
  exact ⟨first, hnew, hleads.trans h'⟩

end Leads

/-! ### What a session owes to its past -/

/-- What is true of a session at a moment, given what has happened until then. -/
structure Told (config : Config) (engine : Engine) (past : List Happening) (session : Session) :
    Prop where
  config : session.config = config
  engine : session.engine = engine
  obeys : session.audience.Obeys Op.IsSessional
  /-- New messages belong to the run in progress. -/
  slot : session.board.currentRun = session.inFlight.map InFlight.run
  /-- The run in progress is the one accepted last. -/
  current : ∀ current, session.inFlight = some current →
    current.run = session.runs ∧ 0 < session.runs
  /-- Runs are numbered as they are accepted. -/
  numbered : acceptedRuns past = List.range' 1 session.runs
  messages : InBlocks (acceptedRuns past) session.board.messages.toList
  artifacts : session.board.artifacts = latestArtifacts past
  lastError : session.board.lastError = latestFailure past
  status : session.host.status = .shutDown ↔ WasShutDown past
  log : session.host.status ≠ .shutDown → LogFirst session.audience.registry
  nobody : session.host.status = .shutDown → session.audience.registry.entries = []

section Told

variable {config : Config} {engine : Engine} {past : List Happening} {session : Session}

/-- A new session owes nothing to a past. -/
theorem told_of_withEngine? (h : withEngine? config engine = some session) :
    Told config engine [] session := by
  obtain ⟨board, hboard, rfl⟩ := Option.map_eq_some_iff.mp h
  obtain ⟨feed, -, rfl⟩ := Option.map_eq_some_iff.mp hboard
  exact
    { config := rfl
      engine := rfl
      obeys := nofun
      slot := rfl
      current := nofun
      numbered := rfl
      messages := inBlocks_nil _
      artifacts := rfl
      lastError := rfl
      status := ⟨nofun, fun ⟨_, hmem⟩ => absurd hmem List.not_mem_nil⟩
      log := fun _ => rfl
      nobody := nofun }

/-- Another host and another audience, with the same observers. -/
theorem Told.withParts (h : Told config engine past session) {host : Engine.Host}
    (hstatus : host.status = .shutDown ↔ session.host.status = .shutDown)
    {audience : Audience Observer Op Answer} (hobeys : audience.Obeys Op.IsSessional)
    (hentries : audience.registry.entries = session.audience.registry.entries) :
    Told config engine past { session with host := host, audience := audience } where
  config := h.config
  engine := h.engine
  obeys := hobeys
  slot := h.slot
  current := h.current
  numbered := h.numbered
  messages := h.messages
  artifacts := h.artifacts
  lastError := h.lastError
  status := hstatus.trans h.status
  log hup := by
    unfold LogFirst
    rw [hentries]
    exact h.log fun hdown => hup (hstatus.mpr hdown)
  nobody hdown := hentries.trans (h.nobody (hstatus.mp hdown))

/-- An operation is performed that begins no run. -/
theorem Told.performed (h : Told config engine past session) {op : Op} {after : Session}
    (hminor : Minor op session after) (answer : Answer) :
    Told config engine (past ++ [.performed op answer]) after where
  config := hminor.config.trans h.config
  engine := hminor.engine.trans h.engine
  obeys := by
    intro number guest hguest
    rw [hminor.guests] at hguest
    exact h.obeys number guest hguest
  slot := by rw [hminor.currentRun, hminor.inFlight, h.slot]
  current := by rw [hminor.inFlight, hminor.runs]; exact h.current
  numbered := by rw [acceptedRuns_performed, hminor.runs, h.numbered]
  messages := by
    rw [acceptedRuns_performed]
    rcases hminor.messages with hsame | ⟨-, hnone⟩
    · rw [hsame]
      exact h.messages
    · rw [hnone]
      exact inBlocks_nil _
  artifacts := by rw [hminor.artifacts, latestArtifacts_performed, h.artifacts]
  lastError := by rw [hminor.lastError, latestFailure_performed, h.lastError]
  status := by rw [hminor.status, wasShutDown_performed, h.status]
  log hup := by
    have hboth := fun h' => hup (hminor.status.mpr h')
    exact hminor.log (fun hdown => hboth (Or.inr hdown)) (h.log fun hdown => hboth (Or.inl hdown))
  nobody hdown := by
    refine hminor.nobody ?_
    rcases hminor.status.mp hdown with hbefore | hop
    · exact Or.inr ⟨hbefore, h.nobody hbefore⟩
    · exact Or.inl hop

/-- A request to run is accepted. -/
theorem Told.accepted (h : Told config engine past session) (thread : Nat) (source : String) :
    Told config engine (past ++ [.accepted (session.runs + 1) source]) (session.begin thread) where
  config := h.config
  engine := h.engine
  obeys := h.obeys
  slot := rfl
  current := by
    rintro current ⟨⟩
    exact ⟨rfl, Nat.zero_lt_succ _⟩
  numbered := by
    rw [acceptedRuns_accepted, h.numbered]
    change _ = List.range' 1 (session.runs + 1)
    rw [List.range'_1_concat, Nat.add_comm]
  messages := by
    have hnew : session.runs + 1 ∉ acceptedRuns past := by
      rw [h.numbered, List.mem_range'_1]
      omega
    rw [acceptedRuns_accepted]
    exact h.messages.accept hnew
  artifacts := by rw [latestArtifacts_accepted]; exact h.artifacts
  lastError := by rw [latestFailure_accepted]; exact h.lastError
  status := by rw [wasShutDown_accepted]; exact h.status
  log := h.log
  nobody := h.nobody

/-- The run in progress comes last among those accepted, and messages that come belong to it. -/
theorem Told.append (h : Told config engine past session) (hinFlight : session.inFlight.isSome)
    (text : String) :
    InBlocks (acceptedRuns past)
      (session.board.messages.toList ++ [⟨text, session.board.currentRun⟩]) := by
  obtain ⟨current, hcurrent⟩ := Option.isSome_iff_exists.mp hinFlight
  obtain ⟨hrun, hpos⟩ := h.current current hcurrent
  obtain ⟨earlier, hearlier⟩ := Nat.exists_eq_succ_of_ne_zero (Nat.ne_of_gt hpos)
  have hlast : acceptedRuns past = List.range' 1 earlier ++ [session.runs] := by
    rw [h.numbered, hearlier, Nat.succ_eq_add_one, List.range'_1_concat, Nat.add_comm]
  have hnew : session.runs ∉ List.range' 1 earlier := by
    rw [List.mem_range'_1]
    omega
  have hmessages := h.messages
  rw [hlast] at hmessages ⊢
  rw [h.slot, hcurrent, Option.map_some, hrun]
  exact hmessages.append hnew text

/-- The message log adds a message of the run in progress. -/
theorem Told.logged (h : Told config engine past session) (hinFlight : session.inFlight.isSome)
    (text : String) :
    Told config engine past (session.withBoard (session.board.append text)) :=
  { h with
    messages := by
      have happend := h.append hinFlight text
      rwa [← Array.toList_push] at happend }

/-- The run in progress is over, and its outcome is published. -/
theorem Told.completed {before heard after : Session} {run : Nat}
    {outcome : Except Engine.ExecutionError Program.Output} {result : Except RunError RunReport}
    (h : Told config engine past heard) (hinFlight : heard.inFlight.isSome)
    (hresult : conclude before run outcome heard = (result, after)) :
    Told config engine (past ++ [.completed run outcome]) after := by
  have hmessages : InBlocks (acceptedRuns past) after.board.messages.toList := by
    rw [messages_of_conclude hresult]
    cases outcome with
    | error error => simpa [echoed] using h.messages
    | ok output =>
        simp only [echoed]
        split
        · exact h.append hinFlight _
        · simpa using h.messages
  have hartifacts := artifacts_of_conclude hresult
  have hlastError := lastError_of_conclude hresult
  obtain ⟨board, rfl⟩ := eq_of_conclude hresult
  exact
    { config := h.config
      engine := h.engine
      obeys := h.obeys
      slot := rfl
      current := by intro current hcurrent; cases hcurrent
      numbered := by rw [acceptedRuns_completed]; exact h.numbered
      messages := by rw [acceptedRuns_completed]; exact hmessages
      artifacts := by rw [latestArtifacts_completed, ← h.artifacts]; exact hartifacts
      lastError := by rw [latestFailure_completed]; exact hlastError
      status := by rw [wasShutDown_completed]; exact h.status
      log := h.log
      nobody := h.nobody }

/-- **What a session owes to its past is kept from moment to moment.** -/
theorem Told.leads {origin : List Happening} {first : Session}
    (htold : Told config engine origin first)
    (h : Leads config engine origin first past session) : Told config engine past session := by
  induction h with
  | start => exact htold
  | invite _ behaviour hbehaviour hstep ih =>
      cases hstep
      exact ih.withParts Iff.rfl (ih.obeys.push hbehaviour) rfl
  | moved _ next hnext ih =>
      exact ih.withParts (Engine.Host.status_move_eq_shutDown_iff _ _ hnext) ih.obeys rfl
  | performed _ depth thread op hop hstep hruns ih =>
      exact ih.performed (op.perform_minor hop hstep fun _ _ _ hrun => eq_of_runs_eq hrun hruns) _
  | accepted _ thread source _ ih => exact ih.accepted thread source
  | event _ _ ih => exact ih.withParts Iff.rfl ih.obeys rfl
  | logged _ hinFlight text ih => exact ih.logged hinFlight text
  | attended _ hattended ih =>
      exact ih.withParts Iff.rfl (hattended.obeys ih.obeys) hattended.registry_eq.1
  | completed _ hinFlight _ _ hresult ih =>
      exact ih.completed (by rw [hinFlight]; rfl) hresult

/-- **At every moment** a session is what its past has made of it. -/
theorem Moment.told (h : Moment config engine past session) : Told config engine past session := by
  obtain ⟨first, hnew, hleads⟩ := h
  exact (told_of_withEngine? hnew).leads hleads

end Told

/-! ### Operations lead from moment to moment -/

/-- What is answered of a run with an outcome. -/
def Reports (run : Nat) :
    Except Engine.ExecutionError Program.Output → Except RunError RunReport → Prop
  | .ok output, .ok report => report.run = run ∧ report.result = output.result
  | .error error, .error (.execution run' error') => run' = run ∧ error' = error
  | _, _ => False

/-- Operations were performed that began no run, and nothing else happened. -/
def OnlyPerformed (happenings : List Happening) : Prop :=
  ∀ happening ∈ happenings, ∃ op answer, happening = .performed op answer

/-- How the past goes on when an operation is performed and answered: it began no run; or it was
accepted as a run, observers performed operations while it was in progress, and it was completed
with the outcome that is answered. -/
inductive Accounts (op : Op) (answer : Answer) : List Happening → Prop where
  | performed : Accounts op answer [.performed op answer]
  | ran {source : String} (hop : op.source? = some source) {run : Nat}
      {outcome : Except Engine.ExecutionError Program.Output}
      {result : Except RunError RunReport} (hanswer : answer = .ran result)
      (hresult : Reports run outcome result) {meanwhile : List Happening}
      (hmeanwhile : OnlyPerformed meanwhile) :
      Accounts op answer (.accepted run source :: meanwhile ++ [.completed run outcome])

/-- Where nothing happens, no run begins. -/
theorem onlyPerformed_nil : OnlyPerformed [] := fun _ hmem => absurd hmem List.not_mem_nil

/-- No run begins in two stretches of time of which neither has one. -/
theorem OnlyPerformed.append {happenings happenings' : List Happening}
    (h : OnlyPerformed happenings) (h' : OnlyPerformed happenings') :
    OnlyPerformed (happenings ++ happenings') :=
  fun happening hmem => (List.mem_append.mp hmem).elim (h happening) (h' happening)

section Adequacy

variable {config : Config} {engine : Engine} {past : List Happening} {session after : Session}

/-- The manner of what happens while a run is in progress: it leads from moment to moment, and
operations are performed that begin no run. -/
def passing (config : Config) (engine : Engine) : Act.Manner Session where
  inv session := session.inFlight.isSome ∧ session.audience.Obeys Op.IsSessional
  rel session after := ∀ past,
    ∃ new, OnlyPerformed new ∧ Leads config engine past session (past ++ new) after
  refl session past := ⟨[], onlyPerformed_nil, by rw [List.append_nil]; exact .start⟩
  trans h h' past := by
    obtain ⟨new, hnew, hmid⟩ := h past
    obtain ⟨new', hnew', hafter⟩ := h' (past ++ new)
    rw [List.append_assoc] at hafter
    exact ⟨new ++ new', hnew.append hnew', hmid.trans hafter⟩

/-- A step of which nothing is told. -/
theorem passing_of_leads (h : ∀ past, Leads config engine past session past after) :
    (passing config engine).rel session after :=
  fun past => ⟨[], onlyPerformed_nil, by rw [List.append_nil]; exact h past⟩

/-- Calls, messages and events while a run is in progress lead from moment to moment. -/
theorem attends_passing : AttendsEvents (passing config engine) Op.IsSessional where
  obeys _ hsession := hsession.2
  attended _ _ hsession hattended :=
    ⟨⟨hsession.1, hattended.obeys hsession.2⟩,
      passing_of_leads fun _ => Leads.start.attended hattended⟩
  logged _ text hsession :=
    ⟨hsession, passing_of_leads fun _ => Leads.start.logged hsession.1 text⟩
  began _ hsession := ⟨hsession, passing_of_leads fun _ => Leads.start.event hsession.1⟩

/-- The events of a run lead from moment to moment, however deeply they are nested. -/
theorem dispatch_passing (depth thread : Nat) (values : List Value) :
    (passing config engine).Keeps (dispatch depth thread values) := by
  refine attends_passing.dispatch (fun depth _ thread op hop => ?_) depth thread values
  intro session answer after hsession hstep
  obtain ⟨hafter, hwithin⟩ :=
    op.perform_within (dispatch_within Op.IsSessional depth) thread hsession hstep
  refine ⟨hafter, fun past => ⟨[.performed op answer], ?_, ?_⟩⟩
  · intro happening hmem
    exact ⟨op, answer, List.mem_singleton.mp hmem⟩
  · exact Leads.start.performed depth thread op hop hstep hwithin.runs

/-- The answer of a run that is over. -/
theorem reports_of_conclude {before heard : Session} {run : Nat}
    {outcome : Except Engine.ExecutionError Program.Output} {result : Except RunError RunReport}
    (h : conclude before run outcome heard = (result, after)) : Reports run outcome result := by
  cases outcome with
  | ok output =>
      cases h
      exact ⟨rfl, rfl⟩
  | error error =>
      cases h
      exact ⟨rfl, rfl⟩

/-- A request to run that is accepted leads through the moments of the run. -/
theorem Told.run_accepted (h : Told config engine past session) {depth thread : Nat}
    {source : String} {result : Except RunError RunReport}
    (haccepted : session.refusal? thread = none)
    (hrun : run (dispatch depth thread) thread source session = some (result, after)) :
    ∃ meanwhile outcome, OnlyPerformed meanwhile ∧
      Reports (session.runs + 1) outcome result ∧
      Leads config engine past session
        (past ++ (.accepted (session.runs + 1) source :: meanwhile ++
          [.completed (session.runs + 1) outcome])) after ∧
      after.inFlight = none := by
  rcases run_eq_some_iff.mp hrun with ⟨error, hrefused, -⟩ | ⟨-, heard, hheard, hresult⟩
  · rw [haccepted] at hrefused
    cases hrefused
  · have hbegin : (passing config engine).inv (session.begin thread) := ⟨rfl, h.obeys⟩
    have hbegun : Leads config engine past session
        (past ++ [.accepted (session.runs + 1) source]) (session.begin thread) :=
      Leads.start.accepted thread source haccepted
    obtain ⟨meanwhile, hmeanwhile, hevents⟩ :=
      (dispatchAll_keeps (dispatch_passing depth thread) _ hbegin hheard).2
        (past ++ [.accepted (session.runs + 1) source])
    have hinFlight := (dispatchAll_during hheard).inFlight.1
    rw [h.engine] at hresult
    have hsource : Happening.accepted (session.runs + 1) source ∈
        past ++ [.accepted (session.runs + 1) source] ++ meanwhile := by simp
    have hdone := (hbegun.trans hevents).completed hinFlight hsource h.config hresult
    refine ⟨meanwhile, _, hmeanwhile, reports_of_conclude hresult, ?_, ?_⟩
    · simpa using hdone
    · obtain ⟨board, rfl⟩ := eq_of_conclude hresult
      rfl

/-- **Every operation leads from moment to moment.** -/
theorem Told.perform (h : Told config engine past session) (hidle : session.inFlight = none)
    {depth : Nat} {op : Op} (hop : op.IsSessional) {answer : Answer}
    (hstep : Session.perform depth op session = some (answer, after)) :
    ∃ new, Accounts op answer new ∧ Leads config engine past session (past ++ new) after ∧
      after.inFlight = none := by
  have hquiet : after.runs = session.runs → ∃ new, Accounts op answer new ∧
      Leads config engine past session (past ++ new) after ∧ after.inFlight = none := by
    intro hruns
    have hminor := op.perform_minor hop hstep fun _ _ _ hrun => eq_of_runs_eq hrun hruns
    exact ⟨_, .performed, Leads.start.performed depth 0 op hop hstep hruns,
      hminor.inFlight.trans hidle⟩
  cases hsource : op.source? with
  | none => exact hquiet (Op.runs_of_perform hop hsource hstep)
  | some source =>
      obtain ⟨thread, result, hrun, rfl⟩ := Op.perform_of_source hsource hstep
      cases hrefusal : session.refusal? thread with
      | some error =>
          rw [run_of_refused hrefusal] at hrun
          cases hrun
          exact hquiet rfl
      | none =>
          obtain ⟨meanwhile, outcome, hmeanwhile, hreports, hleads, hover⟩ :=
            h.run_accepted hrefusal hrun
          exact ⟨_, .ran hsource rfl hreports hmeanwhile, hleads, hover⟩

end Adequacy

/-! ### The history of a session -/

/-- What can be seen of a session is what its past says. -/
structure Consistent (past : List Happening) (session : Session) : Prop where
  /-- Until the session is shut down, the message log is registered and comes first. -/
  log : ¬ WasShutDown past → session.host.status ≠ .shutDown ∧
    LogFirst session.audience.registry ∧ session.audience.registry.ids.head? = some messageLogId
  /-- From then on it is shut down and nobody is registered. -/
  down : WasShutDown past →
    session.host.status = .shutDown ∧ session.audience.registry.ids = []
  /-- No run is accepted twice. -/
  accepted : (acceptedRuns past).Nodup
  /-- The messages belong to accepted runs, in the order in which these were accepted. -/
  messages : InBlocks (acceptedRuns past) session.board.messages.toList
  /-- The artifacts are those of the latest run that succeeded. -/
  artifacts : session.board.artifacts = latestArtifacts past
  /-- The latest failure is that of the latest run that was completed, if it failed. -/
  lastError : session.board.lastError = latestFailure past
  /-- When the session is shut down and no run is in progress, no operation changes these any more,
  but that messages can be cleared. -/
  final : WasShutDown past → session.inFlight = none →
    ∀ (depth thread : Nat) (op : Op) (answer : Answer) (after : Session),
      op.IsSessional → op ≠ .clearMessages →
      op.perform (dispatch depth) thread session = some (answer, after) →
      after.board.messages = session.board.messages ∧
      after.board.artifacts = session.board.artifacts ∧
      after.board.lastError = session.board.lastError

/-- A session that is what its past has made of it is consistent with its past. -/
theorem Told.consistent {config : Config} {engine : Engine} {past : List Happening}
    {session : Session} (h : Told config engine past session) : Consistent past session := by
  have hfirst : LogFirst session.audience.registry →
      session.audience.registry.ids.head? = some messageLogId := by
    intro hfirst
    rw [Registry.ids, List.head?_map, hfirst]
    rfl
  refine
    { log := fun hup => ?_
      down := fun hdown => ?_
      accepted := by rw [h.numbered]; exact List.nodup_range'
      messages := h.messages
      artifacts := h.artifacts
      lastError := h.lastError
      final := ?_ }
  · have hstatus : session.host.status ≠ .shutDown := fun hdown => hup (h.status.mp hdown)
    exact ⟨hstatus, h.log hstatus, hfirst (h.log hstatus)⟩
  · have hstatus := h.status.mpr hdown
    refine ⟨hstatus, ?_⟩
    rw [Registry.ids, h.nobody hstatus]
    rfl
  · intro hdown _ depth thread op answer after hop hclear hstep
    have hstatus := h.status.mpr hdown
    have hminor : Minor op session after := by
      refine op.perform_minor hop hstep fun thread source result hrun => ?_
      have hrefusal : session.refusal? thread = some (.notReady .shutDown) := by
        simp [refusal?, hstatus, Engine.Status.isReady]
      rw [run_of_refused hrefusal] at hrun
      cases hrun
      rfl
    exact ⟨hminor.messages.resolve_right fun hcleared => hclear hcleared.1, hminor.artifacts,
      hminor.lastError⟩

/-- **The history of a session.** At every moment of every history of operations that the session
itself offers, performed on the session or by its observers, the session is what its past says; and
every operation that is performed while no run is in progress leads from there, through such
moments, to a moment at which it has been answered. -/
theorem Moment.history_consistent {config : Config} {engine : Engine} {past : List Happening}
    {session : Session} (h : Moment config engine past session) :
    Consistent past session ∧
    (session.inFlight = none →
      ∀ (depth : Nat) (op : Op) (answer : Answer) (after : Session), op.IsSessional →
        Session.perform depth op session = some (answer, after) →
          ∃ new, Accounts op answer new ∧
            Leads config engine past session (past ++ new) after ∧
            Moment config engine (past ++ new) after ∧ after.inFlight = none) := by
  refine ⟨h.told.consistent, fun hidle depth op answer after hop hstep => ?_⟩
  obtain ⟨new, haccounts, hleads, hover⟩ := h.told.perform hidle hop hstep
  exact ⟨new, haccounts, hleads, h.leads hleads, hover⟩

/-- The sessions that come about by operations, without regard to what has happened. -/
theorem Reachable.moment {config : Config} {engine : Engine} {session : Session}
    (h : Reachable Op.IsSessional config engine session) :
    ∃ past, Moment config engine past session := by
  induction h with
  | new h => exact ⟨[], _, h, .start⟩
  | invite _ behaviour hbehaviour hstep ih =>
      obtain ⟨past, hmoment⟩ := ih
      exact ⟨past, hmoment.leads (Leads.start.invite behaviour hbehaviour hstep)⟩
  | perform hbefore depth op hop hstep ih =>
      obtain ⟨past, hmoment⟩ := ih
      obtain ⟨new, -, hleads, -⟩ := hmoment.told.perform hbefore.idle.1.inFlight hop hstep
      exact ⟨past ++ new, hmoment.leads hleads⟩

/-- The guest's request is refused, the run fails and the session is shut down: what is left is the
message of the run and its failure, and nobody is registered. -/
theorem history_consistent_occupied :
    ∃ past heard after,
      perform 1 (.run "") (occupied crashingEngine) =
        some (.ran (.error (.execution 1 (.crashed ⟨none⟩))), heard) ∧
      perform 0 .shutDown heard = some (.done, after) ∧
      Moment {} crashingEngine past after ∧ WasShutDown past ∧ Consistent past after ∧
      after.board.messages = #[⟨Value.message [], some 1⟩] ∧
      after.board.lastError = some ⟨1, Engine.ExecutionError.message (.crashed ⟨none⟩)⟩ := by
  have hran : ∃ heard, perform 1 (.run "") (occupied crashingEngine) =
        some (.ran (.error (.execution 1 (.crashed ⟨none⟩))), heard) ∧
      heard.board.messages = #[⟨Value.message [], some 1⟩] ∧
      heard.board.lastError = some ⟨1, Engine.ExecutionError.message (.crashed ⟨none⟩)⟩ :=
    ⟨_, rfl, rfl, rfl⟩
  obtain ⟨heard, hrun, hmessages, hlastError⟩ := hran
  have hoccupied : Reachable Op.IsSessional {} crashingEngine (occupied crashingEngine) :=
    reachable_occupied rfl
  obtain ⟨past, hmoment⟩ := hoccupied.moment
  obtain ⟨new, -, -, hheard, hidle⟩ :=
    hmoment.history_consistent.2 rfl 1 (.run "") _ heard trivial hrun
  obtain ⟨new', haccounts, -, hafter, -⟩ :=
    hheard.history_consistent.2 hidle 0 .shutDown .done _ trivial rfl
  refine ⟨_, heard, _, hrun, rfl, hafter, ?_, hafter.history_consistent.1, hmessages, hlastError⟩
  cases haccounts with
  | performed => exact ⟨.done, List.mem_append_right _ (List.mem_singleton.mpr rfl)⟩
  | ran hop => cases hop

end Workbench.Session
