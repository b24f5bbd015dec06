import Workbench.Proofs.Session.History

/-!
# Requests to run are atomic

A request to run either changes nothing, or it publishes its outcome as a whole. While a run is in
progress its observers may do anything, and in particular they may ask for runs; none of this gives
up the slot of the run in progress, touches the artifacts, or takes messages away from the run.

* `During` are the sessions that come about while events are dispatched: it is closed under
  everything that happens then, the code around observers and all operations, so that it has every
  session that an observer finds, at any depth.
* `Within` is what these sessions have in common with the one in which the run began
  (`During.within`).
* **Theorem** (`run_atomic`): whatever a request is answered, the session afterwards is what the
  answer says (`Atomic`), and no run is in progress after a request that no event is around.
-/

namespace Workbench.Session

open Audience

/-! ### While a run is in progress -/

/-- What can become of the messages while new ones belong to a run: they stay or are cleared, and
new ones come after them. -/
def Grown (run : Option Nat) (before after : List (Board.Message Nat)) : Prop :=
  ∃ kept new, after = kept ++ new ∧ (kept = before ∨ kept = []) ∧
    ∀ message ∈ new, message.run = run

/-- Messages may stay as they are. -/
theorem Grown.refl (run : Option Nat) (messages : List (Board.Message Nat)) :
    Grown run messages messages :=
  ⟨messages, [], (List.append_nil _).symm, Or.inl rfl, fun _ hmem => absurd hmem List.not_mem_nil⟩

/-- Messages that have grown may grow further. -/
theorem Grown.trans {run : Option Nat} {first second third : List (Board.Message Nat)}
    (h : Grown run first second) (h' : Grown run second third) : Grown run first third := by
  obtain ⟨kept, new, rfl, hkept, hnew⟩ := h
  obtain ⟨kept', new', rfl, hkept', hnew'⟩ := h'
  rcases hkept' with rfl | rfl
  · refine ⟨kept, new ++ new', List.append_assoc _ _ _, hkept, fun message hmem => ?_⟩
    rcases List.mem_append.mp hmem with hmem | hmem
    · exact hnew message hmem
    · exact hnew' message hmem
  · exact ⟨[], new', rfl, Or.inr rfl, hnew'⟩

/-- One more message of the run. -/
theorem grown_append (board : Board Nat) (text : String) :
    Grown board.currentRun board.messages.toList (board.append text).messages.toList := by
  refine ⟨board.messages.toList, [⟨text, board.currentRun⟩], ?_, Or.inl rfl, ?_⟩
  · exact Array.toList_push
  · intro message hmem
    rw [List.mem_singleton.mp hmem]

/-- No messages. -/
theorem grown_clear (run : Option Nat) (before : List (Board.Message Nat)) : Grown run before [] :=
  ⟨[], [], rfl, Or.inr rfl, fun _ hmem => absurd hmem List.not_mem_nil⟩

/-- What a session has in common with an earlier one while a run is in progress: everything but the
audience, the host, the subscribers, and messages, and of the messages that the new ones belong to
the run. -/
structure Within (session after : Session) : Prop where
  config : after.config = session.config
  engine : after.engine = session.engine
  runs : after.runs = session.runs
  inFlight : after.inFlight = session.inFlight
  currentRun : after.board.currentRun = session.board.currentRun
  artifacts : after.board.artifacts = session.board.artifacts
  lastError : after.board.lastError = session.board.lastError
  messages : Grown session.board.currentRun session.board.messages.toList
    after.board.messages.toList

/-- A session has everything in common with itself. -/
theorem Within.refl (session : Session) : Within session session :=
  ⟨rfl, rfl, rfl, rfl, rfl, rfl, rfl, .refl _ _⟩

/-- What later sessions have in common with earlier ones goes back to the first one. -/
theorem Within.trans {first second third : Session} (h : Within first second)
    (h' : Within second third) : Within first third where
  config := h'.config.trans h.config
  engine := h'.engine.trans h.engine
  runs := h'.runs.trans h.runs
  inFlight := h'.inFlight.trans h.inFlight
  currentRun := h'.currentRun.trans h.currentRun
  artifacts := h'.artifacts.trans h.artifacts
  lastError := h'.lastError.trans h.lastError
  messages := h.messages.trans (h.currentRun ▸ h'.messages)

/-- Another host, another audience, and other subscribers. -/
theorem within_of_board (session : Session) (host : Engine.Host)
    (audience : Audience Observer Op Answer) (feed : Board.Feed (Board.Event Nat)) :
    Within session { session with
      host := host, audience := audience, board := { session.board with feed := feed } } :=
  ⟨rfl, rfl, rfl, rfl, rfl, rfl, rfl, .refl _ _⟩

/-- One more message. -/
theorem within_append (session : Session) (text : String) :
    Within session (session.withBoard (session.board.append text)) :=
  ⟨rfl, rfl, rfl, rfl, rfl, rfl, rfl, grown_append session.board text⟩

/-- The manner of everything that happens while a run is in progress, in sessions whose guests come
to operations of a kind only. -/
def within (P : Op → Prop) : Act.Manner Session where
  inv session := session.inFlight.isSome ∧ session.audience.Obeys P
  rel := Within
  refl := .refl
  trans := .trans

/-- Calls, messages and events keep within the run in progress. -/
theorem attends_within (P : Op → Prop) : AttendsEvents (within P) P where
  obeys _ hsession := hsession.2
  attended session audience hsession hattended :=
    ⟨⟨hsession.1, hattended.obeys hsession.2⟩,
      within_of_board session session.host audience session.board.feed⟩
  logged session text hsession := ⟨hsession, within_append session text⟩
  began session hsession := ⟨hsession, within_of_board session session.host _ session.board.feed⟩

/-- Every operation keeps within the run in progress. A request to run is refused. -/
theorem Op.perform_within {P : Op → Prop} {dispatch : Nat → List Value → Step Registry.Report}
    (hdispatch : ∀ thread values, (within P).Keeps (dispatch thread values)) (thread : Nat)
    (op : Op) : (within P).Keeps (op.perform dispatch thread) := by
  intro session answer after hsession h
  cases Op.perform_effect h with
  | nothing => exact ⟨hsession, .refl session⟩
  | ran _ thread' source hrun =>
      obtain ⟨error, hrefused⟩ := run_in_flight (dispatch thread') thread' source hsession.1
      rw [hrefused] at hrun
      cases hrun
      exact ⟨hsession, .refl session⟩
  | dispatched _ values _ hevent => exact hdispatch thread values hsession hevent
  | prepared => exact ⟨hsession, within_of_board session _ session.audience session.board.feed⟩
  | fed _ feed => exact ⟨hsession, within_of_board session session.host session.audience feed⟩
  | registered => exact ⟨hsession, within_of_board session session.host _ session.board.feed⟩
  | unregistered => exact ⟨hsession, within_of_board session session.host _ session.board.feed⟩
  | bypassed => exact ⟨hsession, within_of_board session session.host _ session.board.feed⟩
  | appended text => exact ⟨hsession, within_append session text⟩
  | cleared => exact ⟨hsession, rfl, rfl, rfl, rfl, rfl, rfl, rfl, grown_clear _ _⟩
  | shutDown => exact ⟨hsession, within_of_board session _ _ session.board.feed⟩

/-- Events keep within the run in progress, however deeply they are nested. -/
theorem dispatch_within (P : Op → Prop) (depth thread : Nat) (values : List Value) :
    (within P).Keeps (dispatch depth thread values) :=
  (attends_within P).dispatch (fun _ hevents thread op _ => op.perform_within hevents thread) depth
    thread values

/-! ### Everything that happens -/

/-- The sessions that come about from one while events are dispatched: an event begins, the message
log adds a message, a guest is called or credited or has failed, or an operation is performed. -/
inductive During (session : Session) : Session → Prop where
  | start : During session session
  | event {mid : Session} (h : During session mid) : During session (began mid)
  | logged {mid : Session} (h : During session mid) (text : String) :
      During session (mid.withBoard (mid.board.append text))
  | attended {mid : Session} (h : During session mid) {audience : Audience Observer Op Answer}
      (hattended : Attended mid.audience audience) :
      During session { mid with audience := audience }
  | performed {mid after : Session} (h : During session mid) (depth thread : Nat) (op : Op)
      {answer : Answer} (hstep : op.perform (dispatch depth) thread mid = some (answer, after)) :
      During session after

/-- What comes about while events are dispatched goes on to come about. -/
theorem During.trans {first second third : Session} (h : During first second)
    (h' : During second third) : During first third := by
  induction h' with
  | start => exact h
  | event _ ih => exact ih.event
  | logged _ text ih => exact ih.logged text
  | attended _ hattended ih => exact ih.attended hattended
  | performed _ depth thread op hstep ih => exact ih.performed depth thread op hstep

/-- The manner of what happens while events are dispatched. -/
def during : Act.Manner Session where
  inv _ := True
  rel := During
  refl _ := .start
  trans := .trans

/-- Calls, messages and events come about while events are dispatched. -/
theorem attends_during : AttendsEvents during fun _ => True where
  obeys session _ := obeys_true session.audience
  attended _ _ _ hattended := ⟨trivial, During.start.attended hattended⟩
  logged _ text _ := ⟨trivial, During.start.logged text⟩
  began _ _ := ⟨trivial, During.start.event⟩

/-- Nothing else happens. -/
theorem dispatchAll_during {depth thread : Nat} {events : List (List Value)}
    {session heard : Session}
    (h : dispatchAll (dispatch depth thread) events session = some ((), heard)) :
    During session heard := by
  have hperform : ∀ depth thread op, during.Keeps (Op.perform (dispatch depth) thread op) :=
    fun depth thread op _ _ _ _ hstep => ⟨trivial, During.start.performed depth thread op hstep⟩
  have hevent : ∀ values, during.Keeps (dispatch depth thread values) :=
    attends_during.dispatch (fun depth _ thread op _ => hperform depth thread op) depth thread
  exact (dispatchAll_keeps hevent events trivial h).2

/-- **Whatever happens while a run is in progress keeps within it.** -/
theorem During.within {session mid : Session} (h : During session mid)
    (hinFlight : session.inFlight.isSome) : Within session mid := by
  have hattends := attends_within fun _ => True
  -- The slot never changes, so that the invariant of the manner holds wherever we are.
  have hinv : ∀ {mid}, Within session mid → (Session.within fun _ => True).inv mid := by
    intro mid hmid
    exact ⟨hmid.inFlight ▸ hinFlight, obeys_true mid.audience⟩
  induction h with
  | start => exact .refl session
  | event _ ih => exact ih.trans (hattends.began _ (hinv ih)).2
  | logged _ text ih => exact ih.trans (within_append _ text)
  | attended _ hattended ih => exact ih.trans (hattends.attended _ _ (hinv ih) hattended).2
  | performed _ depth thread op hstep ih =>
      have hdispatch := dispatch_within (fun _ => True) depth
      exact ih.trans (op.perform_within hdispatch thread (hinv ih) hstep).2

/-! ### Requests -/

/-- What a request to run a source text on a thread comes to. -/
structure Atomic (thread : Nat) (source : String) (session : Session)
    (result : Except RunError RunReport) (after : Session) : Prop where
  /-- A request that comes while the engine is not ready changes nothing. -/
  notReady : ∀ status, result = .error (.notReady status) →
    after = session ∧ session.host.status = status ∧ status.isReady = false
  /-- A request that comes while a run is in progress on another thread changes nothing. -/
  busy : result = .error .busy →
    after = session ∧ ∃ current, session.inFlight = some current ∧ current.thread ≠ thread
  /-- A request that comes from inside a run changes nothing, and names this run. -/
  reentrant : ∀ run, result = .error (.reentrant run) →
    after = session ∧ session.inFlight = some ⟨run, thread⟩
  /-- A run that succeeds leaves its artifacts, and no failure. -/
  succeeded : ∀ report, result = .ok report → ∃ output,
    (session.engine.execute session.runs source).outcome = .ok output ∧
      report.run = session.runs + 1 ∧ report.result = output.result ∧
      report.tokenCount = output.tokens.length ∧ report.nodeCount = output.form.size ∧
      after.board.artifacts = some ⟨report.run, output.tokens, output.form, output.result⟩ ∧
      after.board.lastError = none
  /-- A run that fails leaves the artifacts there were, and its failure. -/
  failed : ∀ run error, result = .error (.execution run error) →
    (session.engine.execute session.runs source).outcome = .error error ∧
      run = session.runs + 1 ∧ after.board.artifacts = session.board.artifacts ∧
      after.board.lastError = some ⟨run, error.message⟩
  /-- A run that has been accepted is over afterwards, and the messages that came meanwhile belong
  to it. -/
  finished : session.refusal? thread = none → after.Idle ∧ after.runs = session.runs + 1 ∧
    Grown (some (session.runs + 1)) session.board.messages.toList after.board.messages.toList
  /-- Until then it is in progress: in every session that comes about, requests are refused and
  change nothing, and messages that come later belong to it. -/
  inside : session.refusal? thread = none → ∀ mid, During (session.begin thread) mid →
    mid.inFlight = some ⟨session.runs + 1, thread⟩ ∧
      mid.board.currentRun = some (session.runs + 1) ∧
      (∀ depth thread' source', run (dispatch depth thread') thread' source' mid = some (.error
        (if mid.host.status.isReady then
          if thread = thread' then .reentrant (session.runs + 1) else .busy
        else .notReady mid.host.status), mid)) ∧
      ∀ later, During mid later → Within mid later
  /-- It is concluded in such a session. -/
  concluded : session.refusal? thread = none → ∃ heard, During (session.begin thread) heard ∧
    conclude session (session.runs + 1) (session.engine.execute session.runs source).outcome heard =
      (result, after)

/-- What is in progress while the events of a run are dispatched. -/
theorem During.inFlight {session mid : Session} {thread : Nat}
    (h : During (session.begin thread) mid) :
    mid.inFlight = some ⟨session.runs + 1, thread⟩ ∧
      mid.board.currentRun = some (session.runs + 1) :=
  ⟨(h.within rfl).inFlight, (h.within rfl).currentRun⟩

section Requests

variable {thread : Nat} {source : String} {session after : Session}
variable {result : Except RunError RunReport}

/-- A request that is refused. -/
theorem atomic_of_refused {error : RunError} (hrefused : session.refusal? thread = some error) :
    Atomic thread source session (.error error) session := by
  have haccepted : session.refusal? thread ≠ none := by
    rw [hrefused]
    exact Option.some_ne_none error
  have hcases := refusal?_cases hrefused
  refine ⟨?_, ?_, ?_, ?_, ?_, fun h => absurd h haccepted, fun h => absurd h haccepted,
    fun h => absurd h haccepted⟩
  · rintro status ⟨⟩
    rcases hcases with ⟨herror, hready⟩ | ⟨_, -, ⟨-, herror⟩ | ⟨-, herror⟩⟩ <;> cases herror
    exact ⟨rfl, rfl, hready⟩
  · rintro ⟨⟩
    rcases hcases with ⟨herror, -⟩ | ⟨current, hinFlight, ⟨-, herror⟩ | ⟨hthread, herror⟩⟩ <;>
      cases herror
    exact ⟨rfl, current, hinFlight, hthread⟩
  · rintro run ⟨⟩
    rcases hcases with ⟨herror, -⟩ | ⟨current, hinFlight, ⟨hthread, herror⟩ | ⟨-, herror⟩⟩ <;>
      cases herror
    rw [← hthread]
    exact ⟨rfl, hinFlight⟩
  · rintro report ⟨⟩
  · rintro run error ⟨⟩
    rcases hcases with ⟨herror, -⟩ | ⟨_, -, ⟨-, herror⟩ | ⟨-, herror⟩⟩ <;> cases herror

/-- The messages that come while a run is in progress or with its result belong to it. -/
theorem grown_of_conclude {heard : Session} (hheard : During (session.begin thread) heard)
    {outcome : Except Engine.ExecutionError Program.Output}
    (hresult : conclude session (session.runs + 1) outcome heard = (result, after)) :
    Grown (some (session.runs + 1)) session.board.messages.toList
      after.board.messages.toList := by
  have hmessages : Grown (some (session.runs + 1)) session.board.messages.toList
      heard.board.messages.toList := (hheard.within rfl).messages
  refine hmessages.trans ⟨_, _, messages_of_conclude hresult, Or.inl rfl, ?_⟩
  intro message hmem
  rw [hheard.inFlight.2] at hmem
  cases outcome with
  | error error => exact absurd hmem List.not_mem_nil
  | ok output =>
      simp only [echoed] at hmem
      split at hmem
      · rw [List.mem_singleton.mp hmem]
      · exact absurd hmem List.not_mem_nil

/-- A request that is accepted. -/
theorem atomic_of_accepted {heard : Session} (hheard : During (session.begin thread) heard)
    (hresult : conclude session (session.runs + 1)
      (session.engine.execute session.runs source).outcome heard = (result, after)) :
    Atomic thread source session result after := by
  have hwithin := hheard.within rfl
  have hover : after.Idle ∧ after.runs = session.runs + 1 ∧
      Grown (some (session.runs + 1)) session.board.messages.toList
        after.board.messages.toList := by
    have hgrown := grown_of_conclude hheard hresult
    obtain ⟨board, rfl⟩ := eq_of_conclude hresult
    exact ⟨⟨rfl, rfl⟩, hwithin.runs, hgrown⟩
  have hinside : ∀ mid, During (session.begin thread) mid →
      mid.inFlight = some ⟨session.runs + 1, thread⟩ ∧
        mid.board.currentRun = some (session.runs + 1) ∧
        (∀ depth thread' source', run (dispatch depth thread') thread' source' mid = some (.error
          (if mid.host.status.isReady then
            if thread = thread' then .reentrant (session.runs + 1) else .busy
          else .notReady mid.host.status), mid)) ∧
        ∀ later, During mid later → Within mid later := by
    intro mid hmid
    obtain ⟨hinFlight, hcurrent⟩ := hmid.inFlight
    refine ⟨hinFlight, hcurrent, ?_, ?_⟩
    · intro depth thread' source'
      exact run_of_in_flight (dispatch depth thread') thread' source' hinFlight
    · intro later hlater
      refine hlater.within ?_
      rw [hinFlight]
      rfl
  have hconcluded := hresult
  cases houtcome : (session.engine.execute session.runs source).outcome with
  | ok output =>
      rw [houtcome] at hresult
      cases hresult
      refine ⟨?_, ?_, ?_, ?_, ?_, fun _ => hover, fun _ => hinside,
        fun _ => ⟨heard, hheard, hconcluded⟩⟩
      · rintro status ⟨⟩
      · rintro ⟨⟩
      · rintro run ⟨⟩
      · rintro report ⟨⟩
        refine ⟨output, houtcome, rfl, rfl, rfl, rfl, ?_⟩
        unfold publish
        split <;> exact ⟨rfl, rfl⟩
      · rintro run error ⟨⟩
  | error error =>
      rw [houtcome] at hresult
      cases hresult
      refine ⟨?_, ?_, ?_, ?_, ?_, fun _ => hover, fun _ => hinside,
        fun _ => ⟨heard, hheard, hconcluded⟩⟩
      · rintro status ⟨⟩
      · rintro ⟨⟩
      · rintro run ⟨⟩
      · rintro report ⟨⟩
      · rintro run error ⟨⟩
        exact ⟨houtcome, rfl, hwithin.artifacts, rfl⟩

/-- **A request to run is atomic**, whatever the engine and the observers do: the session afterwards
is what the answer says, and a request that is refused changes nothing. In a session that has come
about by operations, no run is in progress before or after it. -/
theorem run_atomic {depth : Nat}
    (h : run (dispatch depth thread) thread source session = some (result, after)) :
    Atomic thread source session result after ∧
      ∀ P config engine, Reachable P config engine session → session.Idle ∧ after.Idle := by
  have hatomic : Atomic thread source session result after := by
    rcases run_eq_some_iff.mp h with ⟨error, hrefused, rfl, rfl⟩ | ⟨-, heard, hheard, hresult⟩
    · exact atomic_of_refused hrefused
    · exact atomic_of_accepted (dispatchAll_during hheard) hresult
  refine ⟨hatomic, fun P config engine hreachable => ?_⟩
  have hidle := hreachable.idle.1
  refine ⟨hidle, ?_⟩
  rcases run_eq_some_iff.mp h with ⟨error, -, -, rfl⟩ | ⟨haccepted, -⟩
  · exact hidle
  · exact (hatomic.finished haccepted).1

end Requests

/-- An engine that prints once and then crashes. -/
def crashingEngine : Engine where
  setup _ := {}
  execute _ _ := ⟨[[]], .error (.crashed ⟨none⟩)⟩
  inspect _ := .error (.refused "")

/-- The run fails with the crash. The request of the guest is refused as one from inside the run,
and the message of the run belongs to it. -/
theorem run_atomic_occupied :
    ∃ after, run (dispatch 1 0) 0 "" (occupied crashingEngine) =
        some (.error (.execution 1 (.crashed ⟨none⟩)), after) ∧
      Atomic 0 "" (occupied crashingEngine) (.error (.execution 1 (.crashed ⟨none⟩))) after ∧
      after.Idle ∧
      after.audience.credits = #[⟨0, 1, .acted (.run "again") (.ran (.error (.reentrant 1)))⟩] ∧
      after.board.messages = #[⟨Value.message [], some 1⟩] := by
  have hresult : ∃ after, run (dispatch 1 0) 0 "" (occupied crashingEngine) =
        some (.error (.execution 1 (.crashed ⟨none⟩)), after) ∧
      after.audience.credits = #[⟨0, 1, .acted (.run "again") (.ran (.error (.reentrant 1)))⟩] ∧
      after.board.messages = #[⟨Value.message [], some 1⟩] := ⟨_, rfl, rfl, rfl⟩
  obtain ⟨after, h, hcredits, hmessages⟩ := hresult
  obtain ⟨hatomic, hidle⟩ := run_atomic h
  exact ⟨after, h, hatomic, (hidle _ _ _ (reachable_occupied rfl)).2, hcredits, hmessages⟩

end Workbench.Session
