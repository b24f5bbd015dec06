import Workbench.Proofs.Engine.Readiness

/-!
# What requests for initialization are answered

A request is answered by its own setup if it owns an attempt, and by the status that it finds if it
waits for the attempt of another one. **Theorem** (`run_answers`): either way the answer agrees with
the status that is published right after it, and no request is answered while an attempt is in
progress or before there was one.

`Accounted` is what is needed to know of a host besides `Orderly`: the status is that of the last
ending, nobody waits before there was an attempt, and every setup is the engine's.
-/

namespace Workbench.Engine.Host

/-! ### What the status says about the attempts -/

/-- The status that an attempt leaves behind. -/
def Ending.status : Ending → Status
  | .succeeded => .ready
  | .failed error => .failed error.message
  | .dropped => .failed "initialization cancelled"

/-- The status when the last of some attempts has ended. -/
def latestStatus (endings : List Ending) : Status :=
  (endings.getLast?.map Ending.status).getD .uninitialized

/-- A request of a host in which one was changed is that one or one from before. -/
theorem mem_withRequest {host : Host} {number : Nat} {request new : Request}
    (h : request ∈ (host.withRequest number new).requests) :
    request ∈ host.requests ∨ request = new :=
  List.mem_or_eq_of_mem_set h

/-- What the status and the requests of a host say, given how its attempts have ended so far. -/
structure Accounted (engine : Engine) (host : Host) (endings : List Ending) : Prop where
  /-- While no attempt is in progress, the status is that of the last ending. -/
  latest : host.owners = 0 → host.status ≠ .shutDown → host.status = latestStatus endings
  /-- A request waits only if there was an attempt. -/
  waiting : .waiting ∈ host.requests → host.status ≠ .uninitialized
  /-- An attempt comes to what the engine makes it come to. -/
  setups : ∀ setup, .owner setup ∈ host.requests →
    ∃ earlier, setup.result = (engine.setup earlier).result

section Accounted

variable {engine : Engine} {host : Host} {endings : List Ending}

/-- Nothing is known of a new host, and there is nothing to know. -/
theorem accounted_new : Accounted engine {} [] where
  latest _ _ := rfl
  waiting h := by cases h
  setups _ h := by cases h

/-- The last ending decides on the status. -/
theorem latestStatus_concat (endings : List Ending) (ending : Ending) :
    latestStatus (endings ++ [ending]) = ending.status := by
  simp [latestStatus]

/-- No ending leaves the host as if there had been no attempt. -/
theorem status_ne_uninitialized (ending : Ending) : ending.status ≠ .uninitialized := by
  cases ending <;> exact nofun

/-- A host with an owner owes its status to no ending. -/
theorem not_idle {number : Nat} {setup : Setup}
    (h : host.requests[number]? = some (.owner setup)) : host.owners ≠ 0 :=
  Nat.ne_of_gt (owners_pos_iff.mpr ⟨setup, List.mem_of_getElem? h⟩)

/-- The state of a request changes that owns nothing before or after. -/
theorem Accounted.withRequest (h : Accounted engine host endings) {number : Nat}
    {old new : Request} (hrequest : host.requests[number]? = some old)
    (hold : old.isOwner = false) (hnew : new.isOwner = false)
    (hwaiting : new = .waiting → host.status ≠ .uninitialized) :
    Accounted engine (host.withRequest number new) endings where
  latest hidle := by
    rw [owners_withRequest_of_not_owner hrequest hold hnew] at hidle
    exact h.latest hidle
  waiting hmem := by
    rcases mem_withRequest hmem with hmem | hsame
    · exact h.waiting hmem
    · exact hwaiting hsame.symm
  setups setup hmem := by
    rcases mem_withRequest hmem with hmem | hsame
    · exact h.setups setup hmem
    · rw [← hsame] at hnew
      cases hnew

/-- A request owns an attempt that is in progress. -/
theorem accounted_own {number : Nat} {old : Request} {setup : Setup}
    (hrequest : host.requests[number]? = some old) (hstatus : host.status ≠ .uninitialized)
    (hsetups : ∀ setup, .owner setup ∈ host.requests →
      ∃ earlier, setup.result = (engine.setup earlier).result)
    (hsetup : ∃ earlier, setup.result = (engine.setup earlier).result) :
    Accounted engine (host.withRequest number (.owner setup)) endings where
  latest hidle := absurd hidle (not_idle (host.getElem?_withRequest _ hrequest))
  waiting _ := hstatus
  setups setup' hmem := by
    rcases mem_withRequest hmem with hmem | hsame
    · exact hsetups setup' hmem
    · cases hsame
      exact hsetup

/-- The end of an attempt. -/
theorem Accounted.settle (h : Accounted engine host endings) (number : Nat) (ending : Ending) :
    Accounted engine
      ({ host with status := settled host.status ending.status }.withRequest number .closed)
      (endings ++ [ending]) where
  latest _ hup := by
    change settled host.status ending.status ≠ .shutDown at hup
    change settled host.status ending.status = _
    rcases settled_cases host.status ending.status with hsettled | hsettled
    · rw [hsettled, latestStatus_concat]
    · exact absurd hsettled hup
  waiting _ := by
    change settled host.status ending.status ≠ .uninitialized
    rcases settled_cases host.status ending.status with hsettled | hsettled <;> rw [hsettled]
    · exact status_ne_uninitialized ending
    · exact nofun
  setups setup hmem := by
    rcases mem_withRequest hmem with hmem | hsame
    · exact h.setups setup hmem
    · cases hsame

/-- A request that owns the attempt it is about to start changes nothing of this. -/
theorem Accounted.claimed (h : Accounted engine host endings) (number : Nat) :
    Accounted engine (host.claimed engine number) endings := by
  rcases host.claimed_cases engine number with hsame | ⟨hrequest, -, hclaimed⟩
  · rw [hsame]
    exact h
  · have hstatus : host.started.status ≠ .uninitialized := nofun
    have hasked : host.started.requests[number]? = some .asked := hrequest
    rw [hclaimed]
    exact accounted_own hasked hstatus h.setups ⟨host.attempts, rfl⟩

/-- An owner's look. -/
theorem Accounted.lookOwner (h : Accounted engine host endings) {number : Nat} {setup : Setup}
    (hrequest : host.requests[number]? = some (.owner setup))
    (hstatus : host.status ≠ .uninitialized) :
    Accounted engine (host.lookOwner number setup).2
      (endings ++ (Ending.ofSetup? setup).toList) := by
  have hsetup := h.setups setup (List.mem_of_getElem? hrequest)
  obtain ⟨delay, result⟩ := setup
  cases delay with
  | succ delay =>
      simp only [Ending.ofSetup?, Option.toList_none, List.append_nil]
      exact accounted_own hrequest hstatus h.setups hsetup
  | zero =>
      cases result with
      | ok done => exact h.settle number .succeeded
      | error error => exact h.settle number (.failed error)

/-- Those that wait go on to wait only while an attempt is in progress. -/
theorem shared_eq_pending {status : Status} (h : shared status = .pending) :
    status = .initializing := by
  cases status with
  | initializing => rfl
  | uninitialized | ready | failed reason | shutDown => cases h

/-- A look at a request that waits. -/
theorem Accounted.lookWaiting (h : Accounted engine host endings) {number : Nat}
    (hwaits : host.waits number = true) : Accounted engine (host.lookWaiting number).2 endings := by
  obtain ⟨request, hrequest, hnot⟩ := exists_of_waits hwaits
  unfold Host.lookWaiting
  split
  · rename_i hpending
    refine h.withRequest hrequest hnot rfl fun _ => ?_
    rw [shared_eq_pending hpending]
    exact nofun
  · exact h.withRequest hrequest hnot rfl nofun

/-- An owner's attempt is in progress, unless the host was shut down. -/
theorem Orderly.status_of_owner (h : Orderly host endings) {number : Nat} {setup : Setup}
    (hrequest : host.requests[number]? = some (.owner setup)) :
    host.status = .initializing ∨ host.status = .shutDown :=
  h.owner (Nat.pos_of_ne_zero (not_idle hrequest))

/-- A look at any request. -/
theorem Accounted.look (h : Accounted engine host endings) (horderly : Orderly host endings)
    (number : Nat) :
    Accounted engine (host.look engine number).2
      (endings ++ (host.ending? engine (.look number)).toList) := by
  cases host.lookCase engine number with
  | owner setup _ hrequest hending hlook =>
      rw [hending, hlook]
      refine (h.claimed number).lookOwner hrequest fun hstatus => ?_
      rcases (horderly.claimed engine number).status_of_owner hrequest with hnow | hnow <;>
        rw [hstatus] at hnow <;> cases hnow
  | waits _ hwaits hending hlook =>
      rw [hending, hlook, Option.toList_none, List.append_nil]
      exact h.lookWaiting hwaits
  | closed hending hlook =>
      rw [hending, hlook, Option.toList_none, List.append_nil]
      exact h

/-- The end of any request. -/
theorem Accounted.drop (h : Accounted engine host endings) (number : Nat) :
    Accounted engine (host.drop number).2
      (endings ++ (host.ending? engine (.drop number)).toList) := by
  cases host.dropCase engine number with
  | owner setup _ hending hdrop =>
      rw [hending, hdrop]
      exact h.settle number .dropped
  | idle request hrequest hnot hending hdrop =>
      rw [hending, hdrop, Option.toList_none, List.append_nil]
      exact h.withRequest hrequest hnot rfl nofun
  | closed hending hdrop =>
      rw [hending, hdrop, Option.toList_none, List.append_nil]
      exact h

/-- **What a move keeps**: a host stays accounted for, with the ending that the move brings about.
-/
theorem Accounted.move (h : Accounted engine host endings) (horderly : Orderly host endings)
    (next : Move) :
    Accounted engine (host.move engine next) (endings ++ (host.ending? engine next).toList) := by
  cases next with
  | ask =>
      simp only [ending?, Option.toList_none, List.append_nil]
      have hold : ∀ request, request ∈ host.ask.2.requests → request ≠ .asked →
          request ∈ host.requests := by
        intro request hmem hne
        rcases List.mem_append.mp hmem with hmem | hmem
        · exact hmem
        · exact absurd (List.mem_singleton.mp hmem) hne
      have howners : host.ask.2.owners = host.owners := by simp [ask, owners, Request.isOwner]
      exact
        { latest := howners ▸ h.latest
          waiting := fun hmem => h.waiting (hold _ hmem (by simp))
          setups := fun setup hmem => h.setups setup (hold _ hmem (by simp)) }
  | look number => exact h.look horderly number
  | drop number => exact h.drop number
  | shutDown =>
      simp only [ending?, Option.toList_none, List.append_nil]
      exact
        { latest := fun _ hup => absurd rfl hup
          waiting := by simp [Host.move, Host.shutDown]
          setups := h.setups }

/-- **What a run keeps.** -/
theorem Accounted.moves (h : Accounted engine host endings) (horderly : Orderly host endings)
    (moves : List Move) :
    Accounted engine (moves.foldl (Host.move engine) host)
      (endings ++ endingsFrom engine host moves) := by
  induction moves generalizing host endings with
  | nil =>
      rw [endingsFrom, List.append_nil]
      exact h
  | cons next rest ih =>
      have hrest := ih (h.move horderly next) (horderly.move engine next)
      rwa [List.append_assoc] at hrest

end Accounted

/-- A new host is accounted for after every run. -/
theorem accounted_run (engine : Engine) (moves : List Move) :
    Accounted engine (run engine moves) (endings engine moves) :=
  accounted_new.moves orderly_new moves

/-! ### Answers and the status -/

/-- An answer to a request, which owns an attempt or waits, agrees with a status. -/
structure Agrees (owns : Bool) (result : Except InitError Unit) (status : Status) : Prop where
  ready : result = .ok () ↔ status = .ready
  shutDown : result = .error .shutDown ↔ status = .shutDown
  /-- Any other answer goes with a failure: an owner is told of it in words that are those of the
  status, and one that waits is told the words of the status as the reason. -/
  failed : result ≠ .ok () → result ≠ .error .shutDown →
    ∃ error reason, result = .error error ∧ status = .failed reason ∧
      (owns = true → error.message = reason) ∧ (owns = false → error = .setup reason)
  settled : status ≠ .uninitialized ∧ status ≠ .initializing

/-- Success agrees with a host that is ready, whoever is answered. -/
theorem agrees_ready (owns : Bool) : Agrees owns (.ok ()) .ready where
  ready := ⟨fun _ => rfl, fun _ => rfl⟩
  shutDown := ⟨nofun, nofun⟩
  failed hnot := absurd rfl hnot
  settled := ⟨nofun, nofun⟩

/-- The answer that the host is shut down agrees with a host that is. -/
theorem agrees_shutDown (owns : Bool) : Agrees owns (.error .shutDown) .shutDown where
  ready := ⟨nofun, nofun⟩
  shutDown := ⟨fun _ => rfl, fun _ => rfl⟩
  failed _ hnot := absurd rfl hnot
  settled := ⟨nofun, nofun⟩

/-- A failure agrees with a host that has failed for the reason that is given. -/
theorem agrees_failed {owns : Bool} {error : InitError} {reason : String}
    (herror : error ≠ .shutDown) (howner : owns = true → error.message = reason)
    (hwaiter : owns = false → error = .setup reason) :
    Agrees owns (.error error) (.failed reason) where
  ready := ⟨nofun, nofun⟩
  shutDown := ⟨fun h => absurd (Except.error.inj h) herror, nofun⟩
  failed _ _ := ⟨error, reason, rfl, rfl, howner, hwaiter⟩
  settled := ⟨nofun, nofun⟩

section Answers

variable {engine : Engine} {host : Host} {endings : List Ending} {number : Nat}
variable {result : Except InitError Unit}

/-- An owner's answer. -/
theorem agrees_lookOwner {setup : Setup}
    (hstatus : host.status = .initializing ∨ host.status = .shutDown)
    (hsetup : setup.result ≠ .error .shutDown)
    (hanswer : (host.lookOwner number setup).1 = .answered result) :
    Agrees true result (host.lookOwner number setup).2.status := by
  obtain ⟨delay, outcome⟩ := setup
  cases delay with
  | succ delay => cases hanswer
  | zero =>
      change Look.answered (if settled host.status (outcomeStatus outcome) = .shutDown then
        .error .shutDown else outcome) = .answered result at hanswer
      change Agrees true result (settled host.status (outcomeStatus outcome))
      rcases hstatus with hstatus | hstatus
      · rw [hstatus, settled_initializing] at hanswer ⊢
        cases outcome with
        | ok done =>
            cases hanswer
            exact agrees_ready true
        | error error =>
            cases hanswer
            exact agrees_failed (fun heq => hsetup (congrArg Except.error heq)) (fun _ => rfl)
              nofun
      · rw [hstatus, settled_shutDown] at hanswer ⊢
        cases hanswer
        exact agrees_shutDown true

/-- The answer to a request that waits. -/
theorem agrees_lookWaiting (hstatus : host.status ≠ .uninitialized)
    (hanswer : (host.lookWaiting number).1 = .answered result) :
    Agrees false result (host.lookWaiting number).2.status := by
  rw [status_lookWaiting]
  unfold Host.lookWaiting at hanswer
  split at hanswer
  · cases hanswer
  · change shared host.status = .answered result at hanswer
    cases hnow : host.status with
    | uninitialized => exact absurd hnow hstatus
    | initializing =>
        rw [hnow] at hanswer
        cases hanswer
    | ready =>
        rw [hnow] at hanswer
        cases hanswer
        exact agrees_ready false
    | failed reason =>
        rw [hnow] at hanswer
        cases hanswer
        exact agrees_failed nofun nofun fun _ => rfl
    | shutDown =>
        rw [hnow] at hanswer
        cases hanswer
        exact agrees_shutDown false

/-- Nobody waits before there was an attempt, so the status always has an answer. -/
theorem Accounted.status_of_waits (h : Accounted engine host endings)
    (hwaits : host.waits number = true) : host.status ≠ .uninitialized := by
  unfold waits at hwaits
  split at hwaits
  · rename_i hrequest
    exact h.waiting (List.mem_of_getElem? hrequest)
  · intro hstatus
    rw [hstatus] at hwaits
    cases hwaits
  · cases hwaits

end Answers

/-- **Answers agree with the status.** Take any run of a host over an engine whose setups do not
themselves claim that the host was shut down. Whenever a look at a request answers it, it is
answered with success exactly if the engine is ready right after, it is told that the host was shut
down exactly if this is so right after, and otherwise the engine has failed and the answer says why.
No request that waits ever finds that there was no attempt. -/
theorem run_answers (engine : Engine)
    (hengine : ∀ earlier, (engine.setup earlier).result ≠ .error .shutDown) (moves : List Move)
    (number : Nat) :
    (∀ result, ((run engine moves).look engine number).1 = .answered result →
      Agrees ((run engine moves).owns number) result
        (run engine (moves ++ [.look number])).status) ∧
    ((run engine moves).waits number = true → (run engine moves).status ≠ .uninitialized) := by
  have horderly := orderly_run engine moves
  have haccounted := accounted_run engine moves
  refine ⟨fun result hanswer => ?_, haccounted.status_of_waits⟩
  rw [run_concat]
  simp only [Host.move]
  cases (run engine moves).lookCase engine number with
  | owner setup howns hrequest _ hlook =>
      rw [hlook] at hanswer ⊢
      rw [howns]
      have hstatus := (horderly.claimed engine number).status_of_owner hrequest
      obtain ⟨earlier, hsetup⟩ :=
        (haccounted.claimed number).setups setup (List.mem_of_getElem? hrequest)
      exact agrees_lookOwner hstatus (hsetup ▸ hengine earlier) hanswer
  | waits howns hwaits _ hlook =>
      rw [hlook] at hanswer ⊢
      rw [howns]
      exact agrees_lookWaiting (haccounted.status_of_waits hwaits) hanswer
  | closed _ hlook =>
      rw [hlook] at hanswer
      cases hanswer

/-- An engine whose first setup takes a while and fails, and whose later ones succeed. -/
def faltering : Engine :=
  scripted {} [{ delay := 1, result := .error (.setup "assets unavailable") }] []

/-- A request that waits for the first attempt is told why it has failed. -/
theorem run_answers_faltering :
    (∀ earlier, (faltering.setup earlier).result ≠ .error .shutDown) ∧
    ((run faltering [.ask, .look 0, .ask, .look 1, .look 0]).look faltering 1).1 =
      .answered (.error (.setup "engine setup failed: assets unavailable")) ∧
    Agrees false (.error (.setup "engine setup failed: assets unavailable"))
      (.failed "engine setup failed: assets unavailable") := by
  have hengine : ∀ earlier, (faltering.setup earlier).result ≠ .error .shutDown := by
    intro earlier
    cases earlier with
    | zero => exact nofun
    | succ earlier => exact nofun
  have hanswer : ((run faltering [.ask, .look 0, .ask, .look 1, .look 0]).look faltering 1).1 =
      .answered (.error (.setup "engine setup failed: assets unavailable")) := rfl
  refine ⟨hengine, hanswer, ?_⟩
  exact (run_answers faltering hengine [.ask, .look 0, .ask, .look 1, .look 0] 1).1 _ hanswer

end Workbench.Engine.Host
