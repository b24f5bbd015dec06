import Workbench.Proofs.Engine.Answers

/-!
# Requests that wait for an attempt

A request that finds an attempt in progress waits, but it holds on to no attempt. When the attempt
fails, somebody else may start the next one before the waiting request is looked at again, and then
it waits for that one. **Theorem** (`waited_answer`): it is told how the attempt ended that ended
*last*, so it is answered with success exactly if the attempt that it found in progress has
succeeded or a later one has. This need not be what became of the attempt that it found in progress
(`not_shared`).

The attempt that is in progress is the next one to end, since no other can be started before
(`Orderly`); so its ending is the one that follows those before the request began to wait.
-/

namespace Workbench.Engine.Host

/-- What a request that waits is told of an attempt. -/
def Ending.answer : Ending → Except InitError Unit
  | .succeeded => .ok ()
  | .failed error => .error (.setup error.message)
  | .dropped => .error (.setup "initialization cancelled")

/-- A request that waits is answered as the attempt has ended that left the status. -/
theorem shared_status (ending : Ending) : shared ending.status = .answered ending.answer := by
  cases ending <;> rfl

/-- A request finds the attempt of another one in progress when it is first looked at, after some
moves, and it is answered by a look at it after some more, before the host is shut down. -/
structure Waited (engine : Engine) (before : List Move) (number : Nat) (between : List Move)
    (result : Except InitError Unit) : Prop where
  asked : (run engine before).requests[number]? = some .asked
  busy : (run engine before).status = .initializing
  up : .shutDown ∉ before ++ .look number :: between
  answered : ((run engine (before ++ .look number :: between)).look engine number).1 =
    .answered result

section Waiting

variable {engine : Engine} {host : Host} {number other : Nat}

/-- A look at a request leaves the others alone. -/
theorem getElem?_look_of_ne (hne : other ≠ number) :
    (host.look engine other).2.requests[number]? = host.requests[number]? := by
  have howner : ∀ (host : Host) (setup : Setup),
      (host.lookOwner other setup).2.requests[number]? = host.requests[number]? := by
    intro host setup
    unfold Host.lookOwner
    split <;> exact List.getElem?_set_ne hne
  have hwaiting : (host.lookWaiting other).2.requests[number]? = host.requests[number]? := by
    unfold Host.lookWaiting
    split <;> exact List.getElem?_set_ne hne
  unfold Host.look
  split
  · split
    · exact howner _ _
    · exact hwaiting
  · exact howner _ _
  · exact hwaiting
  · rfl
  · rfl

/-- The end of a request leaves the others alone. -/
theorem getElem?_drop_of_ne (hne : other ≠ number) :
    (host.drop other).2.requests[number]? = host.requests[number]? := by
  unfold Host.drop
  split
  · exact List.getElem?_set_ne hne
  · exact List.getElem?_set_ne hne
  · exact List.getElem?_set_ne hne
  · rfl
  · rfl

/-- A request that waits becomes closed or goes on to wait; it never owns an attempt. -/
def IsWaiting (host : Host) (number : Nat) : Prop :=
  host.requests[number]? = some .waiting ∨ host.requests[number]? = some .closed

/-- A look at a request that waits leaves it waiting or closed. -/
theorem isWaiting_lookWaiting {request : Request} (h : host.requests[number]? = some request) :
    (host.lookWaiting number).2.IsWaiting number := by
  unfold Host.lookWaiting
  split
  · exact .inl (host.getElem?_withRequest _ h)
  · exact .inr (host.getElem?_withRequest _ h)

/-- What is done to other requests leaves a request as it is. -/
theorem IsWaiting.congr {host' : Host} (h : host.IsWaiting number)
    (hsame : host'.requests[number]? = host.requests[number]?) : host'.IsWaiting number := by
  unfold IsWaiting
  rw [hsame]
  exact h

/-- No move makes a request that waits an owner. -/
theorem IsWaiting.move (h : host.IsWaiting number) (engine : Engine) (next : Move) :
    (host.move engine next).IsWaiting number := by
  cases next with
  | ask =>
      refine h.congr ?_
      have hlt : number < host.requests.length := by
        rcases h with hrequest | hrequest <;> exact (List.getElem?_eq_some_iff.mp hrequest).1
      exact List.getElem?_append_left hlt
  | look other =>
      by_cases hne : other = number
      · subst hne
        rcases h with hrequest | hrequest
        · simp only [Host.move, Host.look, hrequest]
          exact isWaiting_lookWaiting hrequest
        · simp only [Host.move, Host.look, hrequest]
          exact .inr hrequest
      · exact h.congr (getElem?_look_of_ne hne)
  | drop other =>
      by_cases hne : other = number
      · subst hne
        rcases h with hrequest | hrequest
        · simp only [Host.move, Host.drop, hrequest]
          exact .inr (host.getElem?_withRequest _ hrequest)
        · simp only [Host.move, Host.drop, hrequest]
          exact .inr hrequest
      · exact h.congr (getElem?_drop_of_ne hne)
  | shutDown => exact h

/-- Nor do many moves. -/
theorem IsWaiting.moves (h : host.IsWaiting number) (engine : Engine) (moves : List Move) :
    (moves.foldl (Host.move engine) host).IsWaiting number := by
  induction moves generalizing host with
  | nil => exact h
  | cons next rest ih => exact ih (h.move engine next)

/-- No attempt is taken back. -/
theorem attempts_le_move (engine : Engine) (host : Host) (next : Move) :
    host.attempts ≤ (host.move engine next).attempts := by
  rcases host.attempts_move engine next with hsame | ⟨-, hmore⟩
  · exact Nat.le_of_eq hsame.symm
  · rw [hmore]
    exact Nat.le_succ _

/-- Attempts are never taken back. -/
theorem attempts_le_moves (engine : Engine) (host : Host) (moves : List Move) :
    host.attempts ≤ (moves.foldl (Host.move engine) host).attempts := by
  induction moves generalizing host with
  | nil => exact Nat.le_refl _
  | cons next rest ih => exact Nat.le_trans (attempts_le_move engine host next) (ih _)

/-- A run and what follows it. -/
theorem run_append (engine : Engine) (moves moves' : List Move) :
    run engine (moves ++ moves') = moves'.foldl (Host.move engine) (run engine moves) :=
  List.foldl_append

/-- The endings in a run and in what follows it. -/
theorem endingsFrom_append (engine : Engine) (host : Host) (moves moves' : List Move) :
    endingsFrom engine host (moves ++ moves') =
      endingsFrom engine host moves ++
        endingsFrom engine (moves.foldl (Host.move engine) host) moves' := by
  induction moves generalizing host with
  | nil => rfl
  | cons next rest ih =>
      simp only [List.cons_append, endingsFrom, List.foldl_cons, ih, List.append_assoc]

end Waiting

section Waited

variable {engine : Engine} {before between : List Move} {number : Nat}
variable {result : Except InitError Unit}

/-- What the request is answered is what the status says. -/
theorem Waited.shared (h : Waited engine before number between result) :
    shared (run engine (before ++ .look number :: between)).status = .answered result := by
  have hbegan : ((run engine before).move engine (.look number)).IsWaiting number := by
    have hstart : mayStart (run engine before).status = false := by rw [h.busy]; rfl
    simp only [Host.move, Host.look, h.asked, hstart, Bool.false_eq_true, if_false]
    exact isWaiting_lookWaiting h.asked
  have hwaiting : (run engine (before ++ .look number :: between)).IsWaiting number := by
    rw [run_append, List.foldl_cons]
    exact hbegan.moves engine between
  have hanswered := h.answered
  rcases hwaiting with hrequest | hrequest
  · simp only [look, hrequest] at hanswered
    unfold lookWaiting at hanswered
    split at hanswered
    · cases hanswered
    · exact hanswered
  · simp only [look, hrequest] at hanswered
    cases hanswered

/-- The attempt that the request found in progress has ended when the request is answered. -/
theorem Waited.ended (h : Waited engine before number between result) :
    (run engine (before ++ .look number :: between)).owners = 0 ∧
    (run engine (before ++ .look number :: between)).status ≠ .shutDown ∧
    ∃ ending later, endings engine (before ++ .look number :: between) =
      endings engine before ++ ending :: later := by
  have hbefore := orderly_run engine before
  have hafter := orderly_run engine (before ++ .look number :: between)
  have hup : (run engine (before ++ .look number :: between)).status ≠ .shutDown := by
    intro hdown
    have hiff := orderly_new.shutDown_iff engine (before ++ .look number :: between)
    rcases hiff.mp hdown with hnew | hmem
    · cases hnew
    · exact h.up hmem
  have hidle : (run engine (before ++ .look number :: between)).owners = 0 := by
    refine Nat.eq_zero_of_not_pos fun hpos => ?_
    have hshared := h.shared
    rcases hafter.owner hpos with hstatus | hstatus
    · rw [hstatus] at hshared
      cases hshared
    · exact hup hstatus
  refine ⟨hidle, hup, ?_⟩
  have hsplit : endings engine (before ++ .look number :: between) = endings engine before ++
      endingsFrom engine (run engine before) (.look number :: between) :=
    endingsFrom_append engine {} before (.look number :: between)
  cases hlater : endingsFrom engine (run engine before) (.look number :: between) with
  | cons ending later => exact ⟨ending, later, by rw [hsplit, hlater]⟩
  | nil =>
      -- Otherwise the attempt would have been taken back.
      have hle := attempts_le_moves engine (run engine before) (.look number :: between)
      rw [hlater, List.append_nil] at hsplit
      have hmore := hbefore.attempts
      have hless := hafter.attempts
      rw [hbefore.owned h.busy] at hmore
      rw [hidle, hsplit, run_append] at hless
      omega

/-- What the request is answered is how the last of the attempts ended. -/
theorem Waited.answer_eq (h : Waited engine before number between result) {ending : Ending}
    {later : List Ending} (hendings : endings engine (before ++ .look number :: between) =
      endings engine before ++ ending :: later) :
    result = (later.getLastD ending).answer := by
  obtain ⟨hidle, hup, -⟩ := h.ended
  have hstatus := (accounted_run engine (before ++ .look number :: between)).latest hidle hup
  have hlast : latestStatus (endings engine before ++ ending :: later) =
      (later.getLastD ending).status := by
    simp [latestStatus, List.getLast?_append, List.getLast?_cons]
  have hshared := h.shared
  rw [hstatus, hendings, hlast, shared_status] at hshared
  exact (Look.answered.inj hshared).symm

/-- The request is answered with success exactly if an attempt has succeeded. -/
theorem Waited.ok_iff (h : Waited engine before number between result) :
    result = .ok () ↔ .succeeded ∈ endings engine (before ++ .look number :: between) := by
  have horderly := orderly_run engine (before ++ .look number :: between)
  have hshared := h.shared
  constructor
  · rintro rfl
    refine horderly.ready ?_
    cases hnow : (run engine (before ++ .look number :: between)).status with
    | ready => rfl
    | uninitialized | initializing | failed reason | shutDown =>
        rw [hnow] at hshared
        cases hshared
  · intro hsucceeded
    obtain ⟨-, hup, -⟩ := h.ended
    rw [(horderly.succeeded hsucceeded).resolve_right hup] at hshared
    exact (Look.answered.inj hshared).symm

/-- No attempt has succeeded before one that is in progress. -/
theorem Waited.not_succeeded (h : Waited engine before number between result) :
    .succeeded ∉ endings engine before := by
  intro hmem
  rcases (orderly_run engine before).succeeded hmem with hstatus | hstatus <;>
    rw [h.busy] at hstatus <;> cases hstatus

end Waited

/-- **A request that waits is told of the attempt that ended last.** When it is answered, the
attempt that it found in progress has ended, perhaps others have after it, and the answer says how
the last of them ended. It is answered with success exactly if one of them has succeeded. -/
theorem waited_answer {engine : Engine} {before between : List Move} {number : Nat}
    {result : Except InitError Unit} (h : Waited engine before number between result) :
    ∃ ending later,
      endings engine (before ++ .look number :: between) =
        endings engine before ++ ending :: later ∧
      result = (later.getLastD ending).answer ∧
      (result = .ok () ↔ ending = .succeeded ∨ .succeeded ∈ later) := by
  obtain ⟨-, -, ending, later, hendings⟩ := h.ended
  refine ⟨ending, later, hendings, h.answer_eq hendings, ?_⟩
  rw [h.ok_iff, hendings, List.mem_append, List.mem_cons, eq_comm]
  exact ⟨fun hmem => hmem.resolve_left h.not_succeeded, Or.inr⟩

/-- The first attempt fails, and the second one is made and succeeds before the request that waits
for the first is looked at again. -/
theorem waited_faltering :
    Waited faltering [.ask, .look 0, .ask] 1 [.look 0, .ask, .look 2] (.ok ()) where
  asked := rfl
  busy := rfl
  up := by simp
  answered := rfl

/-- While a request waits, the attempt that it waits for fails, and the next one succeeds. -/
theorem endings_faltering :
    endings faltering ([.ask, .look 0, .ask] ++ .look 1 :: [.look 0, .ask, .look 2]) =
      endings faltering [.ask, .look 0, .ask] ++
        .failed (.setup "assets unavailable") :: [.succeeded] := rfl

/-- The request is told of the second attempt. -/
theorem waited_answer_faltering :
    Waited faltering [.ask, .look 0, .ask] 1 [.look 0, .ask, .look 2] (.ok ()) ∧
    ∃ (ending : Ending) (later : List Ending), ending ≠ .succeeded ∧ later = [.succeeded] ∧
      .ok () = (later.getLastD ending).answer := by
  obtain ⟨ending, later, hendings, hanswer, -⟩ := waited_answer waited_faltering
  rw [endings_faltering] at hendings
  cases List.append_cancel_left hendings
  exact ⟨waited_faltering, .failed (.setup "assets unavailable"), [.succeeded], nofun, rfl, hanswer⟩

/-- A request that waits need not be told of the attempt that it found in progress. -/
theorem not_shared :
    ¬ ∀ (engine : Engine) (before : List Move) (number : Nat) (between : List Move)
      (result : Except InitError Unit) (ending : Ending) (later : List Ending),
      Waited engine before number between result →
      endings engine (before ++ .look number :: between) =
        endings engine before ++ ending :: later →
      (result = .ok () ↔ ending = .succeeded) := by
  intro hshared
  have hfirst := hshared _ _ _ _ _ _ _ waited_faltering endings_faltering
  cases hfirst.mp rfl

end Workbench.Engine.Host
