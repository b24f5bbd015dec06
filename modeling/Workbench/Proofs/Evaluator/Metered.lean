import Workbench.Proofs.Evaluator.Coupling

/-!
# Evaluation ends within its bounds

The evaluator recurses on an allowance that it is given, so that it ends is plain from its
definition; what is not plain is that the allowance says no more than the limits do. Here the same
evaluator is written with a *meter* in place of the allowance: a counter of the groups under
evaluation that is checked against the limit, raised when a group is entered and lowered when it is
left, and a recursion that nothing cuts off but *fuel*, the number of activations of the evaluator
that may be nested. At each activation and each group that is entered the meter takes a *reading* of
the frames, the groups and the activations there are at that moment.

**Theorem** (`Eval.evaluation_bounded`): whatever the form, the globals and the limits, one unit of
fuel more than there are groups left to enter is enough. The metered evaluator then never runs out
of fuel, it has the answer and the effects of the evaluator with an allowance, the meter is back
where it was, and no reading goes beyond the limits.

The proof runs the two side by side, in machines of which the second is the first with a meter
beside its world (`Eval.Tracks`). A call of a function neither gives back a group nor takes one, so
that what decreases along the recursion is not the form and not the room for frames but the room for
groups: every activation that is not the innermost one has a group of its own.
-/

namespace Workbench

/-- What there is at one moment of an evaluation. -/
structure Reading where
  frames : Nat
  /-- The groups under evaluation. -/
  nesting : Nat
  /-- The activations of the evaluator under way. -/
  active : Nat

/-- No number of the first reading is greater than in the second. -/
structure Reading.Within (reading cap : Reading) : Prop where
  frames : reading.frames ≤ cap.frames
  nesting : reading.nesting ≤ cap.nesting
  active : reading.active ≤ cap.active

/-- The counters of an evaluation, with the readings so far, the latest first. -/
structure Meter where
  /-- The groups under evaluation. -/
  nesting : Nat := 0
  /-- The activations of the evaluator under way. -/
  active : Nat := 0
  readings : List Reading := []
  /-- Whether an activation was wanted for which there was no fuel. -/
  exhausted : Bool := false

/-- The meter with a reading taken in the given scope. -/
def Meter.read (meter : Meter) (scope : Scope) : Meter :=
  { meter with
    readings := ⟨scope.frames.length, meter.nesting, meter.active⟩ :: meter.readings }

/-- One activation more. -/
def Meter.activate (meter : Meter) : Meter := { meter with active := meter.active + 1 }

/-- One activation less. -/
def Meter.deactivate (meter : Meter) : Meter := { meter with active := meter.active - 1 }

/-- One group more. -/
def Meter.enter (meter : Meter) : Meter := { meter with nesting := meter.nesting + 1 }

/-- One group less. -/
def Meter.leave (meter : Meter) : Meter := { meter with nesting := meter.nesting - 1 }

/-- A meter that stands at the given counts, has not run out of fuel and whose readings all stay
within the cap. -/
structure Meter.Shows (cap : Reading) (nesting active : Nat) (meter : Meter) : Prop where
  nesting : meter.nesting = nesting
  active : meter.active = active
  exhausted : meter.exhausted = false
  readings : ∀ reading ∈ meter.readings, reading.Within cap

/-- A reading within the cap may be written down. -/
theorem Meter.Shows.read {cap : Reading} {nesting active : Nat} {meter : Meter}
    (h : meter.Shows cap nesting active) {scope : Scope}
    (hread : Reading.Within ⟨scope.frames.length, nesting, active⟩ cap) :
    (meter.read scope).Shows cap nesting active := by
  refine ⟨h.nesting, h.active, h.exhausted, fun reading hmem => ?_⟩
  rcases List.mem_cons.mp hmem with rfl | hmem
  · rw [h.nesting, h.active]
    exact hread
  · exact h.readings reading hmem

/-- A scope that is inside a call has one frame more than the scope after it. -/
theorem Scope.length_leave {scope : Scope} (h : 1 < scope.frames.length) :
    scope.leave.frames.length + 1 = scope.frames.length := by
  obtain ⟨top, outer⟩ := scope
  cases outer with
  | nil => exact absurd h (Nat.lt_irrefl 1)
  | cons => rfl

variable {ω : Type}

/-- The machine with a meter beside its world. -/
def Machine.metered (machine : Machine ω) (meter : Meter) : Machine (Meter × ω) where
  scope := machine.scope
  stamp := machine.stamp
  sink := fun values world => (world.1, machine.sink values world.2)
  world := (meter, machine.world)

/-- The machine with its meter changed. -/
def Machine.adjust (machine : Machine (Meter × ω)) (change : Meter → Meter) :
    Machine (Meter × ω) :=
  { machine with world := (change machine.world.1, machine.world.2) }

/-! ### The evaluator with a meter -/

namespace Eval

variable {α β : Type}

/-- The step between two changes of the meter. The second one is made whatever the outcome. -/
def counted (begin finish : Meter → Meter) (step : Eval (Meter × ω) α) : Eval (Meter × ω) α :=
  fun machine =>
    let (outcome, after) := step (machine.adjust fun meter => (begin meter).read machine.scope)
    (outcome, after.adjust finish)

/-- The step as an activation of the evaluator. -/
def activated (step : Eval (Meter × ω) α) : Eval (Meter × ω) α :=
  counted Meter.activate Meter.deactivate step

/-- The step inside a group, if there may be one more. -/
def grouped (bounds : Bounds) (step : Eval (Meter × ω) α) : Eval (Meter × ω) α := fun machine =>
  if bounds.nesting ≤ machine.world.1.nesting then (.error (.nesting bounds.nesting), machine)
  else counted Meter.enter Meter.leave step machine

/-- There is no fuel for an activation that is wanted. -/
def exhaust : Eval (Meter × ω) Value := fun machine =>
  (.ok .null, machine.adjust fun meter => { meter with exhausted := true })

/-- The value of a form, where at most `fuel` activations may be nested. What is not a group is
evaluated without recursion. -/
def metered (bounds : Bounds) : (fuel : Nat) → Form → Eval (Meter × ω) Value
  | 0, _ => exhaust
  | fuel + 1, .list items =>
      activated (grouped bounds do return .list (← evalAll (metered bounds fuel) items))
  | fuel + 1, .call items => activated (grouped bounds (evalCall bounds (metered bounds fuel) items))
  | _ + 1, form => activated (eval bounds 0 form)

/-- The value of a top-level form, as `evalTop` reports it. -/
def meteredTop (bounds : Bounds) (fuel : Nat) (form : Form) : Eval (Meter × ω) Value :=
  fun machine =>
    let (outcome, after) := metered bounds fuel form machine
    (outcome.mapError (Failure.endingAt form.lastPlace), after)

/-- The value of a program. -/
def meteredProgram (bounds : Bounds) (fuel : Nat) : Form → Eval (Meter × ω) Value
  | .call forms => evalLast (meteredTop bounds fuel) .null forms
  | form => evalLast (meteredTop bounds fuel) .null [form]

/-- A program is the sequence of its top-level forms. -/
theorem meteredProgram_eq (bounds : Bounds) (fuel : Nat) (root : Form) :
    (meteredProgram bounds fuel root : Eval (Meter × ω) Value) =
      evalLast (meteredTop bounds fuel) .null root.topLevel := by
  cases root <;> rfl

/-! ### Steps in general -/

end Eval

/-- The first machine has so many frames, and the second one is the same machine with a meter beside
its world that shows the given counts. -/
structure Machine.Meters (cap : Reading) (nesting active frames : Nat) (machine : Machine ω)
    (machine' : Machine (Meter × ω)) : Prop where
  frames : machine.scope.frames.length = frames
  meter : ∃ meter : Meter, meter.Shows cap nesting active ∧ machine' = machine.metered meter

/-- The frame of a call is gone after it. -/
theorem Machine.Meters.leave {cap : Reading} {nesting active frames : Nat} {machine : Machine ω}
    {machine' : Machine (Meter × ω)}
    (h : machine.Meters cap nesting active (frames + 1) machine') (hframes : 0 < frames) :
    machine.leave.Meters cap nesting active frames machine'.leave := by
  obtain ⟨hcount, meter, hmeter, rfl⟩ := h
  have hinside : 1 < machine.scope.frames.length := by omega
  exact ⟨Nat.succ.inj ((Scope.length_leave hinside).trans hcount), meter, hmeter, rfl⟩

namespace Eval

variable {α : Type}

/-- The pairing of steps that leave frames and counts as they were. -/
def metering (cap : Reading) (nesting active frames : Nat) : Pairing ω (Meter × ω) :=
  .coupled (Machine.Meters cap nesting active frames) SameFailure fun _ _ _ => rfl

/-- In a machine with `frames` frames and with a meter that shows the given counts beside it, the
second step does what the first does by itself, and leaves frames and counts as they were. -/
def Tracks (cap : Reading) (nesting active frames : Nat) (left : Eval ω α)
    (right : Eval (Meter × ω) α) : Prop :=
  (metering cap nesting active frames).Pairs (Twice fun _ => True) left right

variable {cap : Reading} {nesting active frames : Nat}

/-- A step that neither enters nor leaves a frame and that the meter makes no difference to. -/
theorem pairs_of_unmetered {V : α → α → Prop} (hanswer : ∀ a, V a a) {left : Eval ω α}
    {right : Eval (Meter × ω) α}
    (hframes : ∀ machine,
      (left machine).2.scope.frames.length = machine.scope.frames.length)
    (hright : ∀ machine meter,
      right (machine.metered meter) = ((left machine).1, (left machine).2.metered meter)) :
    (metering cap nesting active frames).Pairs V left right := by
  rintro machine _ ⟨hbefore, meter, hmeter, rfl⟩
  have hafter : (left machine).2.Meters cap nesting active frames
      ((left machine).2.metered meter) := ⟨(hframes machine).trans hbefore, meter, hmeter, rfl⟩
  rw [hright]
  generalize left machine = result at hafter ⊢
  obtain ⟨failure | a, after⟩ := result
  · exact .error rfl hafter
  · exact .ok (hanswer a) hafter

/-- A builtin function opens no group and starts no frame. -/
theorem tracks_callBuiltin (builtin : Builtin) (arguments : List Value) :
    Tracks cap nesting active frames (callBuiltin builtin arguments : Eval ω Value)
      (callBuiltin builtin arguments) := by
  refine (metering cap nesting active frames).pairs_callBuiltin (fun values _ => ?_)
    fun _ _ => ⟨trivial, rfl⟩
  exact pairs_of_unmetered (fun _ => trivial) (fun _ => rfl) fun _ _ => rfl

/-- What is not a group needs no allowance and takes nothing from the meter. -/
theorem tracks_eval_atom (bounds : Bounds) (allowance : Nat) {form : Form}
    (hgroup : form.kind ≠ .call ∧ form.kind ≠ .list) :
    Tracks cap nesting active frames (eval bounds allowance form : Eval ω Value)
      (eval bounds 0 form) := by
  refine (metering cap nesting active frames).pairs_eval_atom hgroup
    (fun _ => ⟨trivial, rfl⟩) (fun _ _ => ?_) (fun _ _ _ _ _ => ?_) allowance 0
  · exact pairs_of_unmetered (fun _ => ⟨trivial, rfl⟩) (fun _ => rfl) fun _ _ => rfl
  · exact pairs_of_unmetered (fun _ => ⟨trivial, rfl⟩) (fun _ => rfl) fun _ _ => rfl

/-- A call of a function: it has a frame of its own, for which the limit leaves room. -/
theorem tracks_framed {bounds : Bounds} {left : Eval ω Value} {right : Eval (Meter × ω) Value}
    (frame : Frame)
    (h : frames ≤ bounds.calls → Tracks cap nesting active (frames + 1) left right) :
    Tracks cap nesting active frames (do checkCalls bounds; inFrame frame left)
      (do checkCalls bounds; inFrame frame right) := by
  intro machine machine' hmachines
  have hpositive : 0 < frames := hmachines.frames ▸ Nat.succ_pos _
  have hleave : ∀ {after : Machine ω} {after'},
      after.Meters cap nesting active (frames + 1) after' →
      after.leave.Meters cap nesting active frames after'.leave := fun h => h.leave hpositive
  refine Coupled.framed (fun hm => ?_) (fun _ => rfl) hleave (fun hm hroom => ?_) hmachines
  · obtain ⟨-, meter, -, rfl⟩ := hm
    exact Iff.rfl
  · obtain ⟨hframes, meter, hmeter, rfl⟩ := hm
    rw [hframes] at hroom
    exact h hroom ⟨congrArg (· + 1) hframes, meter, hmeter, rfl⟩

/-! ### The counters -/

/-- The counts are as before when the second change undoes the first. -/
theorem Tracks.counted {nesting' active' : Nat} {begin finish : Meter → Meter} {left : Eval ω α}
    {right : Eval (Meter × ω) α}
    (hbegin : ∀ meter : Meter, meter.Shows cap nesting active →
      (begin meter).Shows cap nesting' active')
    (hfinish : ∀ meter : Meter, meter.Shows cap nesting' active' →
      (finish meter).Shows cap nesting active)
    (hread : Reading.Within ⟨frames, nesting', active'⟩ cap)
    (h : Tracks cap nesting' active' frames left right) :
    Tracks cap nesting active frames left (counted begin finish right) := by
  rintro machine _ ⟨hframes, meter, hmeter, rfl⟩
  have hbegun : ((begin meter).read machine.scope).Shows cap nesting' active' :=
    (hbegin meter hmeter).read (by rw [hframes]; exact hread)
  have hmet := h ⟨hframes, _, hbegun, rfl⟩
  have hundo : ∀ {after : Machine ω} {after'}, after.Meters cap nesting' active' frames after' →
      Machine.Meters cap nesting active frames after (after'.adjust finish) := by
    rintro after _ ⟨hkept, later, hlater, rfl⟩
    exact ⟨hkept, finish later, hfinish later hlater, rfl⟩
  change Met _ _ _ (left machine)
    ((right (machine.metered ((begin meter).read machine.scope))).1,
      (right (machine.metered ((begin meter).read machine.scope))).2.adjust finish)
  generalize left machine = result at hmet ⊢
  generalize right (machine.metered ((begin meter).read machine.scope)) = result' at hmet ⊢
  cases hmet with
  | ok hanswer hafter => exact .ok hanswer (hundo hafter)
  | error hfailure hafter => exact .error hfailure (hundo hafter)

/-- An activation is counted while it lasts, and only then. -/
theorem Tracks.activated {left : Eval ω α} {right : Eval (Meter × ω) α}
    (hread : Reading.Within ⟨frames, nesting, active + 1⟩ cap)
    (h : Tracks cap nesting (active + 1) frames left right) :
    Tracks cap nesting active frames left (activated right) := by
  refine Tracks.counted (fun meter hmeter => ?_) (fun meter hmeter => ?_) hread h
  · exact { hmeter with active := congrArg (· + 1) hmeter.active }
  · exact { hmeter with active := congrArg (· - 1) hmeter.active }

/-- A group is counted while it lasts, and is refused by neither evaluator where there is room for
one. -/
theorem Tracks.grouped {bounds : Bounds} {left : Eval ω α} {right : Eval (Meter × ω) α}
    (hroom : nesting < bounds.nesting) (hread : Reading.Within ⟨frames, nesting + 1, active⟩ cap)
    (h : Tracks cap (nesting + 1) active frames left right) :
    Tracks cap nesting active frames left (grouped bounds right) := by
  have hcounted : Tracks cap nesting active frames left
      (Eval.counted Meter.enter Meter.leave right) := by
    refine Tracks.counted (fun meter hmeter => ?_) (fun meter hmeter => ?_) hread h
    · exact { hmeter with nesting := congrArg (· + 1) hmeter.nesting }
    · exact { hmeter with nesting := congrArg (· - 1) hmeter.nesting }
  rintro machine _ ⟨hframes, meter, hmeter, rfl⟩
  have hopen : ¬ bounds.nesting ≤ meter.nesting := by
    rw [hmeter.nesting]
    exact Nat.not_le_of_lt hroom
  have hstep : Eval.grouped bounds right (machine.metered meter) =
      Eval.counted Meter.enter Meter.leave right (machine.metered meter) := if_neg hopen
  rw [hstep]
  exact hcounted ⟨hframes, meter, hmeter, rfl⟩

/-- A group that may not be entered. -/
theorem tracks_grouped_full {bounds : Bounds} (hfull : bounds.nesting ≤ nesting)
    (right : Eval (Meter × ω) α) :
    Tracks cap nesting active frames (throw (.nesting bounds.nesting) : Eval ω α)
      (grouped bounds right) := by
  rintro machine _ ⟨hframes, meter, hmeter, rfl⟩
  have hclosed : bounds.nesting ≤ meter.nesting := by
    rw [hmeter.nesting]
    exact hfull
  have hstep : grouped bounds right (machine.metered meter) =
      (.error (.nesting bounds.nesting), machine.metered meter) := if_pos hclosed
  rw [hstep]
  exact .error rfl ⟨hframes, meter, hmeter, rfl⟩

/-! ### Evaluation as a whole -/

section Groups

variable {bounds : Bounds} {inside : Form → Eval ω Value} {inside' : Form → Eval (Meter × ω) Value}

/-- An application, where forms are tracked at whatever number of frames they are evaluated. -/
theorem tracks_apply (hcap : bounds.calls + 1 ≤ cap.frames)
    (h : ∀ frames, frames ≤ cap.frames → ∀ form,
      Tracks cap nesting active frames (inside form) (inside' form))
    (callee : Value) (arguments : List Value) :
    Tracks cap nesting active frames (apply bounds inside callee arguments)
      (apply bounds inside' callee arguments) := by
  have halike : callee.CalledAlike (Twice fun _ => True) callee :=
    Value.correspondence_same.callee ⟨trivial, rfl⟩
  refine (metering cap nesting active frames).pairs_apply halike rfl ⟨trivial, rfl⟩
    (fun builtin => tracks_callBuiltin builtin arguments) ?_
  rintro parameters body _ ⟨-, rfl⟩
  exact tracks_framed _ fun hroom => h _ (by omega) body

/-- A group in parentheses. -/
theorem tracks_evalCall (hcap : bounds.calls + 1 ≤ cap.frames) (hframes : frames ≤ cap.frames)
    (h : ∀ frames, frames ≤ cap.frames → ∀ form,
      Tracks cap nesting active frames (inside form) (inside' form)) (items : List Form) :
    Tracks cap nesting active frames (evalCall bounds inside items)
      (evalCall bounds inside' items) := by
  rw [evalCall_eq, evalCall_eq]
  refine (metering cap nesting active frames).pairs_callWith ?_ Value.correspondence_same
    (fun _ _ hvalue => hvalue) ?_ ?_
  · rintro callee _ arguments arguments' ⟨-, rfl⟩ harguments
    obtain ⟨-, rfl⟩ := forall₂_twice.mp harguments
    exact tracks_apply hcap h callee arguments
  · rintro name value _ ⟨-, rfl⟩
    exact pairs_of_unmetered (fun _ => trivial) (fun _ => rfl) fun _ _ => rfl
  · exact List.forall₂_same.mpr fun item _ => ⟨item.resembles_self, h frames hframes item⟩

end Groups

/-- **Fuel for the groups that are left is enough.** The induction is on the fuel. An activation that
does not enter a group is the innermost one, and one that does leaves less room for groups to the
activations inside it, among which are those of the bodies of the functions it calls. -/
theorem tracks_metered {bounds : Bounds} (hcalls : bounds.calls + 1 ≤ cap.frames)
    (hgroups : bounds.nesting ≤ cap.nesting) {fuel : Nat} (hfuel : bounds.nesting - nesting < fuel)
    (hframes : frames ≤ cap.frames) (hnesting : nesting ≤ cap.nesting)
    (hactive : active + (bounds.nesting - nesting) + 1 ≤ cap.active) (form : Form) :
    Tracks cap nesting active frames (eval bounds (bounds.nesting - nesting) form : Eval ω Value)
      (metered bounds fuel form) := by
  induction fuel generalizing nesting active frames form with
  | zero => exact absurd hfuel (Nat.not_lt_zero _)
  | succ fuel ih =>
      have hread : Reading.Within ⟨frames, nesting, active + 1⟩ cap :=
        ⟨hframes, hnesting, by simp only; omega⟩
      by_cases hroom : nesting < bounds.nesting
      · have hinside : ∀ frames, frames ≤ cap.frames → ∀ form, Tracks cap (nesting + 1)
            (active + 1) frames (eval bounds (bounds.nesting - (nesting + 1)) form : Eval ω Value)
            (metered bounds fuel form) :=
          fun frames hframes form => ih (by omega) hframes (by omega) (by omega) form
        have hgroup : Reading.Within ⟨frames, nesting + 1, active + 1⟩ cap :=
          ⟨hframes, by simp only; omega, by simp only; omega⟩
        have hallowance : bounds.nesting - nesting = bounds.nesting - (nesting + 1) + 1 := by omega
        cases form with
        | list items =>
            rw [hallowance]
            refine Tracks.activated hread (Tracks.grouped hroom hgroup ?_)
            exact (metering cap _ _ frames).pairs_list Value.same_list
              (List.forall₂_same.mpr fun item _ => hinside frames hframes item)
        | call items =>
            rw [hallowance]
            refine Tracks.activated hread (Tracks.grouped hroom hgroup ?_)
            exact tracks_evalCall hcalls hframes hinside items
        | word | string | number | boolean | function =>
            exact Tracks.activated hread (tracks_eval_atom bounds _ ⟨nofun, nofun⟩)
      · have hallowance : bounds.nesting - nesting = 0 := by omega
        rw [hallowance]
        cases form with
        | list | call =>
            exact Tracks.activated hread (tracks_grouped_full (Nat.le_of_not_lt hroom) _)
        | word | string | number | boolean | function =>
            exact Tracks.activated hread (tracks_eval_atom bounds _ ⟨nofun, nofun⟩)

/-- **The metered evaluator tracks the evaluator** on whole programs, within a cap that has room for
the bounds. -/
theorem tracks_meteredProgram {bounds : Bounds} (hcalls : bounds.calls + 1 ≤ cap.frames)
    (hgroups : bounds.nesting ≤ cap.nesting) {fuel : Nat} (hfuel : bounds.nesting < fuel)
    (hframes : frames ≤ cap.frames) (hactive : active + bounds.nesting + 1 ≤ cap.active)
    (root : Form) :
    Tracks cap 0 active frames (evalProgram bounds root : Eval ω Value)
      (meteredProgram bounds fuel root) := by
  rw [evalProgram_eq, meteredProgram_eq]
  refine (metering cap 0 active frames).pairs_evalLast
    (List.forall₂_same.mpr fun form _ => ?_) ⟨trivial, rfl⟩
  have hform : Tracks cap 0 active frames (eval bounds bounds.nesting form : Eval ω Value)
      (metered bounds fuel form) :=
    tracks_metered hcalls hgroups hfuel hframes (Nat.zero_le _) hactive form
  exact Coupled.reported hform fun hsame => congrArg (Failure.endingAt form.lastPlace) hsame

/-- From a machine with `nesting` groups under evaluation, the metered step ends without running out
of fuel. It has the answer and the effects of the step by itself, leaves the counters and the number
of frames as they were, and takes no reading beyond the cap. -/
structure EndsWithin (cap : Reading) (nesting : Nat) (machine : Machine ω)
    (step : Eval (Meter × ω) α) (spec : Eval ω α) : Prop where
  answer : (step (machine.metered { nesting := nesting })).1 = (spec machine).1
  effects : (step (machine.metered { nesting := nesting })).2 =
    (spec machine).2.metered (step (machine.metered { nesting := nesting })).2.world.1
  meter : (step (machine.metered { nesting := nesting })).2.world.1.Shows cap nesting 0
  frames : (step (machine.metered { nesting := nesting })).2.scope.frames.length =
    machine.scope.frames.length

/-- What tracks an evaluation ends as it does, within the cap. -/
theorem Tracks.endsWithin {machine : Machine ω} {left : Eval ω α} {right : Eval (Meter × ω) α}
    (h : Tracks cap nesting 0 machine.scope.frames.length left right) :
    EndsWithin cap nesting machine right left := by
  have hstart : Meter.Shows cap nesting 0 { nesting := nesting } := ⟨rfl, rfl, rfl, nofun⟩
  have hmet := h ⟨rfl, _, hstart, rfl⟩
  obtain ⟨hkept, after, hafter, hright⟩ := hmet.machines
  refine ⟨hmet.outcome_eq.symm, ?_, ?_, ?_⟩ <;> rw [hright]
  · rfl
  · exact hafter
  · exact hkept

/-- **Evaluation ends within its bounds.** Started with the globals alone, the evaluation of a form,
an application and a program all end with a value or a failure; all along there are at most as many
frames as calls may be nested and the globals, at most as many groups as the limit says, and one
activation of the evaluator more than that. From every other state, too, fuel for the groups that
are left and one unit more is enough for every form and every application, and more fuel changes
nothing. -/
theorem evaluation_bounded (bounds : Bounds) :
    (∀ (globals : Frame) (stamp : Nat) (sink : List Value → ω → ω) (world : ω),
      let start : Machine ω := ⟨{ top := globals }, stamp, sink, world⟩
      let cap : Reading := ⟨bounds.calls + 1, bounds.nesting, bounds.nesting + 1⟩
      let fuel := bounds.nesting + 1
      (∀ form, EndsWithin cap 0 start (metered bounds fuel form)
        (eval bounds bounds.nesting form)) ∧
      (∀ callee arguments, EndsWithin cap 0 start
        (apply bounds (metered bounds fuel) callee arguments)
        (apply bounds (eval bounds bounds.nesting) callee arguments)) ∧
      ∀ root, EndsWithin cap 0 start (meteredProgram bounds fuel root)
        (evalProgram bounds root)) ∧
    ∀ (machine : Machine ω) (nesting spare : Nat),
      let left := bounds.nesting - nesting
      let cap : Reading :=
        ⟨max machine.scope.frames.length (bounds.calls + 1), max nesting bounds.nesting, left + 1⟩
      let fuel := left + 1 + spare
      (∀ form, EndsWithin cap nesting machine (metered bounds fuel form)
        (eval bounds left form)) ∧
      ∀ callee arguments, EndsWithin cap nesting machine
        (apply bounds (metered bounds fuel) callee arguments)
        (apply bounds (eval bounds left) callee arguments) := by
  constructor
  · intro globals stamp sink world start cap fuel
    have hmetered : ∀ frames, frames ≤ cap.frames → ∀ form, Tracks cap 0 0 frames
        (eval bounds bounds.nesting form : Eval ω Value) (metered bounds fuel form) :=
      fun frames hframes form => tracks_metered (Nat.le_refl _) (Nat.le_refl _)
        (Nat.lt_succ_self _) hframes (Nat.zero_le _) (by simp [cap]) form
    have hone : start.scope.frames.length ≤ cap.frames := Nat.succ_le_succ (Nat.zero_le _)
    refine ⟨fun form => (hmetered _ hone form).endsWithin,
      fun callee arguments => (tracks_apply (Nat.le_refl _) hmetered callee arguments).endsWithin,
      fun root => Tracks.endsWithin ?_⟩
    exact tracks_meteredProgram (Nat.le_refl _) (Nat.le_refl _) (Nat.lt_succ_self _) hone
      (by simp [cap]) root
  · intro machine nesting spare left cap fuel
    have hmetered : ∀ frames, frames ≤ cap.frames → ∀ form, Tracks cap nesting 0 frames
        (eval bounds left form : Eval ω Value) (metered bounds fuel form) :=
      fun frames hframes form => tracks_metered (Nat.le_max_right _ _) (Nat.le_max_right _ _)
        (by omega) hframes (Nat.le_max_left _ _) (by simp [cap, left]) form
    exact ⟨fun form => (hmetered _ (Nat.le_max_left _ _) form).endsWithin,
      fun callee arguments =>
        (tracks_apply (Nat.le_max_right _ _) hmetered callee arguments).endsWithin⟩

-- Less fuel is not enough: the third of three lists is evaluated only to find that it is one too
-- many.
example : (metered { nesting := 2 } 2 (.list [.list [.list []]])
    ((Machine.recording []).metered {})).2.world.1.exhausted = true := by decide

end Eval

end Workbench
