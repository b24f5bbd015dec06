import Workbench.Proofs.Evaluator.Pairing

/-!
# Machines that are kept together, and machines that are kept

Two families of pairings. Steps are *coupled* (`Eval.Coupled`) when they lead from machines that are
related to machines that are related, and both answer or both fail. A step *keeps* a property of
machines (`Eval.Keeps`) when it leads from a machine that has it to one that has it; that is a
statement about one evaluator, and it goes through the evaluator as a pairing with itself.

Either way the frame of a call comes and goes between the machine before and the machine after
(`Eval.Coupled.framed`, `Eval.Keeps.framed`), and the end of a top-level form is added to a failure
and to nothing else (`Eval.Coupled.reported`, `Eval.Keeps.reported`).
-/

namespace Workbench

variable {ω ω' : Type}

namespace Machine

/-- The machine inside a call. -/
def enter (machine : Machine ω) (frame : Frame) : Machine ω :=
  { machine with scope := machine.scope.enter frame }

/-- The machine after the call that it is inside of. -/
def leave (machine : Machine ω) : Machine ω := { machine with scope := machine.scope.leave }

end Machine

namespace Eval

variable {α α' β β' : Type}

/-- A call of a function of the program: there is no frame for it if as many calls are nested as may
be. -/
theorem checkCalls_bind (bounds : Bounds) (step : Eval ω α) (machine : Machine ω) :
    (do checkCalls bounds; step : Eval ω α) machine =
      if bounds.calls < machine.scope.frames.length then
        (.error (.callDepth bounds.calls), machine)
      else step machine := by
  change ExceptT.bindCont (fun _ => step)
    ((if bounds.calls < machine.scope.frames.length then throw (.callDepth bounds.calls)
      else pure () : Eval ω Unit) machine).1
    ((if bounds.calls < machine.scope.frames.length then throw (.callDepth bounds.calls)
      else pure () : Eval ω Unit) machine).2 = _
  split <;> rfl

/-- The evaluation of a top-level form is the evaluation of the form, with its end reported. -/
theorem evalTop_eq (bounds : Bounds) (form : Form) :
    (evalTop bounds form : Eval ω Value) =
      reported form.lastPlace (eval bounds bounds.nesting form) := rfl

/-! ### Two machines -/

/-- What two steps come to: machines that `M` relates, and answers that `V` relates or failures that
`E` relates in the worlds that there are then. -/
inductive Met (M : Machine ω → Machine ω' → Prop) (E : Failure → Failure → ω → ω' → Prop)
    (V : α → α' → Prop) :
    Except Failure α × Machine ω → Except Failure α' × Machine ω' → Prop where
  | ok {a : α} {a' : α'} {m : Machine ω} {m' : Machine ω'} (hanswer : V a a')
      (hmachines : M m m') : Met M E V (.ok a, m) (.ok a', m')
  | error {failure failure' : Failure} {m : Machine ω} {m' : Machine ω'}
      (hfailure : E failure failure' m.world m'.world) (hmachines : M m m') :
      Met M E V (.error failure, m) (.error failure', m')

/-- The failures are the same, whatever the worlds. -/
def SameFailure (failure failure' : Failure) (_ : ω) (_ : ω') : Prop := failure = failure'

/-- From machines that `M` relates the steps come to what is said in `Met`. -/
def Coupled (M : Machine ω → Machine ω' → Prop) (E : Failure → Failure → ω → ω' → Prop)
    (V : α → α' → Prop) (left : Eval ω α) (right : Eval ω' α') : Prop :=
  ∀ ⦃m : Machine ω⦄ ⦃m' : Machine ω'⦄, M m m' → Met M E V (left m) (right m')

section Coupled

variable {M M' : Machine ω → Machine ω' → Prop} {E : Failure → Failure → ω → ω' → Prop}
  {V : α → α' → Prop} {W : β → β' → Prop} {left : Eval ω α} {right : Eval ω' α'}

/-- Results that meet leave machines that are related. -/
theorem Met.machines {result : Except Failure α × Machine ω}
    {result' : Except Failure α' × Machine ω'} (h : Met M E V result result') :
    M result.2 result'.2 := by
  cases h with
  | ok _ hmachines => exact hmachines
  | error _ hmachines => exact hmachines

/-- Where answers and failures are the same, so are the outcomes. -/
theorem Met.outcome_eq {P : α → Prop} {result : Except Failure α × Machine ω}
    {result' : Except Failure α × Machine ω'} (h : Met M SameFailure (Twice P) result result') :
    result.1 = result'.1 := by
  cases h with
  | ok hanswer => exact congrArg Except.ok hanswer.2
  | error hfailure => exact congrArg Except.error hfailure

/-- Coupled steps, one after the other. -/
theorem Coupled.bind {next : α → Eval ω β} {next' : α' → Eval ω' β'} (h : Coupled M E V left right)
    (hnext : ∀ a a', V a a' → Coupled M E W (next a) (next' a')) :
    Coupled M E W (left >>= next) (right >>= next') := by
  intro m m' hm
  have hstep := h hm
  change Met M E W (ExceptT.bindCont next (left m).1 (left m).2)
    (ExceptT.bindCont next' (right m').1 (right m').2)
  generalize left m = result at hstep ⊢
  generalize right m' = result' at hstep ⊢
  cases hstep with
  | ok hanswer hafter => exact hnext _ _ hanswer hafter
  | error hfailure hafter => exact .error hfailure hafter

/-- The pairing of coupled steps, where the same fault is related to itself. -/
def Pairing.coupled (M : Machine ω → Machine ω' → Prop) (E : Failure → Failure → ω → ω' → Prop)
    (hfault : ∀ cause world world', E (.fault cause none) (.fault cause none) world world') :
    Pairing ω ω' where
  Pairs V := Coupled M E V
  pairs_pure hanswer := fun _ _ hm => .ok hanswer hm
  pairs_fault cause := fun _ _ hm => .error (hfault cause _ _) hm
  pairs_bind h hnext := h.bind hnext

/-- Calls of functions, each in a frame of its own. Both sides have room for it or neither has. -/
theorem Coupled.framed {bounds bounds' : Bounds} {frame frame' : Frame} {V : Value → Value → Prop}
    {left : Eval ω Value} {right : Eval ω' Value}
    (hsize : ∀ {m m'}, M m m' → (bounds.calls < m.scope.frames.length ↔
      bounds'.calls < m'.scope.frames.length))
    (hrefused : ∀ {m m'}, M m m' →
      E (.callDepth bounds.calls) (.callDepth bounds'.calls) m.world m'.world)
    (hleave : ∀ {after after'}, M' after after' → M after.leave after'.leave)
    (h : ∀ {m m'}, M m m' → m.scope.frames.length ≤ bounds.calls →
      Met M' E V (left (m.enter frame)) (right (m'.enter frame'))) :
    Coupled M E V (do checkCalls bounds; inFrame frame left)
      (do checkCalls bounds'; inFrame frame' right) := by
  intro m m' hm
  rw [checkCalls_bind, checkCalls_bind]
  by_cases hfull : bounds.calls < m.scope.frames.length
  · rw [if_pos hfull, if_pos ((hsize hm).mp hfull)]
    exact .error (hrefused hm) hm
  · rw [if_neg hfull, if_neg (mt (hsize hm).mpr hfull)]
    have hbody := h hm (Nat.le_of_not_lt hfull)
    change Met M E V ((left (m.enter frame)).1, (left (m.enter frame)).2.leave)
      ((right (m'.enter frame')).1, (right (m'.enter frame')).2.leave)
    generalize left (m.enter frame) = result at hbody ⊢
    generalize right (m'.enter frame') = result' at hbody ⊢
    cases hbody with
    | ok hanswer hafter => exact .ok hanswer (hleave hafter)
    | error hfailure hafter => exact .error hfailure (hleave hafter)

/-- Failures that are related stay so when the end of a form is added to each. -/
theorem Coupled.reported {place place' : Option Position} (h : Coupled M E V left right)
    (hfailure : ∀ {failure failure' world world'}, E failure failure' world world' →
      E (failure.endingAt place) (failure'.endingAt place') world world') :
    Coupled M E V (reported place left) (reported place' right) := by
  intro m m' hm
  have hstep := h hm
  change Met M E V ((left m).1.mapError (Failure.endingAt place), (left m).2)
    ((right m').1.mapError (Failure.endingAt place'), (right m').2)
  generalize left m = result at hstep ⊢
  generalize right m' = result' at hstep ⊢
  cases hstep with
  | ok hanswer hafter => exact .ok hanswer hafter
  | error hrelated hafter => exact .error (hfailure hrelated) hafter

end Coupled

/-! ### One machine -/

/-- What a step comes to: a machine with a property, and an answer of a kind or a failure that is
expected in the world that there is then. -/
structure Kept (I : Machine ω → Prop) (E : Failure → ω → Prop) (wanted : α → Prop)
    (result : Except Failure α × Machine ω) : Prop where
  machine : I result.2
  answer : ∀ a, result.1 = .ok a → wanted a
  failure : ∀ failure, result.1 = .error failure → E failure result.2.world

/-- From every machine with the property the step comes to what is said in `Kept`. -/
def Keeps (I : Machine ω → Prop) (E : Failure → ω → Prop) (wanted : α → Prop)
    (step : Eval ω α) : Prop :=
  ∀ ⦃machine : Machine ω⦄, I machine → Kept I E wanted (step machine)

section Keeps

variable {I I' : Machine ω → Prop} {E : Failure → ω → Prop} {wanted middle : α → Prop}
  {step : Eval ω α}

/-- An answer that is wanted, on a machine that is as it should be. -/
theorem kept_ok {machine : Machine ω} {a : α} (h : wanted a) (hmachine : I machine) :
    Kept I E wanted (.ok a, machine) := by
  refine ⟨hmachine, ?_, nofun⟩
  rintro _ ⟨⟩
  exact h

/-- A failure that is allowed, on a machine that is as it should be. -/
theorem kept_error {machine : Machine ω} {failure : Failure} (h : E failure machine.world)
    (hmachine : I machine) : Kept I E wanted (.error failure, machine) := by
  refine ⟨hmachine, nofun, ?_⟩
  rintro _ ⟨⟩
  exact h

/-- Steps that keep the property, one after the other. -/
theorem Keeps.bind {wanted : β → Prop} {next : α → Eval ω β} (h : Keeps I E middle step)
    (hnext : ∀ a, middle a → Keeps I E wanted (next a)) : Keeps I E wanted (step >>= next) := by
  intro machine hmachine
  obtain ⟨hafter, hanswer, hfailure⟩ := h hmachine
  change Kept I E wanted (ExceptT.bindCont next (step machine).1 (step machine).2)
  cases hstep : (step machine).1 with
  | ok a => exact hnext a (hanswer a hstep) hafter
  | error failure => exact kept_error (hfailure failure hstep) hafter

/-- What is wanted less is kept too. -/
theorem Keeps.mono (h : Keeps I E middle step) (himp : ∀ a, middle a → wanted a) :
    Keeps I E wanted step :=
  fun _ hmachine => ⟨(h hmachine).machine, fun a ha => himp a ((h hmachine).answer a ha),
    (h hmachine).failure⟩

/-- The pairing of steps of which the first keeps the property, where faults are expected. An answer
is as wanted if it corresponds to anything. -/
def Pairing.keeping (I : Machine ω → Prop) (E : Failure → ω → Prop)
    (hfault : ∀ cause world, E (.fault cause none) world) : Pairing ω ω where
  Pairs V left _ := Keeps I E (fun a => ∃ a', V a a') left
  pairs_pure hanswer := fun _ hmachine => kept_ok ⟨_, hanswer⟩ hmachine
  pairs_fault cause := fun _ hmachine => kept_error (hfault cause _) hmachine
  pairs_bind h hnext := h.bind fun _ ⟨_, hanswer⟩ => hnext _ _ hanswer

/-- What the pairing says of a step and itself. -/
theorem pairs_keeping_iff {hfault : ∀ cause world, E (.fault cause none) world} :
    (Pairing.keeping I E hfault).Pairs (Twice wanted) step step ↔ Keeps I E wanted step := by
  constructor
  · exact fun h => Keeps.mono h fun a ⟨_, ha, _⟩ => ha
  · exact fun h => h.mono fun a ha => ⟨a, ha, rfl⟩

/-- Forms of which each keeps the property, as the pairing has them. -/
theorem keeps_items {hfault : ∀ cause world, E (.fault cause none) world} {wanted : Value → Prop}
    {inside : Form → Eval ω Value} {items : List Form}
    (h : ∀ form ∈ items, Keeps I E wanted (inside form)) :
    (Pairing.keeping I E hfault).PairsItems (Twice wanted) inside inside items items :=
  List.forall₂_same.mpr fun form hmem => ⟨form.resembles_self, pairs_keeping_iff.mpr (h form hmem)⟩

/-- A sequence of forms of which each keeps the property. -/
theorem keeps_evalLast (hfault : ∀ cause world, E (.fault cause none) world)
    {wanted : Value → Prop} {inside : Form → Eval ω Value} {forms : List Form}
    (h : ∀ form ∈ forms, Keeps I E wanted (inside form)) {last : Value} (hlast : wanted last) :
    Keeps I E wanted (evalLast inside last forms) := by
  have hforms : (Pairing.keeping I E hfault).PairsAll (Twice wanted) inside inside forms forms :=
    (keeps_items h).imp fun _ _ hform => hform.2
  exact pairs_keeping_iff.mp (Pairing.pairs_evalLast _ hforms ⟨hlast, rfl⟩)

/-- A call of a function, in a frame of its own. -/
theorem Keeps.framed {bounds : Bounds} {frame : Frame} {wanted : Value → Prop} {body : Eval ω Value}
    (hrefused : ∀ {machine}, I machine → E (.callDepth bounds.calls) machine.world)
    (henter : ∀ {machine}, I machine → I' (machine.enter frame))
    (hleave : ∀ {after}, I' after → I after.leave) (h : Keeps I' E wanted body) :
    Keeps I E wanted (do checkCalls bounds; inFrame frame body) := by
  intro machine hmachine
  rw [checkCalls_bind]
  split
  · exact kept_error (hrefused hmachine) hmachine
  · have hbody := h (henter hmachine)
    exact ⟨hleave hbody.machine, hbody.answer, hbody.failure⟩

/-- A failure that is expected stays so when the end of a form is added to it. -/
theorem Keeps.reported {place : Option Position} (h : Keeps I E wanted step)
    (hfailure : ∀ {failure world}, E failure world → E (failure.endingAt place) world) :
    Keeps I E wanted (reported place step) := by
  intro machine hmachine
  obtain ⟨hafter, hanswer, hexpected⟩ := h hmachine
  change Kept I E wanted ((step machine).1.mapError (Failure.endingAt place), (step machine).2)
  cases hstep : (step machine).1 with
  | ok a => exact kept_ok (hanswer a hstep) hafter
  | error failure => exact kept_error (hfailure (hexpected failure hstep)) hafter

end Keeps

end Eval

end Workbench
