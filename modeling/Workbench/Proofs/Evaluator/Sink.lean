import Workbench.Program
import Workbench.Proofs.Evaluator.Coupling

/-!
# Evaluation never looks at the world of its sink

Print events leave the evaluator one by one, while the program is still being evaluated, and what a
sink does with them may be anything. **Theorem** (`Program.runInto_eq_replay`): running a program
into a sink has the outcome of running it by itself, and leaves the world to which the sink brings
it when it is given the print events of that run, in order.

The proof runs two machines side by side. Machines *mirror* each other when they agree on everything
but sink and world, and their worlds are related by a relation that both sinks keep
(`Machine.Mirrors`); steps are *parallel* when they have the same answer in machines that mirror
each other and leave them so (`Eval.Parallel`). Only `Eval.raise` touches the world, and evaluation
goes through its forms without a look at it (`Eval.parallel_uniform`).
-/

namespace Workbench

variable {ω ω' : Type} {R : ω → ω' → Prop}

/-- Two machines that differ at most in sink and world. The worlds are related by `R`, and so they
stay when both sinks are given the same print event. -/
structure Machine.Mirrors (R : ω → ω' → Prop) (left : Machine ω) (right : Machine ω') : Prop where
  scope : left.scope = right.scope
  stamp : left.stamp = right.stamp
  world : R left.world right.world
  sink : ∀ values w w', R w w' → R (left.sink values w) (right.sink values w')

namespace Eval

/-- The pairing of steps that lead from machines that mirror each other to such machines, and fail
in the same way. -/
def mirroring (R : ω → ω' → Prop) : Pairing ω ω' :=
  .coupled (Machine.Mirrors R) SameFailure fun _ _ _ => rfl

/-- Two steps that have the same answer in machines that mirror each other, and leave them so. -/
def Parallel {α : Type} (R : ω → ω' → Prop) (left : Eval ω α) (right : Eval ω' α) : Prop :=
  (mirroring R).Pairs (Twice fun _ => True) left right

/-- The name is bound to the same value in both machines. -/
theorem parallel_lookup (name : String) :
    (mirroring R).Pairs (Twice (Value.Carries fun _ => True)) (lookup name) (lookup name) := by
  intro m m' hm
  have hsame : m.scope.lookup name = m'.scope.lookup name := by rw [hm.scope]
  exact .ok ⟨Value.carries_of_forall (fun _ => trivial) _, hsame⟩ hm

/-- A definition changes the scopes in the same way. -/
theorem parallel_define (name : String) (value : Value) :
    (mirroring R).Pairs (fun _ _ => True) (define name value) (define name value) := by
  intro m m' hm
  have hscope : m.scope.define name value = m'.scope.define name value := by rw [hm.scope]
  exact .ok trivial ⟨hscope, hm.stamp, hm.world, hm.sink⟩

/-- A new function has the same stamp in both machines. -/
theorem parallel_makeFunction (parameters : List String) (body : Form) :
    (mirroring R).Pairs (Twice (Value.Carries fun _ => True)) (makeFunction parameters body)
      (makeFunction parameters body) := by
  intro m m' hm
  have hfunction : Value.function m.stamp parameters body =
      .function m'.stamp parameters body := by rw [hm.stamp]
  have hstamp : m.stamp + 1 = m'.stamp + 1 := by rw [hm.stamp]
  exact .ok ⟨trivial, hfunction⟩ ⟨hm.scope, hstamp, hm.world, hm.sink⟩

/-- The one step that touches the world. -/
theorem parallel_raise (values : List Value) :
    (mirroring R).Pairs (fun _ _ => True) (raise values) (raise values) :=
  fun _ _ hm => .ok trivial ⟨hm.scope, hm.stamp, hm.sink values _ _ hm.world, hm.sink⟩

/-- The frames are the same, so that both machines are at the call limit or neither is. -/
theorem parallel_framed (bounds : Bounds) (frame : Frame) {left : Eval ω Value}
    {right : Eval ω' Value} {V : Value → Value → Prop} (h : (mirroring R).Pairs V left right) :
    (mirroring R).Pairs V (do checkCalls bounds; inFrame frame left)
      (do checkCalls bounds; inFrame frame right) := by
  refine Coupled.framed (fun hm => ?_) (fun _ => rfl) (fun hafter => ?_) fun hm _ => h ?_
  · rw [hm.scope]
  · exact ⟨congrArg Scope.leave hafter.scope, hafter.stamp, hafter.world, hafter.sink⟩
  · exact ⟨congrArg (Scope.enter · frame) hm.scope, hm.stamp, hm.world, hm.sink⟩

/-- No step of the machine looks at the world. -/
theorem parallel_uniform (bounds : Bounds) :
    (mirroring R).Uniform (fun _ => True) bounds bounds where
  call _ _ _ _ := trivial
  list _ _ _ _ := trivial
  lookup token _ := parallel_lookup token.value
  makeFunction _ _ body _ names := parallel_makeFunction names body
  define name value _ := parallel_define name value
  raise := parallel_raise
  framed _ _ _ _ _ h := parallel_framed bounds _ h
  full := fun _ _ hm => .error rfl hm

/-- The evaluator is parallel to itself, whatever its sinks. -/
theorem parallel_evalProgram (bounds : Bounds) (form : Form) :
    Parallel R (evalProgram bounds form : Eval ω Value) (evalProgram bounds form) := by
  have hclosed := (parallel_uniform (R := R) bounds).closed
  refine (mirroring R).pairs_mono (hclosed.evalProgram ?_ ⟨trivial, rfl⟩)
    fun _ _ h => ⟨trivial, h.2⟩
  rintro form _ ⟨-, rfl⟩
  exact Coupled.reported (hclosed.eval bounds.nesting ⟨trivial, rfl⟩)
    fun hsame => congrArg (Failure.endingAt form.lastPlace) hsame

end Eval

namespace Program

/-- Runs of one program into two sinks have one outcome, and worlds that are related stay so if both
sinks keep them related. -/
theorem runInto_parallel (limits : Limits) (source : String) {sink : List Value → ω → ω}
    {sink' : List Value → ω' → ω'} {world : ω} {world' : ω'}
    (hsink : ∀ values w w', R w w' → R (sink values w) (sink' values w'))
    (hworld : R world world') :
    (runInto limits source sink world).1 = (runInto limits source sink' world').1 ∧
      R (runInto limits source sink world).2 (runInto limits source sink' world').2 := by
  unfold runInto
  split
  · exact ⟨rfl, hworld⟩
  · rename_i tokens form _
    have hstart : Machine.Mirrors R
        { scope := { top := Frame.standard }, sink := sink, world := world }
        { scope := { top := Frame.standard }, sink := sink', world := world' } :=
      ⟨rfl, rfl, hworld, hsink⟩
    have hmet := Eval.parallel_evalProgram limits.bounds form hstart
    exact ⟨congrArg (Except.map fun result => (⟨result, tokens, form⟩ : Output)) hmet.outcome_eq,
      hmet.machines.world⟩

/-- The world is what the sink has made of the first one with the events that were kept. -/
def Replays (sink : List Value → ω → ω) (world : ω) (events : Array (List Value)) (after : ω) :
    Prop :=
  after = events.toList.foldl (fun world values => sink values world) world

/-- One more event is kept, and given to the sink. -/
theorem Replays.push {sink : List Value → ω → ω} {world after : ω} {events : Array (List Value)}
    (h : Replays sink world events after) (values : List Value) :
    Replays sink world (record values events) (sink values after) := by
  unfold Replays at h ⊢
  rw [record, Array.toList_push, List.foldl_append, ← h]
  rfl

/-- Running a program into a sink is running it by itself, and then giving its print events to the
sink, in order. -/
theorem runInto_eq_replay (limits : Limits) (source : String) (sink : List Value → ω → ω)
    (world : ω) :
    runInto limits source sink world = ((run limits source).outcome,
      (run limits source).events.foldl (fun world values => sink values world) world) := by
  have hsink : ∀ values events after, Replays sink world events after →
      Replays sink world (record values events) (sink values after) :=
    fun values _ _ h => h.push values
  have hstart : Replays sink world #[] world := rfl
  obtain ⟨houtcome, hworld⟩ := runInto_parallel limits source hsink hstart
  exact Prod.ext houtcome.symm hworld

end Program

end Workbench
