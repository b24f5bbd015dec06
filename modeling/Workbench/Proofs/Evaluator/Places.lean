import Workbench.Proofs.Evaluator.Coupling
import Workbench.Proofs.Value.Places
import Workbench.Program

/-!
# Places do not matter to evaluation

A program is evaluated among values that carry places, in the bodies of functions, and a fault may
name one; but no value, no print event and no choice of what to do next depends on a place.
**Theorem** (`Eval.placeless_evalProgram`): a form without places evaluates to the value, without
places, that the form evaluates to, and raises the same print events, without places; where the one
fails the other fails too, and the failures are the same up to places.

The proof runs the two side by side. A machine *forgets the places* of another one when it has the
same frames without places and their worlds are related (`Machine.Forgets`); two steps are
*placeless* when they lead from such machines to such machines and their outcomes are alike up to
places (`Eval.forgetting`). Forms and values correspond to what is left of them without places, and
all steps of the machine are placeless (`Eval.placeless_closed`).
-/

namespace Workbench

/-- The fault with its place forgotten. -/
def Fault.unplaced : Fault → Fault
  | .invalidNumber spelling _ => .invalidNumber spelling .first
  | fault => fault

namespace Failure

/-- The failure with its places forgotten. -/
def unplaced : Failure → Failure
  | .parse error => .parse error.unplaced
  | .fault cause ending => .fault cause.unplaced (ending.map fun _ => .first)
  | .callDepth limit => .callDepth limit
  | .nesting limit => .nesting limit

/-- The end of the top-level form is one more place. -/
theorem unplaced_endingAt (place : Option Position) (failure : Failure) :
    (failure.endingAt place).unplaced =
      failure.unplaced.endingAt (place.map fun _ => .first) := by
  match failure with
  | .fault _ none | .fault _ (some _) | .parse _ | .callDepth _ | .nesting _ => rfl

end Failure

namespace Eval

/-- Two outcomes that are alike up to places: answers that correspond, or failures that are the same
without places. -/
def Alike {α β : Type} (f : α → β) : Except Failure α → Except Failure β → Prop
  | .ok a, .ok b => b = f a
  | .error failure, .error failure' => failure'.unplaced = failure.unplaced
  | _, _ => False

/-- Two answers that are the same up to places: values that are the same, or failures that are. -/
def SameAnswer : Except Failure Value → Except Failure Value → Prop
  | .ok value, .ok value' => value.unplaced = value'.unplaced
  | .error failure, .error failure' => failure.unplaced = failure'.unplaced
  | _, _ => False

/-- Answers that are alike to one answer without places. -/
theorem sameAnswer_of_alike {left right answer : Except Failure Value}
    (h : Alike Value.unplaced left answer) (h' : Alike Value.unplaced right answer) :
    SameAnswer left right := by
  cases left <;> cases right <;> cases answer
  case ok.ok.ok => exact Eq.trans (Eq.symm h) h'
  case error.error.error => exact Eq.trans (Eq.symm h) h'
  all_goals first | exact absurd h id | exact absurd h' id

end Eval

/-! ### Forms, values and frames -/

/-- Forms look to the group that they stand in as they do without places. -/
theorem Form.correspondence_unplaced : Correspondence fun form form' => form.unplaced = form' where
  resembles := by
    rintro form _ rfl
    cases form with
    | word => exact .word rfl
    | call => exact .call
    | list => exact .list
    | string => exact .string
    | number => exact .number
    | boolean => exact .boolean
    | function => exact .function
  call h := by
    rw [Form.unplaced, unplacedAll_eq_map] at h
    exact forall₂_image.mpr (Form.call.inj h)
  list h := by
    rw [Form.unplaced, unplacedAll_eq_map] at h
    exact forall₂_image.mpr (Form.list.inj h)

/-- Values are treated as they are without places. -/
theorem Value.correspondence_unplaced :
    Correspondence (fun form form' => form.unplaced = form')
      (fun value value' => value.unplaced = value') where
  plain := by
    intro value h
    cases value with
    | list => exact absurd rfl h.notList
    | function => exact absurd rfl h.notFunction
    | null | bool | int | str | builtin => rfl
  truthy := by
    rintro value _ rfl
    exact value.isTruthy_unplaced.symm
  callee := by
    rintro value _ rfl
    cases value with
    | builtin => exact .builtin
    | function => exact .function rfl
    | null => exact .null
    | bool => exact .bool
    | int => exact .int
    | str => exact .str
    | list => exact .list

/-- The frame with the places in its values forgotten. -/
def Frame.unplaced (frame : Frame) : Frame :=
  frame.map fun binding => (binding.1, binding.2.unplaced)

/-- A frame without places binds the same names. -/
theorem Frame.lookup_unplaced (name : String) (frame : Frame) :
    List.lookup name frame.unplaced = (List.lookup name frame).map Value.unplaced := by
  induction frame with
  | nil => rfl
  | cons binding rest ih =>
      obtain ⟨known, value⟩ := binding
      change List.lookup name ((known, value.unplaced) :: Frame.unplaced rest) = _
      rw [List.lookup_cons, List.lookup_cons, ih]
      split <;> rfl

/-- Arguments without places make a frame without places. -/
theorem Frame.ofArguments_unplaced (parameters : List String) (arguments : List Value) :
    ofArguments parameters (arguments.map Value.unplaced) =
      (ofArguments parameters arguments).unplaced := by
  simp only [ofArguments, Frame.unplaced, List.map_reverse, List.zip_map_right]
  rfl

/-- The builtin functions have no places. -/
theorem Frame.standard_unplaced : standard.unplaced = standard := rfl

namespace Scope

/-- The scope with the places in its values forgotten. -/
def unplaced (scope : Scope) : Scope := ⟨scope.top.unplaced, scope.outer.map Frame.unplaced⟩

/-- A name stands for the same value, without places. -/
theorem lookup_unplaced (scope : Scope) (name : String) :
    scope.unplaced.lookup name = (scope.lookup name).unplaced := by
  have hframes : scope.unplaced.frames = scope.frames.map Frame.unplaced := rfl
  unfold lookup
  rw [hframes, List.findSome?_map]
  induction scope.frames with
  | nil => rfl
  | cons frame rest ih =>
      simp only [List.findSome?_cons, Function.comp_apply, Frame.lookup_unplaced]
      cases List.lookup name frame with
      | some value => rfl
      | none => exact ih

/-- Leaving a call does not depend on places. -/
theorem leave_unplaced (scope : Scope) : scope.unplaced.leave = scope.leave.unplaced := by
  obtain ⟨top, outer⟩ := scope
  cases outer <;> rfl

end Scope

variable {ω ω' : Type} {R : ω → ω' → Prop}

/-- The second machine is the first with the places in its values forgotten. The worlds are related
by `R`, and so they stay when the sinks are given a print event and the same event without places. -/
structure Machine.Forgets (R : ω → ω' → Prop) (left : Machine ω) (right : Machine ω') : Prop where
  scope : right.scope = left.scope.unplaced
  stamp : right.stamp = left.stamp
  world : R left.world right.world
  sink : ∀ values w w', R w w' → R (left.sink values w) (right.sink (values.map Value.unplaced) w')

/-- Machines that differ in places have the same number of frames. -/
theorem Machine.Forgets.length_frames {left : Machine ω} {right : Machine ω'}
    (h : left.Forgets R right) : right.scope.frames.length = left.scope.frames.length := by
  rw [h.scope]
  exact congrArg (· + 1) (List.length_map _)

namespace Eval

/-- The pairing of steps whose outcomes are alike up to places, and which lead from machines to
machines of which the second forgets the places of the first. -/
def forgetting (R : ω → ω' → Prop) : Pairing ω ω' :=
  .coupled (Machine.Forgets R)
    (fun failure failure' _ _ => failure'.unplaced = failure.unplaced) fun _ _ _ => rfl

/-- Values correspond to what is left of them without places. -/
abbrev Placeless (R : ω → ω' → Prop) (left : Eval ω Value) (right : Eval ω' Value) : Prop :=
  (forgetting R).Pairs (fun value value' => value.unplaced = value') left right

/-! ### Steps of the machine -/

/-- A name is bound to a value and to the same value without places. -/
theorem placeless_lookup (name : String) :
    Placeless R (lookup name) (lookup name) := by
  intro m m' hm
  have hvalue : (m.scope.lookup name).unplaced = m'.scope.lookup name := by
    rw [hm.scope, Scope.lookup_unplaced]
  exact .ok hvalue hm

/-- A value is bound with its places or without them. -/
theorem placeless_define (name : String) (value : Value) :
    (forgetting R).Pairs (fun _ _ => True) (define name value) (define name value.unplaced) := by
  intro m m' hm
  have hscope : m'.scope.define name value.unplaced = (m.scope.define name value).unplaced := by
    rw [hm.scope]
    rfl
  exact .ok trivial ⟨hscope, hm.stamp, hm.world, hm.sink⟩

/-- A new function has the same stamp. -/
theorem placeless_makeFunction (parameters : List String) (body : Form) :
    Placeless R (makeFunction parameters body) (makeFunction parameters body.unplaced) := by
  intro m m' hm
  have hfunction : (Value.function m.stamp parameters body).unplaced =
      .function m'.stamp parameters body.unplaced := by
    rw [hm.stamp]
    rfl
  have hstamp : m'.stamp + 1 = m.stamp + 1 := by rw [hm.stamp]
  exact .ok hfunction ⟨hm.scope, hstamp, hm.world, hm.sink⟩

/-- A print event is raised with the places in its values or without them. -/
theorem placeless_raise (values : List Value) :
    (forgetting R).Pairs (fun _ _ => True) (raise values) (raise (values.map Value.unplaced)) :=
  fun _ _ hm => .ok trivial ⟨hm.scope, hm.stamp, hm.sink values _ _ hm.world, hm.sink⟩

/-- Something that may be at fault, and without places answers the same or is at the same fault. -/
theorem placeless_ofExcept (result : Except Fault Value) :
    Placeless R (ofExcept result) (ofExcept (result.map Value.unplaced)) := by
  cases result with
  | ok value => exact (forgetting R).pairs_pure rfl
  | error cause => exact (forgetting R).pairs_fault cause

/-- A builtin function prints and answers the same without places. -/
theorem placeless_callBuiltin (builtin : Builtin) (arguments : List Value) :
    Placeless R (callBuiltin builtin arguments)
      (callBuiltin builtin (arguments.map Value.unplaced)) := by
  have hanswer : Placeless R (ofExcept (builtin.answer arguments))
      (ofExcept (builtin.answer (arguments.map Value.unplaced))) := by
    rw [Builtin.answer_unplaced]
    exact placeless_ofExcept _
  unfold callBuiltin
  rw [Builtin.event_unplaced]
  cases builtin.event arguments with
  | none => exact hanswer
  | some values => exact (forgetting R).pairs_bind (placeless_raise values) fun _ _ _ => hanswer

/-- There are as many frames without places. -/
theorem placeless_framed (bounds : Bounds) (frame : Frame) {left : Eval ω Value}
    {right : Eval ω' Value} (h : Placeless R left right) :
    Placeless R (do checkCalls bounds; inFrame frame left)
      (do checkCalls bounds; inFrame frame.unplaced right) := by
  refine Coupled.framed (fun hm => ?_) (fun _ => rfl) (fun hafter => ?_) fun hm _ => h ?_
  · rw [hm.length_frames]
  · refine ⟨?_, hafter.stamp, hafter.world, hafter.sink⟩
    exact (congrArg Scope.leave hafter.scope).trans (Scope.leave_unplaced _)
  · exact ⟨congrArg (Scope.enter · frame.unplaced) hm.scope, hm.stamp, hm.world, hm.sink⟩

/-! ### Forms -/

/-- A number that is not one is at fault in its place. -/
theorem placeless_numberOf (token : Token) :
    Placeless R (ofExcept (numberOf token)) (ofExcept (numberOf token.unplaced)) := by
  unfold numberOf
  rw [Token.value_unplaced]
  cases (Text.integer? token.value.toList).bind Value.narrow? with
  | some number => exact (forgetting R).pairs_pure rfl
  | none => exact fun _ _ hm => .error rfl hm

/-- The names of parameters have no places. -/
theorem parameterNames_unplaced (parameters : List Form) :
    parameterNames (parameters.map Form.unplaced) = parameterNames parameters := by
  induction parameters with
  | nil => rfl
  | cons form rest ih =>
      cases form with
      | word token => exact congrArg (Except.map (token.value :: ·)) ih
      | call | list | string | number | boolean | function => rfl

/-- What is not a group. -/
theorem placeless_eval_atom (bounds : Bounds) (allowance : Nat) {form : Form}
    (hgroup : form.kind ≠ .call ∧ form.kind ≠ .list) :
    Placeless R (eval bounds allowance form) (eval bounds allowance form.unplaced) := by
  cases form with
  | word token =>
      simp only [Form.unplaced, eval]
      exact placeless_lookup token.value
  | boolean token =>
      simp only [Form.unplaced, eval]
      exact (forgetting R).pairs_pure rfl
  | string token =>
      simp only [Form.unplaced, eval]
      exact (forgetting R).pairs_pure rfl
  | number token =>
      simp only [Form.unplaced, eval]
      exact placeless_numberOf token
  | function token parameters body =>
      have hnames : (forgetting R).Pairs Eq (ofExcept (parameterNames parameters))
          (ofExcept (parameterNames parameters)) := (forgetting R).pairs_ofExcept fun _ _ => rfl
      simp only [Form.unplaced, Form.unplacedAll_eq_map, eval, parameterNames_unplaced]
      refine (forgetting R).pairs_bind hnames ?_
      rintro names _ rfl
      exact placeless_makeFunction names body
  | call => exact absurd rfl hgroup.1
  | list => exact absurd rfl hgroup.2

/-- All steps of evaluation are placeless. -/
theorem placeless_closed (bounds : Bounds) :
    (forgetting R).Closed (fun form form' => form.unplaced = form')
      (fun value value' => value.unplaced = value') bounds bounds where
  forms := Form.correspondence_unplaced
  values := Value.correspondence_unplaced
  full := fun _ _ hm => .error rfl hm
  list := by
    intro values _ hvalues
    rw [Value.unplaced, Value.unplacedAll_eq_map, forall₂_image.mp hvalues]
  define := by
    rintro name value _ rfl
    exact placeless_define name value
  builtin := by
    intro builtin arguments _ harguments
    rw [← forall₂_image.mp harguments]
    exact placeless_callBuiltin builtin arguments
  framed := by
    intro parameters arguments _ left right harguments h
    rw [← forall₂_image.mp harguments, Frame.ofArguments_unplaced]
    exact placeless_framed bounds _ h
  atom := by
    rintro form _ rfl hgroup allowance
    exact placeless_eval_atom bounds allowance hgroup

/-- **Places do not matter to evaluation.** -/
theorem placeless_evalProgram (bounds : Bounds) (form : Form) {m : Machine ω} {m' : Machine ω'}
    (hm : m.Forgets R m') :
    Alike Value.unplaced (evalProgram bounds form m).1 (evalProgram bounds form.unplaced m').1 ∧
      (evalProgram bounds form m).2.Forgets R (evalProgram bounds form.unplaced m').2 := by
  have hprogram : Placeless R (evalProgram bounds form) (evalProgram bounds form.unplaced) := by
    refine (placeless_closed bounds).evalProgram ?_ rfl
    rintro form _ rfl
    refine Coupled.reported ((placeless_closed bounds).eval bounds.nesting rfl) ?_
    -- Where the form ends is forgotten on both sides.
    intro failure failure' _ _ hfailure
    rw [Failure.unplaced_endingAt, Failure.unplaced_endingAt, hfailure, Form.lastPlace_unplaced,
      Option.map_map]
    rfl
  have hmet := hprogram hm
  generalize evalProgram bounds form m = result at hmet
  generalize evalProgram bounds form.unplaced m' = result' at hmet
  cases hmet with
  | ok hvalue hafter => exact ⟨hvalue.symm, hafter⟩
  | error hfailure hafter => exact ⟨hfailure, hafter⟩

end Eval

end Workbench
