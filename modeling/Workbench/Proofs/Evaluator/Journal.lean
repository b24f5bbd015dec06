import Workbench.Proofs.Evaluator.Metered

/-!
# What evaluation leaves behind

Whatever its outcome, an evaluation leaves the counter of groups and the number of frames as they
were, no frame but the innermost has changed, and in the innermost one nothing has changed but for
the definitions that were completed there. Here this is made precise by a *journal*: the evaluator
is written once more so that it notes every definition as soon as it has been made, and strikes out
the notes that were made in the frame of a call when that frame is gone.

**Theorem** (`Eval.evaluation_restores`): from every state, the evaluation of a form leaves the
scope it started in with the definitions of the journal made in it, and nothing else; an application
leaves the scope exactly as it was; and a machine that has evaluated a program, also one that
failed, is the machine that only made the definitions of the journal.

* The journal is kept beside the world, so that the evaluator cannot look at it (`Eval.noted`).
* A step *journals* another one (`Eval.Journals`) when it has the same answer and the same effects,
  and the journal has grown by the definitions by which the scope has grown.
* The frame of a call takes its definitions with it (`Eval.leaves_framed`), which is why
  applications leave no trace in the journal (`Eval.Leaves`).
-/

namespace Workbench

/-! ### Scopes -/

namespace Scope

/-- The scope after some definitions in the innermost frame, of which the latest stands first. -/
def defineAll (scope : Scope) (made : Frame) : Scope :=
  made.foldr (fun binding scope => scope.define binding.1 binding.2) scope

/-- What is defined stands before what there was. -/
theorem defineAll_eq (scope : Scope) (made : Frame) :
    scope.defineAll made = ⟨made ++ scope.top, scope.outer⟩ := by
  induction made with
  | nil => rfl
  | cons binding rest ih =>
      change (scope.defineAll rest).define binding.1 binding.2 = _
      rw [ih]
      rfl

/-- Definitions are made one after the other, the latest of them first. -/
theorem defineAll_append (scope : Scope) (later made : Frame) :
    scope.defineAll (later ++ made) = (scope.defineAll made).defineAll later :=
  List.foldr_append ..

/-- The second scope is the first one after the definitions that are given: the frames around the
innermost one are as they were, and in the innermost one no name was lost and no other name has a
new value. -/
structure Extended (before : Scope) (made : Frame) (after : Scope) : Prop where
  defined : after = before.defineAll made
  frames : after.frames.length = before.frames.length
  outer : after.outer = before.outer
  kept : ∀ name, (List.lookup name before.top).isSome → (List.lookup name after.top).isSome
  others : ∀ name, name ∉ made.map Prod.fst →
    List.lookup name after.top = List.lookup name before.top

/-- A scope is extended by what is defined in it. -/
theorem extended_defineAll (scope : Scope) (made : Frame) :
    scope.Extended made (scope.defineAll made) := by
  have htop : (scope.defineAll made).top = made ++ scope.top := by rw [defineAll_eq]
  have houter : (scope.defineAll made).outer = scope.outer := by rw [defineAll_eq]
  refine ⟨rfl, ?_, houter, fun name hbound => ?_, fun name hother => ?_⟩
  · rw [frames, frames, houter, List.length_cons, List.length_cons]
  · rw [htop, List.lookup_append, Option.isSome_or, hbound, Bool.or_true]
  · have hnone : List.lookup name made = none := by
      refine List.lookup_eq_none_iff.mpr fun binding hmem => ?_
      have hne : name ≠ binding.1 := fun heq => hother (heq ▸ List.mem_map_of_mem hmem)
      simpa using hne
    rw [htop, List.lookup_append, hnone, Option.none_or]

/-- What is defined inside a call is gone after it. -/
theorem leave_defineAll_enter (scope : Scope) (frame made : Frame) :
    ((scope.enter frame).defineAll made).leave = scope := by
  rw [defineAll_eq]
  rfl

end Scope

variable {ω : Type}

/-- The second machine is the first one after the definitions that are given and some print events,
and more functions may have been made. -/
structure Machine.Grown (before : Machine ω) (made : Frame) (after : Machine ω) : Prop where
  scope : after.scope = before.scope.defineAll made
  stamp : before.stamp ≤ after.stamp
  sink : after.sink = before.sink

/-- What grows by some definitions, and then by others, grows by both. -/
theorem Machine.Grown.trans {before between after : Machine ω} {made later : Frame}
    (h : before.Grown made between) (h' : between.Grown later after) :
    before.Grown (later ++ made) after where
  scope := by rw [h'.scope, h.scope, Scope.defineAll_append]
  stamp := Nat.le_trans h.stamp h'.stamp
  sink := h'.sink.trans h.sink

/-- The machine with a journal beside its world. -/
def Machine.keeping (machine : Machine ω) (journal : Frame) : Machine (Frame × ω) where
  scope := machine.scope
  stamp := machine.stamp
  sink := fun values world => (world.1, machine.sink values world.2)
  world := (journal, machine.world)

/-! ### The evaluator with a journal -/

namespace Eval

variable {α β : Type}

/-- Notes a definition. -/
def note (name : String) (value : Value) : Eval (Frame × ω) Unit :=
  modify fun machine =>
    { machine with world := ((name, value) :: machine.world.1, machine.world.2) }

/-- The step with its notes struck out afterwards, whatever the outcome. -/
def unnoted (step : Eval (Frame × ω) α) : Eval (Frame × ω) α := fun machine =>
  let (outcome, after) := step machine
  (outcome, { after with world := (machine.world.1, after.world.2) })

/-- A definition, which is noted as soon as it has been made. -/
def notedDefinition (inside : Form → Eval (Frame × ω) Value) :
    List Form → Eval (Frame × ω) Value
  | [_, .word token, form] => do
      let value ← inside form
      define token.value value
      note token.value value
      return .null
  | items => evalDefinition inside items

/-- A call of the value of the first form. What the body of a function defines is not noted. -/
def notedApplication (bounds : Bounds) (inside : Form → Eval (Frame × ω) Value) (head : Form)
    (rest : List Form) : Eval (Frame × ω) Value := do
  let callee ← inside head
  let arguments ← evalAll inside rest
  apply bounds (fun body => unnoted (inside body)) callee arguments

/-- A group in parentheses. -/
def notedCall (bounds : Bounds) (inside : Form → Eval (Frame × ω) Value) :
    List Form → Eval (Frame × ω) Value
  | [] => pure .null
  | [.function token parameters body] => inside (.function token parameters body)
  | .word token :: rest =>
      if token.value = "define" ∨ token.value = "def" then
        notedDefinition inside (.word token :: rest)
      else if token.value = "if" then evalConditional inside (.word token :: rest)
      else if token.value = "do" then evalLast inside .null rest
      else notedApplication bounds inside (.word token) rest
  | head :: rest => notedApplication bounds inside head rest

/-- The value of a form, within the allowance, with a journal of the definitions that are made in
the innermost frame. -/
def noted (bounds : Bounds) : (allowance : Nat) → Form → Eval (Frame × ω) Value
  | allowance + 1, .list items => do return .list (← evalAll (noted bounds allowance) items)
  | allowance + 1, .call items => notedCall bounds (noted bounds allowance) items
  | allowance, form => eval bounds allowance form

/-- The value of a top-level form, as `evalTop` reports it. -/
def notedTop (bounds : Bounds) (form : Form) : Eval (Frame × ω) Value := fun machine =>
  let (outcome, after) := noted bounds bounds.nesting form machine
  (outcome.mapError (Failure.endingAt form.lastPlace), after)

/-- The value of a program. -/
def notedProgram (bounds : Bounds) : Form → Eval (Frame × ω) Value
  | .call forms => evalLast (notedTop bounds) .null forms
  | form => evalLast (notedTop bounds) .null [form]

/-- Definitions are noted as soon as they have been made. -/
theorem notedDefinition_eq (inside : Form → Eval (Frame × ω) Value) (items : List Form) :
    notedDefinition inside items =
      definitionWith (fun name value => do define name value; note name value) inside items := by
  match items with
  | [_, .word token, form] => simp only [notedDefinition, definitionWith, bind_assoc]
  | [_, .call _, _] | [_, .list _, _] | [_, .string _, _] | [_, .number _, _] | [_, .boolean _, _]
  | [_, .function .., _] => rfl
  | [] | [_] | [_, _] | _ :: _ :: _ :: _ :: _ =>
      simp only [notedDefinition, evalDefinition, definitionWith]

/-- The evaluator with a journal notes definitions and strikes out what is noted in calls. -/
theorem notedCall_eq (bounds : Bounds) (inside : Form → Eval (Frame × ω) Value)
    (items : List Form) :
    notedCall bounds inside items =
      callWith (fun name value => do define name value; note name value)
        (apply bounds fun body => unnoted (inside body)) inside items := by
  unfold notedCall callWith
  simp only [notedDefinition_eq]
  rfl

/-- A program is the sequence of its top-level forms. -/
theorem notedProgram_eq (bounds : Bounds) (root : Form) :
    (notedProgram bounds root : Eval (Frame × ω) Value) =
      evalLast (notedTop bounds) .null root.topLevel := by
  cases root <;> rfl

end Eval

/-- Since `start` the first machine has grown by some definitions, and the second one is the same
machine with these definitions noted in front of a journal. -/
structure Machine.Notes (start : Machine ω) (journal made : Frame) (machine : Machine ω)
    (machine' : Machine (Frame × ω)) : Prop where
  grown : start.Grown made machine
  keeping : machine' = machine.keeping (made ++ journal)

namespace Eval

/-! ### Steps in general -/

/-- The pairing of steps by which the journal grows as the scope does. -/
def noting (start : Machine ω) (journal : Frame) : Pairing ω (Frame × ω) :=
  .coupled (fun machine machine' => ∃ made, start.Notes journal made machine machine')
    SameFailure fun _ _ _ => rfl

/-- The pairing of steps that change neither the scope nor the journal. -/
def leaving (start : Machine ω) (journal : Frame) : Pairing ω (Frame × ω) :=
  .coupled (start.Notes journal []) SameFailure fun _ _ _ => rfl

/-- With a journal beside the world, the second step does what the first does by itself, and the
journal grows by the definitions by which the scope does. -/
def Journals (V : α → α → Prop) (left : Eval ω α) (right : Eval (Frame × ω) α) : Prop :=
  ∀ start journal, (noting start journal).Pairs V left right

/-- With a journal beside the world, the second step does what the first does by itself, and neither
the scope nor the journal has changed. -/
def Leaves (V : α → α → Prop) (left : Eval ω α) (right : Eval (Frame × ω) α) : Prop :=
  ∀ start journal, (leaving start journal).Pairs V left right

/-- A machine has grown by nothing since itself. -/
theorem notes_self (machine : Machine ω) (journal : Frame) :
    machine.Notes journal [] machine (machine.keeping journal) :=
  ⟨⟨rfl, Nat.le_refl _, rfl⟩, rfl⟩

/-- A step that changes neither the scope nor the journal is one by which both grow alike. -/
theorem Leaves.journals {V : α → α → Prop} {left : Eval ω α} {right : Eval (Frame × ω) α}
    (h : Leaves V left right) : Journals V left right := by
  rintro start journal machine _ ⟨made, hgrown, rfl⟩
  have hmet := h machine (made ++ journal) (notes_self machine _)
  have hsince : ∀ {after after'}, machine.Notes (made ++ journal) [] after after' →
      ∃ made, start.Notes journal made after after' :=
    fun hafter => ⟨made, hgrown.trans hafter.grown, hafter.keeping⟩
  generalize left machine = result at hmet ⊢
  generalize right (machine.keeping (made ++ journal)) = result' at hmet ⊢
  cases hmet with
  | ok hanswer hafter => exact .ok hanswer (hsince hafter)
  | error hfailure hafter => exact .error hfailure (hsince hafter)

/-- What the journal of a step says of it. -/
theorem Journals.grown {P : α → Prop} {left : Eval ω α} {right : Eval (Frame × ω) α}
    (h : Journals (Twice P) left right) (machine : Machine ω) (journal : Frame) :
    ∃ made : Frame, machine.Grown made (left machine).2 ∧
      right (machine.keeping journal) =
        ((left machine).1, (left machine).2.keeping (made ++ journal)) := by
  have hmet := h machine journal ⟨[], notes_self machine journal⟩
  obtain ⟨made, hgrown, hkeeping⟩ := hmet.machines
  exact ⟨made, hgrown, Prod.ext hmet.outcome_eq.symm hkeeping⟩

/-! ### Steps of the machine -/

/-- A step that defines nothing and that the journal makes no difference to. -/
theorem leaves_of_unnoted {V : α → α → Prop} (hanswer : ∀ a, V a a) {left : Eval ω α}
    {right : Eval (Frame × ω) α} (hgrown : ∀ machine : Machine ω, machine.Grown [] (left machine).2)
    (hright : ∀ machine journal,
      right (machine.keeping journal) = ((left machine).1, (left machine).2.keeping journal)) :
    Leaves V left right := by
  rintro start journal machine _ ⟨hstart, rfl⟩
  have hafter : start.Notes journal [] (left machine).2 ((left machine).2.keeping journal) :=
    ⟨hstart.trans (hgrown machine), rfl⟩
  rw [List.nil_append, hright]
  generalize left machine = result at hafter ⊢
  obtain ⟨failure | a, after⟩ := result
  · exact .error rfl hafter
  · exact .ok (hanswer a) hafter

/-- A builtin function prints at most. -/
theorem leaves_callBuiltin (builtin : Builtin) (arguments : List Value) :
    Leaves (Twice fun _ => True) (callBuiltin builtin arguments : Eval ω Value)
      (callBuiltin builtin arguments) := by
  refine fun start journal => (leaving start journal).pairs_callBuiltin (fun values _ => ?_)
    fun _ _ => ⟨trivial, rfl⟩
  exact leaves_of_unnoted (fun _ => trivial) (fun _ => ⟨rfl, Nat.le_refl _, rfl⟩)
    (fun _ _ => rfl) _ _

/-- What is not a group makes no definition. -/
theorem leaves_eval_atom (bounds : Bounds) (allowance : Nat) {form : Form}
    (hgroup : form.kind ≠ .call ∧ form.kind ≠ .list) :
    Leaves (Twice fun _ => True) (eval bounds allowance form : Eval ω Value)
      (eval bounds allowance form) := by
  refine fun start journal => (leaving start journal).pairs_eval_atom hgroup
    (fun _ => ⟨trivial, rfl⟩) (fun _ _ => ?_) (fun _ _ _ _ _ => ?_) allowance allowance
  · exact leaves_of_unnoted (fun _ => ⟨trivial, rfl⟩) (fun _ => ⟨rfl, Nat.le_refl _, rfl⟩)
      (fun _ _ => rfl) _ _
  · exact leaves_of_unnoted (fun _ => ⟨trivial, rfl⟩) (fun _ => ⟨rfl, Nat.le_succ _, rfl⟩)
      (fun _ _ => rfl) _ _

/-- The frame of a call takes its definitions with it. -/
theorem leaves_framed {V : Value → Value → Prop} {left : Eval ω Value}
    {right : Eval (Frame × ω) Value} (h : Journals V left right) (bounds : Bounds)
    (frame : Frame) :
    Leaves V (do checkCalls bounds; inFrame frame left)
      (do checkCalls bounds; inFrame frame (unnoted right)) := by
  intro start journal
  have hleave : ∀ {after : Machine ω} {after'},
      (∃ made, (start.enter frame).Grown made after) ∧ after' = after.keeping journal →
      start.Notes journal [] after.leave after'.leave := by
    rintro after _ ⟨⟨made, hgrown⟩, rfl⟩
    refine ⟨⟨?_, hgrown.stamp, hgrown.sink⟩, rfl⟩
    change after.scope.leave = start.scope
    rw [hgrown.scope]
    exact Scope.leave_defineAll_enter start.scope frame made
  refine Coupled.framed ?_ (fun _ => rfl) hleave ?_
  · rintro machine _ ⟨-, rfl⟩
    exact Iff.rfl
  · rintro machine _ ⟨hgrown, rfl⟩ -
    have hscope : (machine.enter frame).scope = (start.enter frame).scope :=
      congrArg (Scope.enter · frame) hgrown.scope
    have henter : (start.enter frame).Grown [] (machine.enter frame) :=
      ⟨hscope, hgrown.stamp, hgrown.sink⟩
    have hmet : Met _ _ _ (left (machine.enter frame))
        (right ((machine.enter frame).keeping journal)) :=
      h (start.enter frame) journal ⟨[], henter, rfl⟩
    -- the notes that the body has made are struck out
    change Met _ _ _ (left (machine.enter frame))
      ((right ((machine.enter frame).keeping journal)).1,
        { (right ((machine.enter frame).keeping journal)).2 with
          world := (journal, (right ((machine.enter frame).keeping journal)).2.world.2) })
    generalize left (machine.enter frame) = result at hmet ⊢
    generalize right ((machine.enter frame).keeping journal) = result' at hmet ⊢
    cases hmet with
    | ok hanswer hafter =>
        obtain ⟨made, hmade, rfl⟩ := hafter
        exact .ok hanswer ⟨⟨made, hmade⟩, rfl⟩
    | error hfailure hafter =>
        obtain ⟨made, hmade, rfl⟩ := hafter
        exact .error hfailure ⟨⟨made, hmade⟩, rfl⟩

/-- A definition is noted when it has been made. -/
theorem journals_define (name : String) (value : Value) :
    Journals (fun _ _ => True) (define name value : Eval ω Unit)
      (do define name value; note name value) := by
  rintro start journal machine _ ⟨made, hgrown, rfl⟩
  have hdefined : machine.Grown [(name, value)]
      { machine with scope := machine.scope.define name value } := ⟨rfl, Nat.le_refl _, rfl⟩
  exact .ok trivial ⟨(name, value) :: made, hgrown.trans hdefined, rfl⟩

/-! ### Evaluation as a whole -/

section Groups

variable {inside : Form → Eval ω Value} {inside' : Form → Eval (Frame × ω) Value}
variable (h : ∀ form, Journals (Twice fun _ => True) (inside form) (inside' form))
include h

/-- Applications leave no trace. -/
theorem leaves_apply (bounds : Bounds) (callee : Value) (arguments : List Value) :
    Leaves (Twice fun _ => True) (apply bounds inside callee arguments)
      (apply bounds (fun body => unnoted (inside' body)) callee arguments) := by
  have halike : callee.CalledAlike (Twice fun _ => True) callee :=
    Value.correspondence_same.callee ⟨trivial, rfl⟩
  refine fun start journal => (leaving start journal).pairs_apply halike rfl ⟨trivial, rfl⟩
    (fun builtin => leaves_callBuiltin builtin arguments start journal) ?_
  rintro parameters body _ ⟨-, rfl⟩
  exact leaves_framed (h body) bounds _ start journal

/-- A group in parentheses. -/
theorem journals_call (bounds : Bounds) (items : List Form) :
    Journals (Twice fun _ => True) (evalCall bounds inside items)
      (notedCall bounds inside' items) := by
  intro start journal
  rw [evalCall_eq, notedCall_eq]
  refine (noting start journal).pairs_callWith ?_ Value.correspondence_same
    (fun _ _ hvalue => hvalue) ?_ ?_
  · rintro callee _ arguments arguments' ⟨-, rfl⟩ harguments
    obtain ⟨-, rfl⟩ := forall₂_twice.mp harguments
    exact (leaves_apply h bounds callee arguments).journals start journal
  · rintro name value _ ⟨-, rfl⟩
    exact journals_define name value start journal
  · exact List.forall₂_same.mpr fun item _ => ⟨item.resembles_self, h item start journal⟩

end Groups

/-- **The journal of a form** is what the scope has grown by. The induction is on the allowance. -/
theorem journals_noted (bounds : Bounds) (allowance : Nat) (form : Form) :
    Journals (Twice fun _ => True) (eval bounds allowance form : Eval ω Value)
      (noted bounds allowance form) := by
  induction allowance generalizing form with
  | zero =>
      cases form with
      | list | call => exact fun _ _ _ _ hmachines => .error rfl hmachines
      | word | string | number | boolean | function =>
          exact Leaves.journals (leaves_eval_atom bounds 0 ⟨nofun, nofun⟩)
  | succ allowance ih =>
      cases form with
      | list items =>
          exact fun start journal => (noting start journal).pairs_list Value.same_list
            (List.forall₂_same.mpr fun item _ => ih item start journal)
      | call items => exact journals_call ih bounds items
      | word | string | number | boolean | function =>
          exact Leaves.journals (leaves_eval_atom bounds (allowance + 1) ⟨nofun, nofun⟩)

/-- **The journal of a program.** -/
theorem journals_notedProgram (bounds : Bounds) (root : Form) :
    Journals (Twice fun _ => True) (evalProgram bounds root : Eval ω Value)
      (notedProgram bounds root) := by
  intro start journal
  rw [evalProgram_eq, notedProgram_eq]
  refine (noting start journal).pairs_evalLast
    (List.forall₂_same.mpr fun form _ => ?_) ⟨trivial, rfl⟩
  exact Coupled.reported (journals_noted bounds bounds.nesting form start journal)
    fun hsame => congrArg (Failure.endingAt form.lastPlace) hsame

/-- A program has the sink that it had. -/
theorem sink_evalProgram (bounds : Bounds) (root : Form) (machine : Machine ω) :
    (evalProgram bounds root machine).2.sink = machine.sink := by
  obtain ⟨made, hgrown, -⟩ := (journals_notedProgram bounds root).grown machine []
  exact hgrown.sink

/-- **Evaluation restores its state.** The evaluation of a form, whatever its outcome, leaves the
counter of groups where it was and the scope as it was but for the definitions of the journal. An
application leaves the counter and all frames exactly as they were. A program leaves the machine
that has made the definitions of the journal and nothing else: what it has printed is in the world,
and the functions it has made keep their stamps. -/
theorem evaluation_restores (bounds : Bounds) (machine : Machine ω) :
    (∀ nesting : Nat,
      let left := bounds.nesting - nesting
      let cap : Reading :=
        ⟨max machine.scope.frames.length (bounds.calls + 1), max nesting bounds.nesting, left + 1⟩
      (∀ form,
        let after := eval bounds left form machine
        let journal := noted bounds left form (machine.keeping [])
        EndsWithin cap nesting machine (metered bounds (left + 1) form) (eval bounds left form) ∧
        journal.1 = after.1 ∧ machine.scope.Extended journal.2.world.1 after.2.scope) ∧
      ∀ callee arguments,
        EndsWithin cap nesting machine
          (apply bounds (metered bounds (left + 1)) callee arguments)
          (apply bounds (eval bounds left) callee arguments) ∧
        (apply bounds (eval bounds left) callee arguments machine).2.scope = machine.scope) ∧
    ∀ root,
      let cap : Reading :=
        ⟨max machine.scope.frames.length (bounds.calls + 1), bounds.nesting, bounds.nesting + 1⟩
      let after := evalProgram bounds root machine
      let journal := notedProgram bounds root (machine.keeping [])
      EndsWithin cap 0 machine (meteredProgram bounds (bounds.nesting + 1) root)
        (evalProgram bounds root) ∧
      journal.1 = after.1 ∧
      after.2 = { machine with
        scope := machine.scope.defineAll journal.2.world.1
        stamp := after.2.stamp
        world := after.2.world } := by
  constructor
  · intro nesting left cap
    have hmetered : ∀ frames, frames ≤ cap.frames → ∀ form, Tracks cap nesting 0 frames
        (eval bounds left form : Eval ω Value) (metered bounds (left + 1) form) :=
      fun frames hframes form => tracks_metered (Nat.le_max_right _ _) (Nat.le_max_right _ _)
        (Nat.lt_succ_self _) hframes (Nat.le_max_left _ _) (by simp [cap, left]) form
    refine ⟨fun form => ?_, fun callee arguments => ?_⟩
    · obtain ⟨made, hgrown, hright⟩ := (journals_noted bounds left form).grown machine []
      refine ⟨(hmetered _ (Nat.le_max_left _ _) form).endsWithin, ?_, ?_⟩
      · exact congrArg Prod.fst hright
      · have hjournal : (noted bounds left form (machine.keeping [])).2.world.1 = made := by
          rw [hright]
          exact List.append_nil made
        rw [hjournal, hgrown.scope]
        exact Scope.extended_defineAll machine.scope made
    · refine ⟨(tracks_apply (Nat.le_max_right _ _) hmetered callee arguments).endsWithin, ?_⟩
      exact (leaves_apply (journals_noted bounds left) bounds callee arguments machine []
        (notes_self machine [])).machines.grown.scope
  · intro root cap after journal
    obtain ⟨made, hgrown, hright⟩ := (journals_notedProgram bounds root).grown machine []
    refine ⟨Tracks.endsWithin ?_, congrArg Prod.fst hright, ?_⟩
    · exact tracks_meteredProgram (Nat.le_max_right _ _) (Nat.le_refl _) (Nat.lt_succ_self _)
        (Nat.le_max_left _ _) (by simp [cap]) root
    · have hjournal : journal.2.world.1 = made := by
        simp only [journal, hright]
        exact List.append_nil made
      rw [hjournal, ← hgrown.scope, ← hgrown.sink]

-- What is defined in an argument stays, also when the call fails; what a function defines does not.
example : ((notedProgram {}
    (.call [.call [.word ⟨"+", .word, .first, .first⟩, .call [.word ⟨"def", .word, .first, .first⟩,
      .word ⟨"x", .word, .first, .first⟩, .boolean ⟨"true", .word, .first, .first⟩]]])
    ((Machine.recording Frame.standard).keeping [])).2.world.1.map Prod.fst) = ["x"] := by decide

end Eval

end Workbench
