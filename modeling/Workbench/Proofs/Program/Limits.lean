import Workbench.Proofs.Evaluator.Coupling
import Workbench.Proofs.Program.Layout

/-!
# Raising the limits

The limits of a run are there to stop it, not to change it. **Theorem** (`Program.run_raised`): a
run under higher limits raises at least the print events of the run under lower ones, in the same
order, and where the run under the lower limits was not stopped by one of them the two runs are the
same, outcome included.

Both stages are compared step by step. The parser under the lower limit answers the same as under
the higher one or refuses the nesting (`Form.parse_raised`). The evaluator under the lower limit
does the same as under the higher one until a call is refused (`Eval.Outlasts`); from there on it
has failed, and all that the other one can still do to the world is to raise more print events
(`Machine.Precedes`). The bound on groups under evaluation is the same for all runs, so that a
failure for its sake is an outcome like any other.
-/

namespace Workbench

/-! ### The parser -/

section Reading

variable {limit limit' : Nat} (hlimit : limit ≤ limit')
include hlimit

/-- A bracket is opened as under the greater limit, or refused for the limit. -/
theorem Parser.push_raised (parser : Parser) (token : Token) (opened : Open) :
    parser.push limit token opened = parser.push limit' token opened ∨
      parser.push limit token opened = .error ⟨token.start, .nestingTooDeep limit⟩ := by
  unfold push
  by_cases hroom : parser.stack.length < limit
  · rw [if_pos hroom, if_pos (Nat.lt_of_lt_of_le hroom hlimit)]
    exact .inl rfl
  · rw [if_neg hroom]
    exact .inr rfl

/-- **What one more token does** under two limits. Only what opens something looks at the limit. -/
theorem Parser.step_raised (parser : Parser) (token : Token) :
    parser.step limit token = parser.step limit' token ∨
      parser.step limit token = .error ⟨token.start, .nestingTooDeep limit⟩ := by
  unfold step
  cases token.kind with
  | leftParen => exact push_raised hlimit parser token _
  | leftSquare => exact push_raised hlimit parser token _
  | word =>
      simp only
      split
      · exact push_raised hlimit parser token _
      · exact .inl rfl
  | comment | rightParen | rightSquare | string | number | singleQuote | unknown => exact .inl rfl

/-- Tokens are read as under the greater limit, or one of them is refused for the limit. -/
theorem Parser.steps_raised (parser : Parser) (tokens : List Token) :
    parser.steps limit tokens = parser.steps limit' tokens ∨
      ∃ place, parser.steps limit tokens = .error ⟨place, .nestingTooDeep limit⟩ := by
  induction tokens generalizing parser with
  | nil => exact .inl rfl
  | cons token rest ih =>
      rw [steps, steps]
      rcases step_raised hlimit parser token with hsame | hdeep
      · rw [hsame]
        cases parser.step limit' token with
        | ok next => exact ih next
        | error error => exact .inl rfl
      · rw [hdeep]
        exact .inr ⟨token.start, rfl⟩

/-- **A text is read as under the greater limit**, or one of its brackets is refused for the limit.
-/
theorem Form.parse_raised (tokens : List Token) :
    parse limit tokens = parse limit' tokens ∨
      ∃ place, parse limit tokens = .error ⟨place, .nestingTooDeep limit⟩ := by
  unfold parse
  rcases Parser.steps_raised hlimit {} tokens with hsame | ⟨place, hdeep⟩
  · rw [hsame]
    exact .inl rfl
  · rw [hdeep]
    exact .inr ⟨place, rfl⟩

end Reading

/-! ### The evaluator -/

variable {ω : Type}

/-- The second machine has the world that some print events have made of the first one's. -/
structure Machine.Precedes (before after : Machine ω) : Prop where
  sink : after.sink = before.sink
  world : ∃ events : List (List Value),
    after.world = events.foldl (fun world values => before.sink values world) before.world

/-- A machine precedes itself. -/
theorem Machine.Precedes.refl (machine : Machine ω) : machine.Precedes machine :=
  ⟨rfl, [], rfl⟩

/-- What precedes a machine precedes what comes after that. -/
theorem Machine.Precedes.trans {before between after : Machine ω} (h : before.Precedes between)
    (h' : between.Precedes after) : before.Precedes after := by
  obtain ⟨events, hevents⟩ := h.world
  obtain ⟨later, hlater⟩ := h'.world
  refine ⟨h'.sink.trans h.sink, events ++ later, ?_⟩
  rw [List.foldl_append, ← hevents, hlater, h.sink]

namespace Eval

variable {α α' β β' : Type}

/-- The second step does what the first one does, except that it may go on where the first one is
refused a call. It takes no print event back, and whatever it answers corresponds to something. -/
structure Outlasts (V : α → α' → Prop) (left : Eval ω α) (right : Eval ω α') : Prop where
  onward : ∀ machine : Machine ω, machine.Precedes (right machine).2
  answers : ∀ machine a', (right machine).1 = .ok a' → ∃ a, V a a'
  agrees : ∀ machine, Met Eq SameFailure V (left machine) (right machine) ∨
    (∃ limit, (left machine).1 = .error (.callDepth limit)) ∧
      (left machine).2.Precedes (right machine).2

/-! ### Steps in general -/

/-- A step that does not depend on the limits. -/
theorem outlasts_self {V : α → α → Prop} (hanswer : ∀ a, V a a) {step : Eval ω α}
    (h : ∀ machine : Machine ω, machine.Precedes (step machine).2) : Outlasts V step step := by
  refine ⟨h, fun _ a _ => ⟨a, hanswer a⟩, fun machine => .inl ?_⟩
  generalize step machine = result
  obtain ⟨failure | a, after⟩ := result
  · exact .error rfl rfl
  · exact .ok (hanswer a) rfl

/-- Where the first step has been refused a call, so has the whole. -/
theorem Outlasts.bind {V : α → α' → Prop} {W : β → β' → Prop} {left : Eval ω α}
    {right : Eval ω α'} {next : α → Eval ω β} {next' : α' → Eval ω β'} (h : Outlasts V left right)
    (hnext : ∀ a a', V a a' → Outlasts W (next a) (next' a')) :
    Outlasts W (left >>= next) (right >>= next') := by
  have honward : ∀ machine, (right machine).2.Precedes
      (ExceptT.bindCont next' (right machine).1 (right machine).2).2 := by
    intro machine
    cases hright : (right machine).1 with
    | ok a' =>
        obtain ⟨a, ha⟩ := h.answers machine a' hright
        exact (hnext a a' ha).onward _
    | error failure => exact .refl _
  refine ⟨fun machine => (h.onward machine).trans (honward machine), ?_, fun machine => ?_⟩
  · intro machine b' hb
    change (ExceptT.bindCont next' (right machine).1 (right machine).2).1 = .ok b' at hb
    cases hright : (right machine).1 with
    | ok a' =>
        obtain ⟨a, ha⟩ := h.answers machine a' hright
        rw [hright] at hb
        exact (hnext a a' ha).answers _ b' hb
    | error failure =>
        rw [hright] at hb
        cases hb
  · change Met Eq SameFailure W (ExceptT.bindCont next (left machine).1 (left machine).2)
        (ExceptT.bindCont next' (right machine).1 (right machine).2) ∨
      (∃ limit, (ExceptT.bindCont next (left machine).1 (left machine).2).1 =
          .error (.callDepth limit)) ∧
        (ExceptT.bindCont next (left machine).1 (left machine).2).2.Precedes
          (ExceptT.bindCont next' (right machine).1 (right machine).2).2
    rcases h.agrees machine with hmet | ⟨⟨limit, hrefused⟩, hbefore⟩
    · generalize left machine = result at hmet ⊢
      generalize right machine = result' at hmet ⊢
      cases hmet with
      | ok ha hafter =>
          cases hafter
          exact (hnext _ _ ha).agrees _
      | error hfailure hafter => exact .inl (.error hfailure hafter)
    · rw [hrefused]
      exact .inr ⟨⟨limit, rfl⟩, hbefore.trans (honward machine)⟩

/-- The pairing of steps under lower limits with steps under higher ones. -/
def outlasting : Pairing ω ω where
  Pairs V := Outlasts V
  pairs_pure {_ _ _ a a'} ha :=
    ⟨.refl, fun _ b' hb => by cases hb; exact ⟨a, ha⟩, fun _ => .inl (.ok ha rfl)⟩
  pairs_fault _ := ⟨.refl, nofun, fun _ => .inl (.error rfl rfl)⟩
  pairs_bind h hnext := h.bind hnext

/-! ### Steps of the machine -/

/-- A frame changes neither sink nor world. -/
theorem precedes_inFrame {step : Eval ω Value}
    (h : ∀ machine : Machine ω, machine.Precedes (step machine).2) (frame : Frame)
    (machine : Machine ω) : machine.Precedes (inFrame frame step machine).2 := by
  have hinner := h (machine.enter frame)
  exact ⟨hinner.sink, hinner.world⟩

/-- **A call under two limits.** The one step at which the limits can tell the runs apart. -/
theorem outlasts_framed {bounds bounds' : Bounds} (hcalls : bounds.calls ≤ bounds'.calls)
    {V : Value → Value → Prop} {left right : Eval ω Value} (h : Outlasts V left right)
    (frame : Frame) :
    Outlasts V (do checkCalls bounds; inFrame frame left)
      (do checkCalls bounds'; inFrame frame right) := by
  have honward : ∀ machine : Machine ω,
      machine.Precedes ((do checkCalls bounds'; inFrame frame right : Eval ω Value) machine).2 := by
    intro machine
    rw [checkCalls_bind]
    split
    · exact .refl machine
    · exact precedes_inFrame h.onward frame machine
  refine ⟨honward, fun machine a' ha => ?_, fun machine => ?_⟩
  · rw [checkCalls_bind] at ha
    split at ha
    · cases ha
    · exact h.answers (machine.enter frame) a' ha
  · by_cases hfull : bounds.calls < machine.scope.frames.length
    · have hrefused : (do checkCalls bounds; inFrame frame left : Eval ω Value) machine =
          (.error (.callDepth bounds.calls), machine) := by rw [checkCalls_bind, if_pos hfull]
      rw [hrefused]
      exact .inr ⟨⟨bounds.calls, rfl⟩, honward machine⟩
    · have hroom : ¬ bounds'.calls < machine.scope.frames.length := by omega
      rw [checkCalls_bind, checkCalls_bind, if_neg hfull, if_neg hroom]
      rcases h.agrees (machine.enter frame) with hmet | ⟨⟨limit, hrefused⟩, hbefore⟩
      · refine .inl ?_
        change Met _ _ _ ((left (machine.enter frame)).1, (left (machine.enter frame)).2.leave)
          ((right (machine.enter frame)).1, (right (machine.enter frame)).2.leave)
        generalize left (machine.enter frame) = result at hmet ⊢
        generalize right (machine.enter frame) = result' at hmet ⊢
        cases hmet with
        | ok ha hafter => exact .ok ha (congrArg Machine.leave hafter)
        | error hfailure hafter => exact .error hfailure (congrArg Machine.leave hafter)
      · exact .inr ⟨⟨limit, hrefused⟩, hbefore.sink, hbefore.world⟩

/-- Only calls look at the limits. -/
theorem outlasts_uniform {bounds bounds' : Bounds} (hcalls : bounds.calls ≤ bounds'.calls)
    (hnesting : bounds.nesting = bounds'.nesting) :
    (outlasting (ω := ω)).Uniform (fun _ => True) bounds bounds' where
  call _ _ _ _ := trivial
  list _ _ _ _ := trivial
  lookup _ _ :=
    outlasts_self (fun _ => ⟨Value.carries_of_forall (fun _ => trivial) _, rfl⟩)
      fun _ => ⟨rfl, [], rfl⟩
  makeFunction _ _ _ _ _ :=
    outlasts_self (fun _ => ⟨Value.carries_of_forall (fun _ => trivial) _, rfl⟩)
      fun _ => ⟨rfl, [], rfl⟩
  define _ _ _ := outlasts_self (fun _ => trivial) fun _ => ⟨rfl, [], rfl⟩
  raise values := outlasts_self (fun _ => trivial) fun _ => ⟨rfl, [values], rfl⟩
  framed _ _ _ _ _ h := outlasts_framed hcalls h _
  full := by
    rw [hnesting]
    exact ⟨.refl, nofun, fun _ => .inl (.error rfl rfl)⟩

/-! ### Evaluation -/

/-- Where a form ends is of no interest when a call was refused. -/
theorem Outlasts.reported {V : α → α' → Prop} {left : Eval ω α} {right : Eval ω α'}
    (h : Outlasts V left right) (place : Option Position) :
    Outlasts V (reported place left) (reported place right) := by
  refine ⟨h.onward, fun machine a' ha => h.answers machine a' ?_, fun machine => ?_⟩
  · change (right machine).1.mapError (Failure.endingAt place) = .ok a' at ha
    cases hright : (right machine).1 with
    | ok =>
        rw [hright] at ha
        exact ha
    | error =>
        rw [hright] at ha
        cases ha
  · rcases h.agrees machine with hmet | ⟨⟨limit, hrefused⟩, hbefore⟩
    · refine .inl ?_
      change Met _ _ _ ((left machine).1.mapError (Failure.endingAt place), (left machine).2)
        ((right machine).1.mapError (Failure.endingAt place), (right machine).2)
      generalize left machine = result at hmet ⊢
      generalize right machine = result' at hmet ⊢
      cases hmet with
      | ok ha hafter => exact .ok ha hafter
      | error hfailure hafter => exact .error (congrArg (Failure.endingAt place) hfailure) hafter
    · exact .inr ⟨⟨limit, congrArg (Except.mapError (Failure.endingAt place)) hrefused⟩, hbefore⟩

/-- **Evaluation under two limits.** -/
theorem outlasts_evalProgram {bounds bounds' : Bounds} (hcalls : bounds.calls ≤ bounds'.calls)
    (hnesting : bounds.nesting = bounds'.nesting) (root : Form) :
    Outlasts (Twice (Value.Carries fun _ => True)) (evalProgram bounds root : Eval ω Value)
      (evalProgram bounds' root) := by
  have hclosed := (outlasts_uniform (ω := ω) hcalls hnesting).closed
  refine hclosed.evalProgram ?_ ⟨trivial, rfl⟩
  rintro form _ ⟨-, rfl⟩
  rw [evalTop_eq, evalTop_eq, ← hnesting]
  exact Outlasts.reported (hclosed.eval bounds.nesting ⟨trivial, rfl⟩) form.lastPlace

end Eval

/-! ### Runs -/

namespace Program

/-- What has been recorded stays, and more is recorded after it. -/
theorem toList_prefix_of_precedes {before after : Machine (Array (List Value))}
    (h : before.Precedes after) (hsink : before.sink = record) :
    before.world.toList <+: after.world.toList := by
  obtain ⟨events, hevents⟩ := h.world
  have hrecord : ∀ (events : List (List Value)) (world : Array (List Value)),
      (events.foldl (fun world values => record values world) world).toList =
        world.toList ++ events := by
    intro events
    induction events with
    | nil => simp
    | cons values rest ih =>
        intro world
        rw [List.foldl_cons, ih, record, Array.toList_push, List.append_assoc]
        rfl
  rw [hevents, hsink, hrecord]
  exact List.prefix_append _ _

/-- **Raising the limits never changes a run that did not hit them.** The print events under lower
limits come first among those under higher ones. Unless a call or the nesting of the source text was
refused, the runs are the same: the same print events, and the same result, tokens and form or the
same failure. -/
theorem run_raised {limits limits' : Limits} (hcalls : limits.callDepth ≤ limits'.callDepth)
    (hnesting : limits.nestingDepth ≤ limits'.nestingDepth) (source : String) :
    (run limits source).events <+: (run limits' source).events ∧
    ((∀ limit, (run limits source).outcome ≠ .error (.callDepth limit)) →
      (∀ place limit,
        (run limits source).outcome ≠ .error (.parse ⟨place, .nestingTooDeep limit⟩)) →
      run limits source = run limits' source) := by
  rcases Form.parse_raised hnesting (Token.tokenize source) with hsame | ⟨place, hdeep⟩
  · cases hparse : Form.parse limits'.nestingDepth (Token.tokenize source) with
    | error error =>
        rw [run_eq_of_parse_error (hsame.trans hparse), run_eq_of_parse_error hparse]
        exact ⟨List.prefix_rfl, fun _ _ => rfl⟩
    | ok form =>
        rw [run_eq_of_parse (hsame.trans hparse), run_eq_of_parse hparse]
        let start := Machine.recording Frame.standard
        have hbounds : limits.bounds.nesting = limits'.bounds.nesting := rfl
        have hprogram := Eval.outlasts_evalProgram (ω := Array (List Value)) hcalls hbounds form
        rcases hprogram.agrees start with hmet | ⟨⟨limit, hrefused⟩, hbefore⟩
        · rw [Prod.ext hmet.outcome_eq hmet.machines]
          exact ⟨List.prefix_rfl, fun _ _ => rfl⟩
        · have hsink : start.sink = record := rfl
          rw [← (hprogram.onward start).sink, hbefore.sink] at hsink
          refine ⟨toList_prefix_of_precedes hbefore hsink, fun hnot => absurd ?_ (hnot limit)⟩
          exact congrArg (Except.map fun result => (⟨result, _, form⟩ : Output)) hrefused
  · rw [run_eq_of_parse_error hdeep]
    exact ⟨List.nil_prefix, fun _ hnot => absurd rfl (hnot place _)⟩

/-- A program that just keeps to its limits: four brackets and functions are nested and one function
is called. -/
theorem run_raised_just_kept :
    (run ⟨1, 4⟩ "((fn [x] (print x)) a)").outcome.isOk = true ∧
    (run ⟨1, 4⟩ "((fn [x] (print x)) a)").events.length = 1 ∧
    run ⟨1, 4⟩ "((fn [x] (print x)) a)" = run {} "((fn [x] (print x)) a)" := by
  have hok : (run ⟨1, 4⟩ "((fn [x] (print x)) a)").outcome.isOk = true := by decide +kernel
  refine ⟨hok, by decide +kernel, ?_⟩
  refine (run_raised (by decide) (by decide) _).2 (fun limit hrefused => ?_)
    fun place limit hdeep => ?_
  · rw [hrefused] at hok
    cases hok
  · rw [hdeep] at hok
    cases hok

end Program

end Workbench
