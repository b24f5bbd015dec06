import Workbench.Proofs.Form.Seam
import Workbench.Proofs.Program.Limits
import Workbench.Proofs.Value.Depth

/-!
# How deep values get

The limits of a run say how deeply groups may be nested in its text, and how many calls and groups
may be under evaluation at once. They say nothing about the values: a definition can put what a name
stands for into a list and let the name stand for that list, and a text may hold any number of such
definitions, one after the other.

**Theorem** (`Program.depth_bounded_iff`): under given limits there is a bound on the depth of the
values that a run answers exactly if the text may not have a group within a group. The same goes for
the values that a run prints and for those that it binds to global names.

* One call of a builtin function puts at most one list around its arguments
  (`Builtin.depth_answer_le`).
* Where no group stands within a group, there are no functions, and only what is neither a list nor
  a function can be bound or printed (`Eval.stays_eval`).
* Otherwise `(def x [x])` can be read, and every line of it makes `x` deeper by one
  (`Program.evalLast_layersAt`).
-/

namespace Workbench

/-! ### Without a group in a group -/

/-- A plain value is not nested. -/
theorem Value.IsPlain.depth_le {value : Value} (h : value.IsPlain) : value.depth ≤ 1 :=
  h.depth_eq ▸ Nat.zero_le 1

/-- Nor are the items of a list of plain values. -/
theorem Value.depthAll_of_isPlain {values : List Value} (h : ∀ value ∈ values, value.IsPlain) :
    depthAll values = 0 :=
  Nat.le_zero.mp (depthAll_le_iff.mpr fun value hmem => Nat.le_of_eq (h value hmem).depth_eq)

/-- A machine that records its print events, of which all values are plain, and in which no name
stands for anything but a plain value. -/
structure Machine.IsPlain (machine : Machine (Array (List Value))) : Prop where
  sink : machine.sink = record
  bindings : ∀ frame ∈ machine.scope.frames, ∀ binding ∈ frame, binding.2.IsPlain
  events : ∀ values ∈ machine.world.toList, ∀ value ∈ values, value.IsPlain

/-- The standard globals are builtin functions. -/
theorem Machine.isPlain_recording : (Machine.recording Frame.standard).IsPlain where
  sink := rfl
  bindings := by
    intro frame hframe binding hmem
    obtain rfl := List.mem_singleton.mp hframe
    obtain ⟨builtin, -, rfl⟩ := List.mem_map.mp hmem
    exact ⟨nofun, nofun⟩
  events := nofun

/-- A name stands for null or for a value that a frame binds it to. -/
theorem Scope.lookup_eq_null_or_mem (scope : Scope) (name : String) :
    scope.lookup name = .null ∨ ∃ frame ∈ scope.frames, (name, scope.lookup name) ∈ frame := by
  unfold lookup
  cases hfound : scope.frames.findSome? fun frame => List.lookup name frame with
  | none => exact .inl rfl
  | some value =>
      obtain ⟨frame, hframe, hlookup⟩ := List.exists_of_findSome?_eq_some hfound
      obtain ⟨before, after, rfl, -⟩ := List.lookup_eq_some_iff.mp hlookup
      exact .inr ⟨_, hframe, List.mem_append_right _ (List.mem_cons_self ..)⟩

/-- Outside of calls, a name that stands for something is bound by the globals. -/
theorem Scope.mem_top_of_lookup {scope : Scope} {name : String} (houter : scope.outer = [])
    (hnull : scope.lookup name ≠ .null) : (name, scope.lookup name) ∈ scope.top := by
  rcases scope.lookup_eq_null_or_mem name with h | ⟨frame, hframe, hmem⟩
  · exact absurd h hnull
  · rw [frames, houter] at hframe
    rw [List.mem_singleton.mp hframe] at hmem
    exact hmem

/-- A name stands for a plain value in a machine of plain values. -/
theorem Machine.IsPlain.lookup {machine : Machine (Array (List Value))} (h : machine.IsPlain)
    (name : String) : (machine.scope.lookup name).IsPlain := by
  rcases machine.scope.lookup_eq_null_or_mem name with hnull | ⟨frame, hframe, hmem⟩
  · rw [hnull]
    exact ⟨nofun, nofun⟩
  · exact h.bindings frame hframe _ hmem

namespace Eval

variable {α : Type}

/-- From a plain machine the step comes to a plain machine, and its answer, if it has one, is as
wanted. -/
def Stays (wanted : α → Prop) (step : Eval (Array (List Value)) α) : Prop :=
  Keeps Machine.IsPlain (fun _ _ => True) wanted step

/-- The pairing of steps that keep a machine plain. -/
def staying : Pairing (Array (List Value)) (Array (List Value)) :=
  .keeping Machine.IsPlain (fun _ _ => True) fun _ _ => trivial

/-- Only plain values are defined. -/
theorem stays_define (name : String) {value : Value} (h : value.IsPlain) :
    Stays (fun _ => True) (define name value) := by
  refine fun machine hplain => kept_ok trivial ⟨hplain.sink, ?_, hplain.events⟩
  intro frame hframe binding hmem
  rcases List.mem_cons.mp hframe with rfl | houter
  · rcases List.mem_cons.mp hmem with rfl | hold
    · exact h
    · exact hplain.bindings _ (List.mem_cons_self ..) binding hold
  · exact hplain.bindings frame (List.mem_cons_of_mem _ houter) binding hmem

/-- Only plain values are printed. -/
theorem stays_raise {values : List Value} (h : ∀ value ∈ values, value.IsPlain) :
    Stays (fun _ => True) (raise values) := by
  refine fun machine hplain => kept_ok trivial ⟨hplain.sink, hplain.bindings, ?_⟩
  change ∀ printed ∈ (machine.sink values machine.world).toList, ∀ value ∈ printed, value.IsPlain
  rw [hplain.sink, record, Array.toList_push]
  intro printed hmem
  rcases List.mem_append.mp hmem with hold | hnew
  · exact hplain.events printed hold
  · rw [List.mem_singleton.mp hnew]
    exact h

/-- The values of a print event are arguments or texts. -/
theorem isPlain_of_event {builtin : Builtin} {arguments values : List Value}
    (h : ∀ value ∈ arguments, value.IsPlain) (hevent : builtin.event arguments = some values) :
    ∀ value ∈ values, value.IsPlain := by
  cases builtin with
  | print =>
      cases hevent
      exact h
  | debug =>
      cases hevent
      intro value hmem
      obtain ⟨argument, -, rfl⟩ := List.mem_map.mp hmem
      exact ⟨nofun, nofun⟩
  | _ => cases hevent

/-- A builtin function puts at most one list around plain arguments. -/
theorem stays_callBuiltin (builtin : Builtin) {arguments : List Value}
    (h : ∀ value ∈ arguments, value.IsPlain) :
    Stays (fun value => value.depth ≤ 1) (callBuiltin builtin arguments) := by
  refine pairs_keeping_iff.mp (staying.pairs_callBuiltin (fun values hevent => ?_)
    fun value hvalue => ⟨?_, rfl⟩)
  · exact (stays_raise (isPlain_of_event h hevent)).mono fun _ _ => ⟨(), trivial⟩
  · have hdepth := builtin.depth_answer_le hvalue
    rwa [Value.depthAll_of_isPlain h] at hdepth

/-- Plain values are not functions of the program, so that no body is ever evaluated. -/
theorem correspondence_isPlain :
    Value.Correspondence (Twice fun _ => False) (Twice Value.IsPlain) :=
  Value.correspondence_twice (fun _ hplain => hplain)
    fun _ _ _ hplain => absurd rfl hplain.notFunction

/-- There is no function to apply. -/
theorem stays_apply (bounds : Bounds) (inside : Form → Eval (Array (List Value)) Value)
    {callee : Value} {arguments : List Value} (hcallee : callee.IsPlain)
    (harguments : ∀ value ∈ arguments, value.IsPlain) :
    Stays (fun value => value.depth ≤ 1) (apply bounds inside callee arguments) := by
  refine pairs_keeping_iff.mp (staying.pairs_apply
    (correspondence_isPlain.callee ⟨hcallee, rfl⟩) rfl ⟨Nat.zero_le 1, rfl⟩ ?_ ?_)
  · exact fun builtin => pairs_keeping_iff.mpr (stays_callBuiltin builtin harguments)
  · rintro parameters body body' ⟨⟨⟩, -⟩

/-! The steps below are given the evaluation of the forms inside them, none of which is a group. -/

section Forms

variable {inside : Form → Eval (Array (List Value)) Value} {items : List Form}
  (h : ∀ form ∈ items, Stays Value.IsPlain (inside form))
include h

/-- A list of plain values has one list around them. -/
theorem stays_list :
    Stays (fun value => value.depth ≤ 1) (do return Value.list (← evalAll inside items)) := by
  refine pairs_keeping_iff.mp (staying.pairs_list ?_
    ((keeps_items h).imp fun _ _ hitem => hitem.2))
  intro values _ hvalues
  obtain ⟨hplain, rfl⟩ := forall₂_twice.mp hvalues
  refine ⟨?_, rfl⟩
  simp only [Value.depth, Value.depthAll_of_isPlain hplain, Nat.le_refl]

/-- Only an application in such a group may answer a list. -/
theorem stays_evalCall (bounds : Bounds) :
    Stays (fun value => value.depth ≤ 1) (evalCall bounds inside items) := by
  rw [evalCall_eq]
  refine pairs_keeping_iff.mp (staying.pairs_callWith ?_ correspondence_isPlain ?_ ?_
    (keeps_items h))
  · rintro callee _ arguments _ ⟨hcallee, rfl⟩ harguments
    obtain ⟨hplain, rfl⟩ := forall₂_twice.mp harguments
    exact pairs_keeping_iff.mpr (stays_apply bounds inside hcallee hplain)
  · exact fun _ _ hvalue => ⟨hvalue.1.depth_le, hvalue.2⟩
  · rintro name value _ ⟨hvalue, rfl⟩
    exact (stays_define name hvalue).mono fun _ _ => ⟨(), trivial⟩

end Forms

/-- What is not a group has a plain value. -/
theorem stays_eval_atom (bounds : Bounds) (allowance : Nat) {form : Form} (h : form.depth = 0) :
    Stays Value.IsPlain (eval bounds allowance form) := by
  have hgroup : form.kind ≠ .call ∧ form.kind ≠ .list := by
    cases form with
    | call | list | function =>
        simp only [Form.depth] at h
        omega
    | word | string | number | boolean => exact ⟨nofun, nofun⟩
  refine pairs_keeping_iff.mp (staying.pairs_eval_atom hgroup (fun hplain => ⟨hplain, rfl⟩) ?_ ?_
    allowance allowance)
  · refine fun token _ => pairs_keeping_iff.mpr fun machine hplain => ?_
    exact kept_ok (hplain.lookup token.value) hplain
  · rintro token parameters body rfl
    simp only [Form.depth] at h
    omega

/-- The items of a group that has no group in it. -/
theorem stays_eval_item (bounds : Bounds) (allowance : Nat) {items : List Form}
    (h : 1 + Form.depthAll items ≤ 1) :
    ∀ item ∈ items, Stays Value.IsPlain (eval bounds allowance item) := by
  intro item hmem
  have hnone : Form.depthAll items ≤ 0 := by omega
  exact stays_eval_atom bounds allowance
    (Nat.le_zero.mp (Form.depthAll_le_iff.mp hnone item hmem))

/-- **A form without a group in a group** has at most a list of plain values as its value. -/
theorem stays_eval (bounds : Bounds) (allowance : Nat) {form : Form} (h : form.depth ≤ 1) :
    Stays (fun value => value.depth ≤ 1) (eval bounds allowance form) := by
  cases form with
  | word | boolean | string | number =>
      exact (stays_eval_atom bounds allowance rfl).mono fun _ => Value.IsPlain.depth_le
  | function token parameters body =>
      simp only [Form.depth] at h
      omega
  | list items =>
      cases allowance with
      | zero => exact fun _ hplain => kept_error trivial hplain
      | succ allowance => exact stays_list (stays_eval_item bounds allowance h)
  | call items =>
      cases allowance with
      | zero => exact fun _ hplain => kept_error trivial hplain
      | succ allowance => exact stays_evalCall (stays_eval_item bounds allowance h) bounds

/-- The same goes for a top-level form. -/
theorem stays_evalTop (bounds : Bounds) {form : Form} (h : form.depth ≤ 1) :
    Stays (fun value => value.depth ≤ 1) (evalTop bounds form) :=
  Keeps.reported (stays_eval bounds bounds.nesting h) fun _ => trivial

end Eval

/-! ### Layer upon layer -/

namespace Program

open Eval

/-- A text with as many lines that put a list around what `x` stands for, before it prints `x` and
answers it. -/
def layers : Nat → String
  | 0 => "(print x)" ++ "\n" ++ "x"
  | count + 1 => "(def x [x])" ++ "\n" ++ layers count

/-- The form of a word in a line. -/
def wordAt (line first last : Nat) (spelling : String) : Form :=
  .word ⟨spelling, .word, ⟨line, first⟩, ⟨line, last⟩⟩

/-- The form of `(def x [x])` in a line. -/
def layerAt (line : Nat) : Form :=
  .call [wordAt line 2 4 "def", wordAt line 6 6 "x", .list [wordAt line 9 9 "x"]]

/-- The form of `(print x)` in a line. -/
def printAt (line : Nat) : Form := .call [wordAt line 2 6 "print", wordAt line 8 8 "x"]

/-- The forms of `layers` from a line on. -/
def layersAt : (line count : Nat) → List Form
  | line, 0 => [printAt line, wordAt (line + 1) 1 1 "x"]
  | line, count + 1 => layerAt line :: layersAt (line + 1) count

/-- Layers one line further down start one line further down. -/
theorem lowerAll_layersAt (line count : Nat) :
    Form.lowerAll 1 (layersAt line count) = layersAt (line + 1) count := by
  induction count generalizing line with
  | zero => rfl
  | succ count ih => exact congrArg (layerAt (line + 1) :: ·) (ih (line + 1))

/-- One layer is read as the form of its line. -/
theorem parse_layer : Form.parse 2 (Token.tokenize "(def x [x])") = .ok (.call [layerAt 1]) := rfl

/-- Layers are read one after the other, line by line. -/
theorem parse_layers (count : Nat) :
    Form.parse 2 (Token.tokenize (layers count)) = .ok (.call (layersAt 1 count)) := by
  induction count with
  | zero => rfl
  | succ count ih =>
      have hlines := Form.parse_lines parse_layer ih
      rw [show 1 + "(def x [x])".toList.count '\n' = 1 from rfl, lowerAll_layersAt] at hlines
      exact hlines

/-- They are accepted under every limit that allows two brackets. -/
theorem parse_layers_of_le {limit : Nat} (h : 2 ≤ limit) (count : Nat) :
    Form.parse limit (Token.tokenize (layers count)) = .ok (.call (layersAt 1 count)) := by
  rcases Form.parse_raised h (Token.tokenize (layers count)) with hsame | ⟨place, hdeep⟩
  · rw [← hsame, parse_layers]
  · rw [parse_layers] at hdeep
    cases hdeep

section Evaluation

variable {ω : Type} (limits : Limits) (line : Nat) (machine : Machine ω)

/-- One top-level form, and then the rest. -/
theorem evalLast_cons_of_ok {inside : Form → Eval ω Value} {form : Form} {rest : List Form}
    {last value : Value} {machine after : Machine ω}
    (h : inside form machine = (.ok value, after)) :
    evalLast inside last (form :: rest) machine = evalLast inside value rest after := by
  change ExceptT.bindCont (fun value => evalLast inside value rest) (inside form machine).1
    (inside form machine).2 = _
  rw [h]
  rfl

/-- A line of `layers` puts a list around what `x` stands for. -/
theorem evalTop_layerAt :
    evalTop limits.bounds (layerAt line) machine = (.ok .null,
      { machine with scope := machine.scope.define "x" (.list [machine.scope.lookup "x"]) }) :=
  rfl

/-- The line before the last prints what `x` stands for. -/
theorem evalTop_printAt (hprint : machine.scope.lookup "print" = .builtin .print) :
    evalTop limits.bounds (printAt line) machine = (.ok .null,
      { machine with world := machine.sink [machine.scope.lookup "x"] machine.world }) := by
  have hcall : (apply limits.bounds (eval limits.bounds (limits.bounds.nesting - 1))
      (machine.scope.lookup "print") [machine.scope.lookup "x"] : Eval ω Value) =
        callBuiltin .print [machine.scope.lookup "x"] := by
    rw [hprint]
    rfl
  change reported (printAt line).lastPlace
    (apply limits.bounds (eval limits.bounds (limits.bounds.nesting - 1))
      (machine.scope.lookup "print") [machine.scope.lookup "x"]) machine = _
  rw [hcall]
  rfl

/-- **Layer upon layer.** Every line of the text puts one more list around what `x` stands for, and
at the end that is what is printed, answered and bound. -/
theorem evalLast_layersAt (count : Nat) (last : Value)
    (hprint : machine.scope.lookup "print" = .builtin .print) :
    let deep := Value.wrapped count (machine.scope.lookup "x")
    let ended := evalLast (evalTop limits.bounds) last (layersAt line count) machine
    ended.1 = .ok deep ∧ ended.2.world = machine.sink [deep] machine.world ∧
      ended.2.scope.lookup "x" = deep ∧ ended.2.scope.outer = machine.scope.outer := by
  induction count generalizing line last machine with
  | zero =>
      intro deep ended
      have hended : ended = (.ok deep,
          { machine with world := machine.sink [deep] machine.world }) := by
        simp only [ended, layersAt]
        rw [evalLast_cons_of_ok (evalTop_printAt limits line machine hprint)]
        rfl
      rw [hended]
      exact ⟨rfl, rfl, rfl, rfl⟩
  | succ count ih =>
      simp only [layersAt, evalLast_cons_of_ok (evalTop_layerAt limits line machine)]
      -- The rest of the text finds `x` one list deeper and `print` as it was.
      exact ih (line + 1) _ .null hprint

end Evaluation

/-! ### What a run shows of its values -/

/-- The value that a run answers, if it does. -/
def answered (limits : Limits) (source : String) : List Value :=
  ((run limits source).outcome.toOption.map Output.result).toList

/-- The values of all print events of a run. -/
def printed (limits : Limits) (source : String) : List Value := (run limits source).events.flatten

/-- The globals at the end of a run, however it ends. Bindings that were replaced are among them. -/
def globals (limits : Limits) (source : String) : Frame :=
  match read limits source with
  | .error _ => Frame.standard
  | .ok (_, form) => (evalProgram limits.bounds form (Machine.recording Frame.standard)).2.scope.top

/-- The values that a run binds to global names, from the first binding to the last. -/
def bound (limits : Limits) (source : String) : List Value := (globals limits source).map Prod.snd

/-- There is a bound on the depth of the values that are shown of any text. -/
def DepthBounded (shown : String → List Value) : Prop :=
  ∃ most, ∀ source, ∀ value ∈ shown source, value.depth ≤ most

section Shown

variable {limits : Limits} {source : String} {root : Form}

section Parsed

variable (h : Form.parse limits.nestingDepth (Token.tokenize source) = .ok root)
include h

/-- The answer of a text that is a program. -/
theorem answered_of_parse : answered limits source =
    (evalProgram limits.bounds root (Machine.recording Frame.standard)).1.toOption.toList := by
  rw [answered, run_eq_of_parse h]
  obtain ⟨result, after⟩ := evalProgram limits.bounds root (Machine.recording Frame.standard)
  cases result <;> rfl

/-- What a text that is a program prints. -/
theorem printed_of_parse : printed limits source =
    (evalProgram limits.bounds root (Machine.recording Frame.standard)).2.world.toList.flatten := by
  rw [printed, run_eq_of_parse h]
  rfl

/-- What a text that is a program binds. -/
theorem bound_of_parse : bound limits source =
    (evalProgram limits.bounds root (Machine.recording Frame.standard)).2.scope.top.map
      Prod.snd := by
  simp only [bound, globals, read, h]

end Parsed

/-- What a plain machine leaves on its way to a shallow answer is shown by shallow values. -/
theorem depth_le_of_stays
    (hstays : Stays (fun value => value.depth ≤ 1) (evalProgram limits.bounds root))
    (hparse : Form.parse limits.nestingDepth (Token.tokenize source) = .ok root) :
    (∀ value ∈ answered limits source, value.depth ≤ 1) ∧
    (∀ value ∈ printed limits source, value.depth ≤ 1) ∧
    ∀ value ∈ bound limits source, value.depth ≤ 1 := by
  rw [answered_of_parse hparse, printed_of_parse hparse, bound_of_parse hparse]
  obtain ⟨hplain, hanswer, -⟩ := hstays Machine.isPlain_recording
  refine ⟨fun value hmem => hanswer value ?_, fun value hmem => ?_, fun value hmem => ?_⟩
  · cases hended : (evalProgram limits.bounds root (Machine.recording Frame.standard)).1 with
    | error failure =>
        rw [hended] at hmem
        cases hmem
    | ok result =>
        rw [hended] at hmem
        exact congrArg Except.ok (List.mem_singleton.mp hmem).symm
  · obtain ⟨values, hvalues, hvalue⟩ := List.mem_flatten.mp hmem
    exact (hplain.events values hvalues value hvalue).depth_le
  · obtain ⟨binding, hbinding, rfl⟩ := List.mem_map.mp hmem
    exact (hplain.bindings _ (List.mem_cons_self ..) binding hbinding).depth_le

/-- A limit under two admits no group in a group, whatever the text. -/
theorem depth_le_of_lt (h : limits.nestingDepth < 2) (source : String) :
    (∀ value ∈ answered limits source, value.depth ≤ 1) ∧
    (∀ value ∈ printed limits source, value.depth ≤ 1) ∧
    ∀ value ∈ bound limits source, value.depth ≤ 1 := by
  cases hparse : Form.parse limits.nestingDepth (Token.tokenize source) with
  | error error =>
      rw [answered, printed, bound, run_eq_of_parse_error hparse]
      simp only [globals, read, hparse]
      refine ⟨by simp [Except.toOption], by simp, fun value hmem => ?_⟩
      obtain ⟨binding, hbinding, rfl⟩ := List.mem_map.mp hmem
      exact (Machine.isPlain_recording.bindings _ (List.mem_cons_self ..) binding hbinding).depth_le
  | ok root =>
      obtain ⟨parser, -, -, rfl⟩ := Form.parse_eq_ok_iff.mp hparse
      have hdepth := (Form.derivesAll_of_parse hparse).2
      have hform : ∀ form ∈ parser.forms.reverse,
          Stays (fun value => value.depth ≤ 1) (evalTop limits.bounds form) := fun form hmem =>
        stays_evalTop limits.bounds (Nat.le_trans (hdepth form hmem) (Nat.le_of_lt_succ h))
      have hlast : Value.null.depth ≤ 1 := Nat.zero_le 1
      have hprogram : Stays (fun value => value.depth ≤ 1)
          (evalProgram limits.bounds (.call parser.forms.reverse)) :=
        keeps_evalLast (fun _ _ => trivial) hform hlast
      exact depth_le_of_stays hprogram hparse

/-- Where a group in a group can be read, layers can be shown in every way. -/
theorem wrapped_mem_layers (h : 2 ≤ limits.nestingDepth) (count : Nat) :
    let deep := Value.wrapped (count + 1) .null
    deep ∈ answered limits (layers (count + 1)) ∧ deep ∈ printed limits (layers (count + 1)) ∧
      deep ∈ bound limits (layers (count + 1)) := by
  intro deep
  have hparse := parse_layers_of_le h (count + 1)
  obtain ⟨hanswer, hworld, hlookup, houter⟩ := evalLast_layersAt limits 1
    (Machine.recording Frame.standard) (count + 1) .null rfl
  rw [answered_of_parse hparse, printed_of_parse hparse, bound_of_parse hparse, evalProgram]
  refine ⟨?_, ?_, ?_⟩
  · rw [hanswer]
    exact List.mem_singleton_self _
  · rw [hworld]
    exact List.mem_singleton_self _
  · -- The name stands for a list, so that the globals bind it.
    have hnull : Value.wrapped (count + 1) .null ≠ .null := by
      intro hnull
      have hdepth := Value.depth_wrapped (count + 1) .null
      rw [hnull] at hdepth
      omega
    have hmem := Scope.mem_top_of_lookup houter fun h => hnull (hlookup.symm.trans h)
    rw [hlookup] at hmem
    exact List.mem_map_of_mem hmem

/-- What shows every number of layers has no bound. -/
theorem not_depthBounded {shown : String → List Value}
    (h : ∀ count, Value.wrapped (count + 1) .null ∈ shown (layers (count + 1))) :
    ¬ DepthBounded shown := by
  rintro ⟨most, hmost⟩
  have hle := hmost _ _ (h most)
  rw [Value.depth_wrapped] at hle
  omega

end Shown

/-- **How deep values get.** Under given limits there is a bound on the depth of what runs answer
exactly if the limits admit no group in a group; the same is true of what runs print and of what
they bind to global names. Below that limit there are no functions, so that no other names are
bound. -/
theorem depth_bounded_iff (limits : Limits) :
    (DepthBounded (answered limits) ↔ limits.nestingDepth < 2) ∧
    (DepthBounded (printed limits) ↔ limits.nestingDepth < 2) ∧
    (DepthBounded (bound limits) ↔ limits.nestingDepth < 2) := by
  rcases Nat.lt_or_ge limits.nestingDepth 2 with hlt | hge
  · have hshallow := depth_le_of_lt hlt
    exact ⟨iff_of_true ⟨1, fun source => (hshallow source).1⟩ hlt,
      iff_of_true ⟨1, fun source => (hshallow source).2.1⟩ hlt,
      iff_of_true ⟨1, fun source => (hshallow source).2.2⟩ hlt⟩
  · have hdeep := wrapped_mem_layers hge
    have hnot : ¬ limits.nestingDepth < 2 := Nat.not_lt.mpr hge
    exact ⟨iff_of_false (not_depthBounded fun count => (hdeep count).1) hnot,
      iff_of_false (not_depthBounded fun count => (hdeep count).2.1) hnot,
      iff_of_false (not_depthBounded fun count => (hdeep count).2.2) hnot⟩

/-- Not all limits put a bound on the depth of values: the usual ones put none. -/
theorem depth_unbounded : ¬ ∀ limits : Limits, DepthBounded fun source =>
    answered limits source ++ printed limits source ++ bound limits source := by
  intro hbounded
  refine not_depthBounded (fun count => ?_) (hbounded {})
  exact List.mem_append_right _ (wrapped_mem_layers (by decide) count).2.2

end Program

end Workbench
