import Mathlib.Data.List.Forall2
import Workbench.Proofs.Evaluator.Coupling
import Workbench.Proofs.Form.Grammar
import Workbench.Program

/-!
# A program depends on the names that it mentions

Names are looked up while a program runs, in whatever frames there are at that time, and functions
travel as values without the frames in which they were made. Still a program can only ask for names
that stand in its text. **Theorem** (`Program.mentioned_names_suffice`): among globals that bind the
words of a source text as the standard ones do, the program has the outcome that it has among the
standard ones, and does the same to the world of every sink. Whatever else the globals bind, and
whatever they lack, is never seen.

The proof runs the two evaluations side by side. Two frames *agree* on some names when they bind
these names to the same values, and all functions in these values ask for such names only
(`Frame.Agrees`); frames that agree stay so, frame by frame down the stack, because every value that
comes up is again of that kind (`Value.Carries`). A step is *indifferent* when it has one answer
among frames that agree (`Eval.Indifferent`); the steps of the machine are, and so is evaluation
(`Eval.indifferent_uniform`).
-/

namespace Workbench

/-! ### The words of a form -/

namespace Form

mutual

/-- The form asks for names of a kind only. The parameters of a function are bound and not asked
for. -/
def AsksFor (N : String → Prop) : Form → Prop
  | .word token => N token.value
  | .call items => AllAskFor N items
  | .list items => AllAskFor N items
  | .function _ _ body => body.AsksFor N
  | .string _ | .number _ | .boolean _ => True

/-- The forms ask for names of a kind only. -/
def AllAskFor (N : String → Prop) : List Form → Prop
  | [] => True
  | form :: rest => form.AsksFor N ∧ AllAskFor N rest

end

variable {N : String → Prop}

/-- Forms ask for such names only if each of them does. -/
theorem allAskFor_iff {forms : List Form} :
    AllAskFor N forms ↔ ∀ form ∈ forms, form.AsksFor N := by
  induction forms with
  | nil => simp [AllAskFor]
  | cons form rest ih => simp [AllAskFor, ih]

mutual

/-- A form asks for names that are among its tokens. -/
theorem Derives.asksFor {tokens : List Token} {form : Form} (h : Derives tokens form)
    (hwords : ∀ token ∈ tokens, token.kind = .word → N token.value) : form.AsksFor N := by
  match h with
  | .string _ | .number _ | .boolean _ _ => trivial
  | .word hname => exact hwords _ List.mem_cons_self hname.kind
  | .call _ hitems _ => exact hitems.allAskFor fun token hmem => hwords token (by simp [hmem])
  | .list _ hitems _ => exact hitems.allAskFor fun token hmem => hwords token (by simp [hmem])
  | .function _ _ _ _ _ hbody => exact hbody.asksFor fun token hmem => hwords token (by simp [hmem])

/-- Forms ask for no other names than the words that they are made of. -/
theorem DerivesAll.allAskFor {tokens : List Token} {forms : List Form} (h : DerivesAll tokens forms)
    (hwords : ∀ token ∈ tokens, token.kind = .word → N token.value) : AllAskFor N forms := by
  match h with
  | .nil => trivial
  | .cons hform hrest =>
      exact ⟨hform.asksFor fun token hmem => hwords token (List.mem_append_left _ hmem),
        hrest.allAskFor fun token hmem => hwords token (List.mem_append_right _ hmem)⟩

end

/-- A program asks for words of its text. -/
theorem asksFor_of_parse {limit : Nat} {tokens : List Token} {root : Form}
    (h : parse limit tokens = .ok root)
    (hwords : ∀ token ∈ tokens, token.kind = .word → N token.value) : root.AsksFor N := by
  obtain ⟨parser, -, -, rfl⟩ := parse_eq_ok_iff.mp h
  exact (derivesAll_of_parse h).1.allAskFor fun token hmem => hwords token (List.mem_filter.mp hmem).1

end Form

variable {N : String → Prop}

/-- All functions in the value ask for names of a kind only. -/
def Value.AsksFor (N : String → Prop) (value : Value) : Prop := value.Carries (Form.AsksFor N)

/-! ### Frames that agree -/

/-- Two frames bind the names of a kind to the same values, in which all functions ask for such
names only. -/
structure Frame.Agrees (N : String → Prop) (left right : Frame) : Prop where
  same : ∀ name, N name → List.lookup name left = List.lookup name right
  known : ∀ name value, N name → List.lookup name left = some value → value.AsksFor N

/-- A frame of which all values are of the kind agrees with itself. -/
theorem Frame.agrees_self {frame : Frame} (h : ∀ binding ∈ frame, binding.2.AsksFor N) :
    Frame.Agrees N frame frame where
  same _ _ := rfl
  known name value _ hlookup := by
    obtain ⟨before, after, rfl, -⟩ := List.lookup_eq_some_iff.mp hlookup
    exact h (name, value) (by simp)

/-- One more binding in both frames. -/
theorem Frame.Agrees.define {left right : Frame} (h : Frame.Agrees N left right) (name : String)
    {value : Value} (hvalue : value.AsksFor N) :
    Frame.Agrees N ((name, value) :: left) ((name, value) :: right) where
  same other hother := by
    rw [List.lookup_cons, List.lookup_cons, h.same other hother]
  known other found hother hlookup := by
    rw [List.lookup_cons] at hlookup
    split at hlookup
    · cases hlookup
      exact hvalue
    · exact h.known other found hother hlookup

/-- The frames of both scopes agree, each with the one in its place. -/
def Scope.Agrees (N : String → Prop) (left right : Scope) : Prop :=
  List.Forall₂ (Frame.Agrees N) left.frames right.frames

namespace Scope

/-- A name that is asked for stands for the same value in scopes that agree. -/
theorem Agrees.lookup {left right : Scope} (h : left.Agrees N right) {name : String}
    (hname : N name) :
    left.lookup name = right.lookup name ∧ (left.lookup name).AsksFor N := by
  unfold Scope.lookup
  unfold Agrees at h
  generalize left.frames = frames at h ⊢
  generalize right.frames = frames' at h ⊢
  -- down the stack: the first frame that has the name is in the same place on both sides
  induction h with
  | nil => exact ⟨rfl, trivial⟩
  | @cons frame frame' _ _ hframe _ ih =>
      simp only [List.findSome?_cons, ← hframe.same name hname]
      cases hfound : List.lookup name frame with
      | some value => exact ⟨rfl, hframe.known name value hname hfound⟩
      | none => exact ih

/-- Scopes that agree do so when the same value is bound in both. -/
theorem Agrees.define {left right : Scope} (h : left.Agrees N right) (name : String)
    {value : Value} (hvalue : value.AsksFor N) :
    (left.define name value).Agrees N (right.define name value) := by
  cases h with
  | cons htop houter => exact .cons (htop.define name hvalue) houter

/-- They do so inside the same call. -/
theorem Agrees.enter {left right : Scope} (h : left.Agrees N right) {frame : Frame}
    (hframe : ∀ binding ∈ frame, binding.2.AsksFor N) :
    (left.enter frame).Agrees N (right.enter frame) :=
  .cons (Frame.agrees_self hframe) h

/-- And they do so when it is over. -/
theorem Agrees.leave {left right : Scope} (h : left.Agrees N right) :
    left.leave.Agrees N right.leave := by
  obtain ⟨top, outer⟩ := left
  obtain ⟨top', outer'⟩ := right
  cases h with
  | cons htop houter =>
      cases houter with
      | nil => exact .cons htop .nil
      | cons hnext hrest => exact .cons hnext hrest

end Scope

variable {ω : Type}

/-- Two machines that differ at most in what their frames bind other names to. -/
structure Machine.Agrees (N : String → Prop) (left right : Machine ω) : Prop where
  scope : left.scope.Agrees N right.scope
  stamp : left.stamp = right.stamp
  sink : left.sink = right.sink
  world : left.world = right.world

namespace Eval

/-- The pairing of steps that lead from machines that agree to such machines, and fail in the same
way. -/
def agreeing (N : String → Prop) : Pairing ω ω :=
  .coupled (Machine.Agrees N) SameFailure fun _ _ _ => rfl

/-- A step that has one answer in machines that agree, in which all functions ask for names of the
kind only, and leaves the machines in agreement. -/
def Indifferent (N : String → Prop) (step : Eval ω Value) : Prop :=
  (agreeing N).Pairs (Twice (Value.AsksFor N)) step step

/-! ### Steps of the machine -/

/-- The one step that asks for a name. -/
theorem indifferent_lookup {name : String} (hname : N name) :
    Indifferent N (lookup name : Eval ω Value) := by
  intro left right hagrees
  obtain ⟨hsame, hknown⟩ := hagrees.scope.lookup hname
  exact .ok ⟨hknown, hsame⟩ hagrees

/-- To bind a value that asks for such names only is done in agreeing scopes alike. -/
theorem indifferent_define (name : String) {value : Value} (hvalue : value.AsksFor N) :
    (agreeing N).Pairs (fun _ _ => True) (define name value : Eval ω Unit) (define name value) :=
  fun _ _ hagrees => .ok trivial
    ⟨hagrees.scope.define name hvalue, hagrees.stamp, hagrees.sink, hagrees.world⟩

/-- Functions are made with the same stamp in agreeing scopes. -/
theorem indifferent_makeFunction (parameters : List String) {body : Form}
    (hbody : body.AsksFor N) : Indifferent N (makeFunction parameters body : Eval ω Value) := by
  intro left right hagrees
  have hfunction : Value.function left.stamp parameters body =
      .function right.stamp parameters body := by rw [hagrees.stamp]
  have hstamp : left.stamp + 1 = right.stamp + 1 := by rw [hagrees.stamp]
  exact .ok ⟨hbody, hfunction⟩ ⟨hagrees.scope, hstamp, hagrees.sink, hagrees.world⟩

/-- The sinks are one, and so are the worlds. -/
theorem indifferent_raise (values : List Value) :
    (agreeing N).Pairs (fun _ _ => True) (raise values : Eval ω Unit) (raise values) := by
  intro left right hagrees
  have hworld : left.sink values left.world = right.sink values right.world := by
    rw [hagrees.sink, hagrees.world]
  exact .ok trivial ⟨hagrees.scope, hagrees.stamp, hagrees.sink, hworld⟩

/-- The values that parameters are bound to are arguments. -/
theorem asksFor_ofArguments {parameters : List String} {arguments : List Value}
    (h : ∀ argument ∈ arguments, argument.AsksFor N) :
    ∀ binding ∈ Frame.ofArguments parameters arguments, binding.2.AsksFor N := by
  intro binding hmem
  have hzip : binding ∈ parameters.zip arguments := List.mem_reverse.mp hmem
  exact h binding.2 (List.of_mem_zip hzip).2

/-- There are as many frames, and the new one is the same on both sides. -/
theorem indifferent_framed (bounds : Bounds) {frame : Frame} {V : Value → Value → Prop}
    (hframe : ∀ binding ∈ frame, binding.2.AsksFor N) {left right : Eval ω Value}
    (h : (agreeing N).Pairs V left right) :
    (agreeing N).Pairs V (do checkCalls bounds; inFrame frame left)
      (do checkCalls bounds; inFrame frame right) := by
  refine Coupled.framed (fun hagrees => ?_) (fun _ => rfl) (fun hafter => ?_)
    fun hagrees _ => h ?_
  · rw [hagrees.scope.length_eq]
  · exact ⟨hafter.scope.leave, hafter.stamp, hafter.sink, hafter.world⟩
  · exact ⟨hagrees.scope.enter hframe, hagrees.stamp, hagrees.sink, hagrees.world⟩

/-- **The steps of the machine are indifferent to names that they do not ask for.** -/
theorem indifferent_uniform (bounds : Bounds) :
    (agreeing (ω := ω) N).Uniform (Form.AsksFor N) bounds bounds where
  call _ h := Form.allAskFor_iff.mp h
  list _ h := Form.allAskFor_iff.mp h
  lookup _ h := indifferent_lookup h
  makeFunction _ _ _ h names := indifferent_makeFunction names h
  define name _ h := indifferent_define name h
  raise := indifferent_raise
  framed _ _ _ _ harguments h := indifferent_framed bounds (asksFor_ofArguments harguments) h
  full := fun _ _ hagrees => .error rfl hagrees

/-- A program is evaluated alike in scopes that agree on the names it asks for. -/
theorem indifferent_evalProgram (bounds : Bounds) {form : Form} (h : form.AsksFor N) :
    Indifferent N (evalProgram bounds form : Eval ω Value) := by
  have hclosed := (indifferent_uniform (N := N) (ω := ω) bounds).closed
  refine hclosed.evalProgram ?_ ⟨h, rfl⟩
  rintro form _ ⟨hform, rfl⟩
  exact Coupled.reported (hclosed.eval bounds.nesting ⟨hform, rfl⟩)
    fun hsame => congrArg (Failure.endingAt form.lastPlace) hsame

end Eval

namespace Program

/-- Evaluates a program among globals, where print events act on a world, and answers how it ended
and the world that it leaves. -/
def evaluateAmong (globals : Frame) (bounds : Bounds) (root : Form) (sink : List Value → ω → ω)
    (world : ω) : Except Failure Value × ω :=
  let (result, after) :=
    (Eval.evalProgram bounds root).run { scope := { top := globals }, sink := sink, world := world }
  (result, after.world)

/-- A run evaluates its program among the standard globals. -/
theorem runInto_eq_evaluateAmong {limits : Limits} {source : String} {tokens : List Token}
    {root : Form} (h : read limits source = .ok (tokens, root)) (sink : List Value → ω → ω)
    (world : ω) :
    runInto limits source sink world =
      let (result, after) := evaluateAmong Frame.standard limits.bounds root sink world
      (result.map fun result => ⟨result, tokens, root⟩, after) := by
  unfold runInto
  rw [h]
  rfl

/-- The source text has the word. -/
def Mentioned (source name : String) : Prop :=
  ∃ token ∈ Token.tokenize source, token.kind = .word ∧ token.value = name

/-- The source text does not have the word. -/
def Unmentioned (source name : String) : Prop :=
  ∀ token ∈ Token.tokenize source, token.kind = .word → token.value ≠ name

/-- The standard globals are builtin functions, and those ask for nothing. -/
theorem agrees_standard {globals : Frame}
    (h : ∀ name, N name → List.lookup name globals = List.lookup name Frame.standard) :
    Frame.Agrees N globals Frame.standard where
  same := h
  known name value hname hlookup := by
    rw [h name hname] at hlookup
    have hbuiltin : ∀ binding ∈ Frame.standard, binding.2.AsksFor N := by
      intro binding hmem
      obtain ⟨builtin, -, rfl⟩ := List.mem_map.mp hmem
      trivial
    exact (Frame.agrees_self hbuiltin).known name value hname hlookup

/-- Globals that agree with the standard ones on the words of a program. -/
theorem evaluateAmong_of_agree {limit : Nat} {source : String} {root : Form}
    (hparse : Form.parse limit (Token.tokenize source) = .ok root) {globals : Frame}
    (hagree : ∀ token ∈ Token.tokenize source, token.kind = .word →
      List.lookup token.value globals = List.lookup token.value Frame.standard)
    (bounds : Bounds) (sink : List Value → ω → ω) (world : ω) :
    evaluateAmong globals bounds root sink world =
      evaluateAmong Frame.standard bounds root sink world := by
  have hroot : root.AsksFor (Mentioned source) :=
    Form.asksFor_of_parse hparse fun token hmem hkind => ⟨token, hmem, hkind, rfl⟩
  have hglobals : Frame.Agrees (Mentioned source) globals Frame.standard := by
    refine agrees_standard ?_
    rintro name ⟨token, hmem, hkind, rfl⟩
    exact hagree token hmem hkind
  have hstart : Machine.Agrees (Mentioned source)
      { scope := { top := globals }, sink := sink, world := world }
      { scope := { top := Frame.standard }, sink := sink, world := world } :=
    ⟨.cons hglobals .nil, rfl, rfl, rfl⟩
  have hmet := Eval.indifferent_evalProgram bounds hroot hstart
  exact Prod.ext hmet.outcome_eq hmet.machines.world

/-- Without one of its bindings a frame has all other names. -/
theorem lookup_filter_ne {name other : String} (h : other ≠ name) (frame : Frame) :
    List.lookup other (frame.filter (·.1 ≠ name)) = List.lookup other frame := by
  induction frame with
  | nil => rfl
  | cons binding rest ih =>
      obtain ⟨bound, value⟩ := binding
      by_cases hbound : bound = name
      · subst hbound
        rw [List.filter_cons_of_neg (by simp), ih, List.lookup_cons, beq_false_of_ne h]
      · rw [List.filter_cons_of_pos (by simpa using hbound), List.lookup_cons, List.lookup_cons, ih]

/-- **A program depends on the names that it mentions.** Among globals that bind its words as the
standard ones do it ends in the same way and does the same to the world. In particular a standard
function that it does not mention can be taken away, and any value can be bound to a name that it
does not mention. -/
theorem mentioned_names_suffice {limit : Nat} {source : String} {root : Form}
    (hparse : Form.parse limit (Token.tokenize source) = .ok root) (bounds : Bounds)
    (sink : List Value → ω → ω) (world : ω) :
    (∀ globals : Frame,
      (∀ token ∈ Token.tokenize source, token.kind = .word →
        List.lookup token.value globals = List.lookup token.value Frame.standard) →
      evaluateAmong globals bounds root sink world =
        evaluateAmong Frame.standard bounds root sink world) ∧
    ∀ name, Unmentioned source name →
      evaluateAmong (Frame.standard.filter (·.1 ≠ name)) bounds root sink world =
        evaluateAmong Frame.standard bounds root sink world ∧
      ∀ value, evaluateAmong ((name, value) :: Frame.standard) bounds root sink world =
        evaluateAmong Frame.standard bounds root sink world := by
  refine ⟨fun globals hagree => evaluateAmong_of_agree hparse hagree bounds sink world, ?_⟩
  intro name hname
  constructor
  · refine evaluateAmong_of_agree hparse (fun token hmem hkind => ?_) bounds sink world
    exact lookup_filter_ne (hname token hmem hkind) Frame.standard
  · intro value
    refine evaluateAmong_of_agree hparse (fun token hmem hkind => ?_) bounds sink world
    rw [List.lookup_cons, beq_false_of_ne (hname token hmem hkind)]

/-- Globals with one of the standard functions, another one in its place and a name of their own. -/
def spareGlobals : Frame :=
  [("print", .builtin .print), ("+", .function 7 ["f"] (.call [])), ("spare", .bool true)]

/-- A program that prints a list with its own function in it needs only the function `print`. -/
theorem mentioned_names_suffice_printing :
    let source := "(def f (fn [n] (print n))) (f [1 f])"
    ∃ root, Form.parse 4 (Token.tokenize source) = .ok root ∧
      (∀ token ∈ Token.tokenize source, token.kind = .word →
        List.lookup token.value spareGlobals = List.lookup token.value Frame.standard) ∧
      Unmentioned source "+" ∧
      evaluateAmong spareGlobals {} root record #[] =
        evaluateAmong Frame.standard {} root record #[] ∧
      evaluateAmong (Frame.standard.filter (·.1 ≠ "+")) {} root record #[] =
        evaluateAmong Frame.standard {} root record #[] ∧
      (evaluateAmong spareGlobals {} root record #[]).2.toList.map (·.map Value.render) =
        [["[1,FUNCTION [n]]"]] := by
  intro source
  have hprinted : (Form.parse 4 (Token.tokenize source)).toOption.any (fun root =>
      (evaluateAmong Frame.standard {} root record #[]).2.toList.map (·.map Value.render) =
        [["[1,FUNCTION [n]]"]]) = true := by decide +kernel
  have hvalues : ∀ token ∈ Token.tokenize source, token.kind = .word →
      token.value ∈ ["def", "f", "fn", "n", "print"] := by decide +kernel
  have hwords : ∀ token ∈ Token.tokenize source, token.kind = .word →
      List.lookup token.value spareGlobals = List.lookup token.value Frame.standard := by
    intro token hmem hkind
    have hvalue := hvalues token hmem hkind
    generalize token.value = value at hvalue
    simp only [List.mem_cons, List.not_mem_nil, or_false] at hvalue
    rcases hvalue with rfl | rfl | rfl | rfl | rfl <;> rfl
  have hplus : Unmentioned source "+" := by
    unfold Unmentioned
    decide +kernel
  cases hparse : Form.parse 4 (Token.tokenize source) with
  | error =>
      rw [hparse] at hprinted
      cases hprinted
  | ok root =>
      rw [hparse] at hprinted
      obtain ⟨hagree, hother⟩ := mentioned_names_suffice hparse {} record #[]
      have hsame := hagree spareGlobals hwords
      refine ⟨root, rfl, hwords, hplus, hsame, (hother "+" hplus).1, ?_⟩
      rw [hsame]
      exact of_decide_eq_true hprinted

end Program

end Workbench
