import Mathlib.Data.List.Forall2
import Workbench.Evaluator
import Workbench.Proofs.Value.Parts

/-!
# One way through the evaluator

Most of what is said about evaluation here is said of two evaluations that run side by side: into
another sink, with and without places, among other globals, under two limits, with a meter or a
journal beside the world; or of a single one, and then of the machines that it keeps to and of the
failures that it may end in. What is compared differs, but the way through the evaluator does not,
and it is walked here once.

A *pairing* (`Eval.Pairing`) says which steps of two evaluators go together, where it is given how
their answers correspond. It knows about answers, faults and steps one after the other, and that is
enough for everything that the evaluator does with forms: for sequences (`pairs_evalAll`,
`pairs_evalLast`), groups in parentheses (`pairs_callWith`) and applications (`pairs_apply`).

What forms and values have to have in common for the two evaluators to take the same turns is said
in `Form.Correspondence` and `Value.Correspondence`. Where the pairing also knows about the steps of
the machine (`Eval.Pairing.Closed`), the two evaluators go together on all forms that correspond, by
induction on the allowance (`Eval.Pairing.Closed.eval`).
-/

namespace Workbench

/-! ### One thing twice -/

/-- The two are one thing, which is of a kind. It is how answers correspond where they are the same
on both sides. -/
def Twice {α : Type} (P : α → Prop) (a a' : α) : Prop := P a ∧ a = a'

/-- Lists that correspond element by element are one list. -/
theorem forall₂_twice {α : Type} {P : α → Prop} {as as' : List α} :
    List.Forall₂ (Twice P) as as' ↔ Twice (fun as => ∀ a ∈ as, P a) as as' := by
  unfold Twice
  rw [List.forall₂_and_left, List.forall₂_eq_eq_eq]

/-- A list corresponds to its image element by element, and to no other list. -/
theorem forall₂_image {α β : Type} {f : α → β} {as : List α} {bs : List β} :
    List.Forall₂ (fun a b => f a = b) as bs ↔ as.map f = bs := by
  rw [← List.forall₂_eq_eq_eq, List.forall₂_map_left_iff]

/-! ### Forms that are treated alike -/

namespace Form

/-- The two forms look the same to the group that they stand in: they are words of one spelling or
other forms of one kind. -/
inductive Resembles : Form → Form → Prop where
  | word {token token' : Token} (h : token.value = token'.value) :
      Resembles (.word token) (.word token')
  | call {items items' : List Form} : Resembles (.call items) (.call items')
  | list {items items' : List Form} : Resembles (.list items) (.list items')
  | string {token token' : Token} : Resembles (.string token) (.string token')
  | number {token token' : Token} : Resembles (.number token) (.number token')
  | boolean {token token' : Token} : Resembles (.boolean token) (.boolean token')
  | function {token token' : Token} {parameters parameters' : List Form} {body body' : Form} :
      Resembles (.function token parameters body) (.function token' parameters' body')

/-- Every form looks like itself. -/
theorem resembles_self (form : Form) : form.Resembles form := by
  cases form with
  | word => exact .word rfl
  | call => exact .call
  | list => exact .list
  | string => exact .string
  | number => exact .number
  | boolean => exact .boolean
  | function => exact .function

/-- A relation between forms that look the same, which holds item by item of the groups that it
holds of. -/
structure Correspondence (F : Form → Form → Prop) : Prop where
  resembles : ∀ {form form' : Form}, F form form' → form.Resembles form'
  call : ∀ {items items' : List Form}, F (.call items) (.call items') →
    List.Forall₂ F items items'
  list : ∀ {items items' : List Form}, F (.list items) (.list items') →
    List.Forall₂ F items items'

/-- Forms of a kind that the items of groups are of when the groups are. -/
theorem correspondence_twice {P : Form → Prop}
    (hcall : ∀ items, P (.call items) → ∀ item ∈ items, P item)
    (hlist : ∀ items, P (.list items) → ∀ item ∈ items, P item) : Correspondence (Twice P) where
  resembles := by
    rintro form _ ⟨-, rfl⟩
    exact form.resembles_self
  call := by
    rintro items _ ⟨h, ⟨⟩⟩
    exact forall₂_twice.mpr ⟨hcall items h, rfl⟩
  list := by
    rintro items _ ⟨h, ⟨⟩⟩
    exact forall₂_twice.mpr ⟨hlist items h, rfl⟩

/-- The forms that a program consists of at its top level. -/
def topLevel : Form → List Form
  | .call forms => forms
  | form => [form]

end Form

/-! ### Values that are treated alike -/

namespace Value

/-- The two values are called in one way: they are one builtin function, functions with the same
parameters and with bodies that `F` relates, null on both sides, or values of one kind that cannot
be called. -/
inductive CalledAlike (F : Form → Form → Prop) : Value → Value → Prop where
  | builtin {builtin : Builtin} : CalledAlike F (.builtin builtin) (.builtin builtin)
  | function {stamp stamp' : Nat} {parameters : List String} {body body' : Form}
      (h : F body body') :
      CalledAlike F (.function stamp parameters body) (.function stamp' parameters body')
  | null : CalledAlike F .null .null
  | bool {flag flag' : Bool} : CalledAlike F (.bool flag) (.bool flag')
  | int {number number' : Int64} : CalledAlike F (.int number) (.int number')
  | str {text text' : String} : CalledAlike F (.str text) (.str text')
  | list {items items' : List Value} : CalledAlike F (.list items) (.list items')

/-- A relation between values that evaluation treats alike. What has no parts corresponds to
itself. -/
structure Correspondence (F : Form → Form → Prop) (V : Value → Value → Prop) : Prop where
  plain : ∀ {value : Value}, value.IsPlain → V value value
  truthy : ∀ {value value' : Value}, V value value' → value.isTruthy = value'.isTruthy
  callee : ∀ {value value' : Value}, V value value' → value.CalledAlike F value'

/-- Values of a kind that everything without parts is of, and in which all functions have bodies of
a kind. -/
theorem correspondence_twice {P : Form → Prop} {wanted : Value → Prop}
    (hplain : ∀ value, value.IsPlain → wanted value)
    (hbody : ∀ stamp parameters body, wanted (.function stamp parameters body) → P body) :
    Correspondence (Twice P) (Twice wanted) where
  plain h := ⟨hplain _ h, rfl⟩
  truthy := by
    rintro _ _ ⟨-, rfl⟩
    rfl
  callee := by
    rintro value _ ⟨h, rfl⟩
    cases value with
    | builtin => exact .builtin
    | function stamp parameters body => exact .function ⟨hbody stamp parameters body h, rfl⟩
    | null => exact .null
    | bool => exact .bool
    | int => exact .int
    | str => exact .str
    | list => exact .list

/-- Values that are the same. -/
theorem correspondence_same : Correspondence (Twice fun _ => True) (Twice fun _ => True) :=
  correspondence_twice (fun _ _ => trivial) fun _ _ _ _ => trivial

/-- Lists of the same values are the same. -/
theorem same_list {values values' : List Value}
    (h : List.Forall₂ (Twice fun _ => True) values values') :
    Twice (fun _ => True) (Value.list values) (.list values') :=
  ⟨trivial, congrArg Value.list (forall₂_twice.mp h).2⟩

/-- Values in which all functions have bodies of a kind. -/
theorem correspondence_carries (P : Form → Prop) :
    Correspondence (Twice P) (Twice (Value.Carries P)) :=
  correspondence_twice (fun _ hplain => hplain.carries) fun _ _ _ hbody => hbody

end Value

namespace Eval

variable {ω ω' α α' β β' : Type}

/-! ### The evaluator in one piece -/

/-- The step with the end of a top-level form added to what it reports. -/
def reported (place : Option Position) (step : Eval ω α) : Eval ω α := fun machine =>
  let (outcome, after) := step machine
  (outcome.mapError (Failure.endingAt place), after)

/-- A program is the sequence of its top-level forms. -/
theorem evalProgram_eq (bounds : Bounds) (root : Form) :
    (evalProgram bounds root : Eval ω Value) = evalLast (evalTop bounds) .null root.topLevel := by
  cases root <;> rfl

/-- A definition, given all parts of its form and the step that makes it. -/
def definitionWith (make : String → Value → Eval ω Unit) (inside : Form → Eval ω Value) :
    List Form → Eval ω Value
  | [_, .word token, form] => do
      make token.value (← inside form)
      return .null
  | [_, form, _] => fault (.definitionOf form.kind)
  | items => fault (.definitionSize items.length)

/-- A call of the value of the first form, given the step that applies it. -/
def applicationWith (call : Value → List Value → Eval ω Value) (inside : Form → Eval ω Value)
    (head : Form) (rest : List Form) : Eval ω Value := do
  let callee ← inside head
  let arguments ← evalAll inside rest
  call callee arguments

/-- A group in parentheses, given how definitions are made and values are applied. -/
def callWith (make : String → Value → Eval ω Unit) (call : Value → List Value → Eval ω Value)
    (inside : Form → Eval ω Value) : List Form → Eval ω Value
  | [] => pure .null
  | [.function token parameters body] => inside (.function token parameters body)
  | .word token :: rest =>
      if token.value = "define" ∨ token.value = "def" then
        definitionWith make inside (.word token :: rest)
      else if token.value = "if" then evalConditional inside (.word token :: rest)
      else if token.value = "do" then evalLast inside .null rest
      else applicationWith call inside (.word token) rest
  | head :: rest => applicationWith call inside head rest

/-- A definition that does not have three parts. -/
theorem definitionWith_of_length_ne (make : String → Value → Eval ω Unit)
    (inside : Form → Eval ω Value) {items : List Form} (h : items.length ≠ 3) :
    definitionWith make inside items = fault (.definitionSize items.length) := by
  unfold definitionWith
  split
  · exact absurd rfl h
  · exact absurd rfl h
  · rfl

/-- The evaluator binds what it defines in the innermost frame, and applies values to arguments. -/
theorem evalCall_eq (bounds : Bounds) (inside : Form → Eval ω Value) (items : List Form) :
    evalCall bounds inside items = callWith define (apply bounds inside) inside items := by
  unfold evalCall callWith
  rfl

/-- A conditional that has neither three nor four parts. -/
theorem evalConditional_of_length_ne (inside : Form → Eval ω Value) {items : List Form}
    (h : items.length ≠ 3 ∧ items.length ≠ 4) :
    evalConditional inside items = fault (.conditionalSize items.length) := by
  unfold evalConditional
  split
  · exact absurd rfl h.1
  · exact absurd rfl h.2
  · rfl

/-- What stands for a number is an integer. -/
theorem isPlain_of_numberOf {token : Token} {value : Value} (h : numberOf token = .ok value) :
    value.IsPlain := by
  unfold numberOf at h
  split at h <;> cases h
  exact Value.isPlain_int _

/-! ### Pairings -/

/-- A way in which steps of two evaluators go together: `Pairs V left right` is about the steps
`left` and `right`, where `V` says which of their answers correspond. -/
structure Pairing (ω ω' : Type) where
  Pairs : {α α' : Type} → (α → α' → Prop) → Eval ω α → Eval ω' α' → Prop
  /-- Answers that correspond. -/
  pairs_pure : ∀ {α α' : Type} {V : α → α' → Prop} {a : α} {a' : α'}, V a a' →
    Pairs V (pure a) (pure a')
  /-- The same fault on both sides. -/
  pairs_fault : ∀ {α α' : Type} {V : α → α' → Prop} (cause : Fault),
    Pairs V (fault cause) (fault cause)
  /-- Steps one after the other. -/
  pairs_bind : ∀ {α α' β β' : Type} {V : α → α' → Prop} {W : β → β' → Prop} {left : Eval ω α}
    {right : Eval ω' α'} {next : α → Eval ω β} {next' : α' → Eval ω' β'}, Pairs V left right →
    (∀ a a', V a a' → Pairs W (next a) (next' a')) → Pairs W (left >>= next) (right >>= next')

namespace Pairing

variable (p : Pairing ω ω') {F : Form → Form → Prop} {V W : Value → Value → Prop}

/-- The answers correspond in a weaker sense. -/
theorem pairs_mono {A B : α → α' → Prop} {left : Eval ω α} {right : Eval ω' α'}
    (h : p.Pairs A left right) (himp : ∀ a a', A a a' → B a a') : p.Pairs B left right := by
  rw [← bind_pure left, ← bind_pure right]
  exact p.pairs_bind h fun a a' ha => p.pairs_pure (himp a a' ha)

/-- Something that may be at fault, on both sides. -/
theorem pairs_ofExcept {A : α → α → Prop} {result : Except Fault α}
    (h : ∀ a, result = .ok a → A a a) : p.Pairs A (ofExcept result) (ofExcept result) := by
  cases result with
  | ok a => exact p.pairs_pure (h a rfl)
  | error cause => exact p.pairs_fault cause

/-! ### Forms

The steps below are given the evaluation of the forms inside them. -/

section Forms

variable {inside : Form → Eval ω Value} {inside' : Form → Eval ω' Value}

/-- The forms are evaluated to values that correspond, one by one. -/
abbrev PairsAll (V : Value → Value → Prop) (inside : Form → Eval ω Value)
    (inside' : Form → Eval ω' Value) : List Form → List Form → Prop :=
  List.Forall₂ fun form form' => p.Pairs V (inside form) (inside' form')

/-- The items of a group look the same and are evaluated to values that correspond, one by one. -/
abbrev PairsItems (V : Value → Value → Prop) (inside : Form → Eval ω Value)
    (inside' : Form → Eval ω' Value) : List Form → List Form → Prop :=
  List.Forall₂ fun form form' => form.Resembles form' ∧ p.Pairs V (inside form) (inside' form')

/-- The values of forms correspond one by one. -/
theorem pairs_evalAll {forms forms' : List Form} (h : p.PairsAll V inside inside' forms forms') :
    p.Pairs (List.Forall₂ V) (evalAll inside forms) (evalAll inside' forms') := by
  induction h with
  | nil => exact p.pairs_pure .nil
  | cons hform _ ih =>
      refine p.pairs_bind hform fun value value' hvalue => ?_
      exact p.pairs_bind ih fun values values' hvalues => p.pairs_pure (.cons hvalue hvalues)

/-- The lists of the values of forms correspond. -/
theorem pairs_list
    (hlist : ∀ {values values'}, List.Forall₂ V values values' → W (.list values) (.list values'))
    {items items' : List Form} (h : p.PairsAll V inside inside' items items') :
    p.Pairs W (do return Value.list (← evalAll inside items))
      (do return Value.list (← evalAll inside' items')) :=
  p.pairs_bind (p.pairs_evalAll h) fun _ _ hvalues => p.pairs_pure (hlist hvalues)

/-- The values of the last of some forms correspond. -/
theorem pairs_evalLast {forms forms' : List Form} (h : p.PairsAll V inside inside' forms forms')
    {last last' : Value} (hlast : V last last') :
    p.Pairs V (evalLast inside last forms) (evalLast inside' last' forms') := by
  induction h generalizing last last' with
  | nil => exact p.pairs_pure hlast
  | cons hform _ ih => exact p.pairs_bind hform fun value value' hvalue => ih hvalue

/-- The definitions are made of values that correspond. -/
theorem pairs_definitionWith (hvalues : Value.Correspondence F V)
    {make : String → Value → Eval ω Unit} {make' : String → Value → Eval ω' Unit}
    (hmake : ∀ name {value value'}, V value value' →
      p.Pairs (fun _ _ => True) (make name value) (make' name value'))
    {items items' : List Form} (hitems : p.PairsItems V inside inside' items items') :
    p.Pairs V (definitionWith make inside items) (definitionWith make' inside' items') := by
  by_cases hsize : items.length = 3
  · match items, items', hitems, hsize with
    | [_, _, form], [_, _, form'], .cons _ (.cons hname (.cons hform .nil)), _ =>
        cases hname.1 with
        | word hspelling =>
            refine p.pairs_bind hform.2 fun value value' hvalue => ?_
            rw [hspelling]
            exact p.pairs_bind (hmake _ hvalue) fun _ _ _ =>
              p.pairs_pure (hvalues.plain Value.isPlain_null)
        | call | list | string | number | boolean | function => exact p.pairs_fault _
  · have hsize' : items'.length ≠ 3 := by rwa [← hitems.length_eq]
    rw [definitionWith_of_length_ne make inside hsize,
      definitionWith_of_length_ne make' inside' hsize', hitems.length_eq]
    exact p.pairs_fault _

/-- Conditions that correspond are true together, so that both sides turn the same way. -/
theorem pairs_evalConditional (hvalues : Value.Correspondence F V) {items items' : List Form}
    (hitems : p.PairsItems V inside inside' items items') :
    p.Pairs V (evalConditional inside items) (evalConditional inside' items') := by
  by_cases hsize : items.length = 3 ∨ items.length = 4
  · match items, items', hitems, hsize with
    | [_, _, _], [_, _, _], .cons _ (.cons hcondition (.cons hconsequent .nil)), _ =>
        refine p.pairs_bind hcondition.2 fun value value' hvalue => ?_
        rw [hvalues.truthy hvalue]
        split
        · exact hconsequent.2
        · exact p.pairs_pure (hvalues.plain Value.isPlain_null)
    | [_, _, _, _], [_, _, _, _],
        .cons _ (.cons hcondition (.cons hconsequent (.cons halternative .nil))), _ =>
        refine p.pairs_bind hcondition.2 fun value value' hvalue => ?_
        rw [hvalues.truthy hvalue]
        split
        · exact hconsequent.2
        · exact halternative.2
  · have hne : items.length ≠ 3 ∧ items.length ≠ 4 := not_or.mp hsize
    have hne' : items'.length ≠ 3 ∧ items'.length ≠ 4 := by rwa [← hitems.length_eq]
    rw [evalConditional_of_length_ne inside hne, evalConditional_of_length_ne inside' hne',
      hitems.length_eq]
    exact p.pairs_fault _

section Calls

variable {call : Value → List Value → Eval ω Value} {call' : Value → List Value → Eval ω' Value}
  (hcall : ∀ {callee callee' arguments arguments'}, V callee callee' →
    List.Forall₂ V arguments arguments' →
    p.Pairs W (call callee arguments) (call' callee' arguments'))
include hcall

/-- Values that correspond are applied to values that correspond. -/
theorem pairs_applicationWith {head head' : Form} {rest rest' : List Form}
    (hhead : p.Pairs V (inside head) (inside' head'))
    (hrest : p.PairsAll V inside inside' rest rest') :
    p.Pairs W (applicationWith call inside head rest)
      (applicationWith call' inside' head' rest') := by
  refine p.pairs_bind hhead fun callee callee' hcallee => ?_
  exact p.pairs_bind (p.pairs_evalAll hrest) fun arguments arguments' harguments =>
    hcall hcallee harguments

/-- **Groups in parentheses.** Which way a group goes is decided by how its first item looks. The
answers of applications may be of more kinds than the values that are applied. -/
theorem pairs_callWith (hvalues : Value.Correspondence F V)
    (hanswers : ∀ value value', V value value' → W value value')
    {make : String → Value → Eval ω Unit} {make' : String → Value → Eval ω' Unit}
    (hmake : ∀ name {value value'}, V value value' →
      p.Pairs (fun _ _ => True) (make name value) (make' name value'))
    {items items' : List Form} (hitems : p.PairsItems V inside inside' items items') :
    p.Pairs W (callWith make call inside items) (callWith make' call' inside' items') := by
  match items, items', hitems with
  | [], [], .nil => exact p.pairs_pure (hanswers _ _ (hvalues.plain Value.isPlain_null))
  | head :: rest, head' :: rest', .cons hhead hrest =>
      have hall : p.PairsAll V inside inside' rest rest' := hrest.imp fun _ _ hitem => hitem.2
      have happlication := p.pairs_applicationWith hcall hhead.2 hall
      cases hhead.1 with
      | @word token token' hspelling =>
          simp only [callWith, hspelling]
          split
          · exact p.pairs_mono (p.pairs_definitionWith hvalues hmake (.cons hhead hrest)) hanswers
          · split
            · exact p.pairs_mono (p.pairs_evalConditional hvalues (.cons hhead hrest)) hanswers
            · split
              · have hlast := p.pairs_evalLast hall (hvalues.plain Value.isPlain_null)
                exact p.pairs_mono hlast hanswers
              · exact happlication
      | function =>
          cases hrest with
          | nil => exact p.pairs_mono hhead.2 hanswers
          | cons => exact happlication
      | call | list | string | number | boolean => exact happlication

end Calls

/-- A builtin function that is given the same arguments on both sides. -/
theorem pairs_callBuiltin {builtin : Builtin} {arguments : List Value}
    (hraise : ∀ values, builtin.event arguments = some values →
      p.Pairs (fun _ _ => True) (raise values) (raise values))
    (hanswer : ∀ value, builtin.answer arguments = .ok value → W value value) :
    p.Pairs W (callBuiltin builtin arguments) (callBuiltin builtin arguments) := by
  unfold callBuiltin
  cases hevent : builtin.event arguments with
  | none => exact p.pairs_ofExcept hanswer
  | some values =>
      exact p.pairs_bind (hraise values hevent) fun _ _ _ => p.pairs_ofExcept hanswer

/-- **Applications.** What is left to show are the calls of functions: of builtin ones, and of those
of the program in a frame of their own. -/
theorem pairs_apply {bounds bounds' : Bounds} {callee callee' : Value}
    {arguments arguments' : List Value} (hcallee : callee.CalledAlike F callee')
    (hsize : arguments.length = arguments'.length) (hnull : W .null .null)
    (hbuiltin : ∀ builtin,
      p.Pairs W (callBuiltin builtin arguments) (callBuiltin builtin arguments'))
    (hframed : ∀ parameters {body body'}, F body body' →
      p.Pairs W
        (do
          checkCalls bounds
          inFrame (Frame.ofArguments parameters arguments) (inside body))
        (do
          checkCalls bounds'
          inFrame (Frame.ofArguments parameters arguments') (inside' body'))) :
    p.Pairs W (apply bounds inside callee arguments)
      (apply bounds' inside' callee' arguments') := by
  cases hcallee with
  | builtin => exact hbuiltin _
  | function hbody =>
      simp only [apply, hsize]
      split
      · exact p.pairs_fault _
      · exact hframed _ hbody
  | null => exact p.pairs_pure hnull
  | bool | int | str | list => exact p.pairs_fault _

end Forms

/-! ### Evaluation -/

/-- What is not a group is evaluated without recursion, and the allowance does not matter. What is
left to show is what becomes of names and new functions. -/
theorem pairs_eval_atom {bounds bounds' : Bounds} {form : Form}
    (hgroup : form.kind ≠ .call ∧ form.kind ≠ .list)
    (hplain : ∀ {value : Value}, value.IsPlain → V value value)
    (hlookup : ∀ token, form = .word token → p.Pairs V (lookup token.value) (lookup token.value))
    (hfunction : ∀ token parameters body, form = .function token parameters body →
      ∀ names, p.Pairs V (makeFunction names body) (makeFunction names body))
    (allowance allowance' : Nat) :
    p.Pairs V (eval bounds allowance form) (eval bounds' allowance' form) := by
  cases form with
  | word token =>
      simp only [eval]
      exact hlookup token rfl
  | boolean =>
      simp only [eval]
      exact p.pairs_pure (hplain (Value.isPlain_bool _))
  | string =>
      simp only [eval]
      exact p.pairs_pure (hplain (Value.isPlain_str _))
  | number token =>
      simp only [eval]
      exact p.pairs_ofExcept fun _ hvalue => hplain (isPlain_of_numberOf hvalue)
  | function token parameters body =>
      have hnames : p.Pairs Eq (ofExcept (parameterNames parameters))
          (ofExcept (parameterNames parameters)) := p.pairs_ofExcept fun _ _ => rfl
      simp only [eval]
      refine p.pairs_bind hnames ?_
      rintro names _ rfl
      exact hfunction token parameters body rfl names
  | call => exact absurd rfl hgroup.1
  | list => exact absurd rfl hgroup.2

/-- The pairing holds of the steps that evaluation is put together from, where `F` says which forms
correspond, and `V` which values. -/
structure Closed (F : Form → Form → Prop) (V : Value → Value → Prop) (bounds bounds' : Bounds) :
    Prop where
  forms : Form.Correspondence F
  values : Value.Correspondence F V
  list : ∀ {values values' : List Value}, List.Forall₂ V values values' →
    V (.list values) (.list values')
  define : ∀ (name : String) {value value' : Value}, V value value' →
    p.Pairs (fun _ _ => True) (define name value) (define name value')
  builtin : ∀ (builtin : Builtin) {arguments arguments' : List Value},
    List.Forall₂ V arguments arguments' →
    p.Pairs V (callBuiltin builtin arguments) (callBuiltin builtin arguments')
  framed : ∀ (parameters : List String) {arguments arguments' : List Value}
    {left : Eval ω Value} {right : Eval ω' Value}, List.Forall₂ V arguments arguments' →
    p.Pairs V left right →
    p.Pairs V (do checkCalls bounds; inFrame (Frame.ofArguments parameters arguments) left)
      (do checkCalls bounds'; inFrame (Frame.ofArguments parameters arguments') right)
  /-- Neither evaluator may enter one more group. -/
  full : p.Pairs V (throw (.nesting bounds.nesting)) (throw (.nesting bounds'.nesting))
  atom : ∀ {form form' : Form}, F form form' → form.kind ≠ .call ∧ form.kind ≠ .list →
    ∀ allowance : Nat, p.Pairs V (eval bounds allowance form) (eval bounds' allowance form')

namespace Closed

variable {p} {bounds bounds' : Bounds} (h : p.Closed F V bounds bounds')
include h

/-- Calls go together if the evaluators do that are given to the bodies. -/
theorem apply {inside : Form → Eval ω Value} {inside' : Form → Eval ω' Value}
    (hinside : ∀ {form form'}, F form form' → p.Pairs V (inside form) (inside' form'))
    {callee callee' : Value} {arguments arguments' : List Value} (hcallee : V callee callee')
    (harguments : List.Forall₂ V arguments arguments') :
    p.Pairs V (Eval.apply bounds inside callee arguments)
      (Eval.apply bounds' inside' callee' arguments') :=
  p.pairs_apply (h.values.callee hcallee) harguments.length_eq (h.values.plain Value.isPlain_null)
    (fun builtin => h.builtin builtin harguments)
    fun parameters _ _ hbody => h.framed parameters harguments (hinside hbody)

/-- **The evaluators go together on forms that correspond.** The induction is on the allowance: the
items of a group and the bodies of the functions that it calls are evaluated within one that is
smaller. -/
theorem eval (allowance : Nat) {form form' : Form} (hform : F form form') :
    p.Pairs V (Eval.eval bounds allowance form) (Eval.eval bounds' allowance form') := by
  induction allowance generalizing form form' with
  | zero =>
      cases h.forms.resembles hform with
      | call | list => exact h.full
      | word | string | number | boolean | function => exact h.atom hform ⟨nofun, nofun⟩ 0
  | succ allowance ih =>
      cases h.forms.resembles hform with
      | call =>
          simp only [Eval.eval, evalCall_eq]
          refine p.pairs_callWith (h.apply ih) h.values (fun _ _ hvalue => hvalue) h.define ?_
          exact (h.forms.call hform).imp fun _ _ hitem => ⟨h.forms.resembles hitem, ih hitem⟩
      | list => exact p.pairs_list h.list ((h.forms.list hform).imp fun _ _ hitem => ih hitem)
      | word | string | number | boolean | function =>
          exact h.atom hform ⟨nofun, nofun⟩ (allowance + 1)

/-- The evaluators go together on the top-level forms of a program, and so on the program. -/
theorem evalProgram
    (htop : ∀ {form form'}, F form form' → p.Pairs V (evalTop bounds form) (evalTop bounds' form'))
    {root root' : Form} (hroot : F root root') :
    p.Pairs V (Eval.evalProgram bounds root) (Eval.evalProgram bounds' root') := by
  have hforms : List.Forall₂ F root.topLevel root'.topLevel := by
    cases h.forms.resembles hroot with
    | call => exact h.forms.call hroot
    | word | list | string | number | boolean | function => exact .cons hroot .nil
  rw [evalProgram_eq, evalProgram_eq]
  exact p.pairs_evalLast (hforms.imp fun _ _ hform => htop hform)
    (h.values.plain Value.isPlain_null)

end Closed

/-- The pairing holds of the steps of the machine, taken on both sides with the same forms of a kind
and with the same values, in which all functions have bodies of that kind. -/
structure Uniform (P : Form → Prop) (bounds bounds' : Bounds) : Prop where
  call : ∀ items, P (.call items) → ∀ item ∈ items, P item
  list : ∀ items, P (.list items) → ∀ item ∈ items, P item
  lookup : ∀ token, P (.word token) →
    p.Pairs (Twice (Value.Carries P)) (lookup token.value) (lookup token.value)
  makeFunction : ∀ token parameters body, P (.function token parameters body) → ∀ names,
    p.Pairs (Twice (Value.Carries P)) (makeFunction names body) (makeFunction names body)
  define : ∀ (name : String) {value : Value}, value.Carries P →
    p.Pairs (fun _ _ => True) (define name value) (define name value)
  raise : ∀ values, p.Pairs (fun _ _ => True) (raise values) (raise values)
  framed : ∀ (parameters : List String) {arguments : List Value} {left : Eval ω Value}
    {right : Eval ω' Value}, (∀ argument ∈ arguments, argument.Carries P) →
    p.Pairs (Twice (Value.Carries P)) left right →
    p.Pairs (Twice (Value.Carries P))
      (do checkCalls bounds; inFrame (Frame.ofArguments parameters arguments) left)
      (do checkCalls bounds'; inFrame (Frame.ofArguments parameters arguments) right)
  full : p.Pairs (Twice (Value.Carries P)) (throw (.nesting bounds.nesting))
    (throw (.nesting bounds'.nesting))

/-- What holds of the steps of the machine holds of the steps of evaluation: builtin functions hand
on the functions that they are given and make none. -/
theorem Uniform.closed {p : Pairing ω ω'} {P : Form → Prop} {bounds bounds' : Bounds}
    (h : p.Uniform P bounds bounds') :
    p.Closed (Twice P) (Twice (Value.Carries P)) bounds bounds' where
  forms := Form.correspondence_twice h.call h.list
  values := Value.correspondence_carries P
  full := h.full
  list := by
    intro values _ hvalues
    obtain ⟨hcarry, rfl⟩ := forall₂_twice.mp hvalues
    exact ⟨Value.carriesAll_iff.mpr hcarry, rfl⟩
  define := by
    rintro name value _ ⟨hvalue, rfl⟩
    exact h.define name hvalue
  builtin := by
    intro builtin arguments _ harguments
    obtain ⟨hcarry, rfl⟩ := forall₂_twice.mp harguments
    refine p.pairs_callBuiltin (fun values _ => h.raise values) fun value hvalue => ?_
    exact ⟨builtin.carries_answer hcarry hvalue, rfl⟩
  framed := by
    intro parameters arguments _ left right harguments hbody
    obtain ⟨hcarry, rfl⟩ := forall₂_twice.mp harguments
    exact h.framed parameters hcarry hbody
  atom := by
    rintro form _ ⟨hform, rfl⟩ hgroup allowance
    refine p.pairs_eval_atom hgroup (fun hplain => ⟨hplain.carries, rfl⟩) ?_ ?_ allowance allowance
    · rintro token rfl
      exact h.lookup token hform
    · rintro token parameters body rfl
      exact h.makeFunction token parameters body hform

end Pairing

end Eval

end Workbench
