import Workbench.Proofs.Evaluator.Journal
import Workbench.Proofs.Form.Seam

/-!
# A program in pieces

An evaluator that is kept can be given a program piece by piece. **Theorem**
(`Program.evalProgram_pieces`): if two texts are programs and the second one has a form, the text
that has the first one, a line feed and the second one is a program, and evaluating it is evaluating
the first program and then, if that was successful, the second one with what the first has left. The
value of the second program, the print events of both in order and the bindings afterwards are the
same up to the places in the bodies of functions. If the first program fails, everything is exactly
the same; if the second one does, the failure is the same up to places.

That the text is a program of the forms of both is `Form.parse_lines`. The places of the forms of
the second program are further down there than by themselves, and that does not matter because both
are compared with the forms without places (`Eval.resumed_of_unplaced_eq`).
-/

namespace Workbench

namespace Eval

variable {ω : Type}

/-! ### Forms one after the other -/

/-- Forms are evaluated one after the other, and the value of the last one is that of all. -/
theorem evalLast_append (inside : Form → Eval ω Value) (last : Value) (forms forms' : List Form) :
    evalLast inside last (forms ++ forms') =
      evalLast inside last forms >>= fun value => evalLast inside value forms' := by
  induction forms generalizing last with
  | nil => rfl
  | cons form rest ih =>
      rw [List.cons_append, evalLast, evalLast, bind_assoc]
      exact congrArg (inside form >>= ·) (funext fun value => ih value)

/-- The value before the first of some forms is forgotten. -/
theorem evalLast_of_ne_nil (inside : Form → Eval ω Value) (last last' : Value) {forms : List Form}
    (h : forms ≠ []) : evalLast inside last forms = evalLast inside last' forms := by
  cases forms with
  | nil => exact absurd rfl h
  | cons form rest => rfl

/-- The forms of a program after those of another one. -/
theorem evalProgram_append (bounds : Bounds) (forms : List Form) {forms' : List Form}
    (h : forms' ≠ []) :
    (evalProgram bounds (.call (forms ++ forms')) : Eval ω Value) =
      evalProgram bounds (.call forms) >>= fun _ => evalProgram bounds (.call forms') := by
  rw [evalProgram, evalLast_append]
  exact congrArg (evalLast (evalTop bounds) .null forms >>= ·)
    (funext fun value => evalLast_of_ne_nil _ value .null h)

/-! ### Up to places -/

/-- The first events go on after `before` with events that are the second ones up to places. -/
def Resumes (before : List (List Value)) (events events' : Array (List Value)) : Prop :=
  ∃ later, events.toList = before ++ later ∧ events'.toList = later.map (·.map Value.unplaced)

/-- A machine that records its print events, and the same machine without places that has yet
nothing to record. -/
theorem forgets_recording (scope : Scope) (stamp : Nat) (events : Array (List Value)) :
    Machine.Forgets (Resumes events.toList) ⟨scope, stamp, record, events⟩
      ⟨scope.unplaced, stamp, record, #[]⟩ where
  scope := rfl
  stamp := rfl
  world := ⟨[], (List.append_nil _).symm, rfl⟩
  sink := by
    rintro values w w' ⟨later, hw, hw'⟩
    refine ⟨later ++ [values], ?_, ?_⟩
    · simp only [record, Array.toList_push, hw, List.append_assoc]
    · simp only [record, Array.toList_push, hw', List.map_append, List.map_cons, List.map_nil]

/-- What a machine shows and leaves when it has already recorded `before` is, up to places, what
another one does that has not recorded anything. -/
structure Resumed (before : List (List Value))
    (left right : Except Failure Value × Machine (Array (List Value))) : Prop where
  answer : SameAnswer left.1 right.1
  events : ∃ later, left.2.world.toList = before ++ later ∧
    later.map (·.map Value.unplaced) = right.2.world.toList.map (·.map Value.unplaced)
  scope : left.2.scope.unplaced = right.2.scope.unplaced
  stamp : left.2.stamp = right.2.stamp

/-- **Two programs that are the same up to places**, evaluated in the same scope. -/
theorem resumed_of_unplaced_eq (bounds : Bounds) {form form' : Form}
    (hform : form.unplaced = form'.unplaced) (scope : Scope) (stamp : Nat)
    (events : Array (List Value)) :
    Resumed events.toList (evalProgram bounds form ⟨scope, stamp, record, events⟩)
      (evalProgram bounds form' ⟨scope, stamp, record, #[]⟩) := by
  obtain ⟨hanswer, hafter⟩ :=
    placeless_evalProgram bounds form (forgets_recording scope stamp events)
  obtain ⟨hanswer', hafter'⟩ :=
    placeless_evalProgram bounds form' (forgets_recording scope stamp #[])
  rw [← hform] at hanswer' hafter'
  obtain ⟨later, hworld, hlater⟩ := hafter.world
  obtain ⟨all, hworld', hall⟩ := hafter'.world
  rw [List.nil_append] at hworld'
  refine ⟨sameAnswer_of_alike hanswer hanswer', ⟨later, hworld, ?_⟩, ?_, ?_⟩
  · rw [hworld', ← hall, hlater]
  · rw [← hafter.scope, ← hafter'.scope]
  · rw [← hafter.stamp, ← hafter'.stamp]

end Eval

/-! ### Pieces -/

namespace Program

open Eval

/-- What the evaluation of a whole program shows and leaves is, up to places, what two evaluations
do of which the second one goes on with what the first one has left. The texts of the print events
are the same as they are. -/
structure InPieces (one two whole : Outcome × Machine (Array (List Value))) : Prop where
  result : SameAnswer whole.1.result two.1.result
  events : ∃ later, whole.1.events = one.1.events ++ later ∧
    later.map (·.map Value.unplaced) = two.1.events.map (·.map Value.unplaced)
  texts : whole.1.events.map (·.map Value.render) =
    (one.1.events ++ two.1.events).map (·.map Value.render)
  scope : whole.2.scope.unplaced = two.2.scope.unplaced
  stamp : whole.2.stamp = two.2.stamp

/-- Print events that are the same up to places have the same texts. -/
theorem texts_of_unplaced_eq {events events' : List (List Value)}
    (h : events.map (·.map Value.unplaced) = events'.map (·.map Value.unplaced)) :
    events.map (·.map Value.render) = events'.map (·.map Value.render) := by
  rw [← render_events_unplaced events, h, render_events_unplaced]

/-- Evaluating some forms and then others, which may be taken from another text. -/
theorem perform_pieces (bounds : Bounds) (scope : Scope) (stamp : Nat) (forms : List Form)
    {later later' : List Form} (hsome : later ≠ [])
    (hsame : (Form.call later).unplaced = (Form.call later').unplaced) :
    let start : Machine (Array (List Value)) := ⟨scope, stamp, record, #[]⟩
    let one := start.perform (evalProgram bounds (.call forms))
    let all := start.perform (evalProgram bounds (.call (forms ++ later)))
    (∀ failure, one.1.result = .error failure → all = one) ∧
    ∀ value, one.1.result = .ok value →
      InPieces one (one.2.perform (evalProgram bounds (.call later'))) all := by
  intro start one all
  have hsink : (evalProgram bounds (.call forms) start).2.sink = record := sink_evalProgram ..
  have hone : one = (⟨(evalProgram bounds (.call forms) start).1,
      (evalProgram bounds (.call forms) start).2.world.toList⟩,
      { (evalProgram bounds (.call forms) start).2 with world := #[] }) := rfl
  have hall : evalProgram bounds (.call (forms ++ later)) start =
      ExceptT.bindCont (fun _ => evalProgram bounds (.call later))
        (evalProgram bounds (.call forms) start).1 (evalProgram bounds (.call forms) start).2 := by
    rw [evalProgram_append bounds forms hsome]
    rfl
  have hwhole : all = (⟨(evalProgram bounds (.call (forms ++ later)) start).1,
      (evalProgram bounds (.call (forms ++ later)) start).2.world.toList⟩,
      { (evalProgram bounds (.call (forms ++ later)) start).2 with world := #[] }) := rfl
  rw [hall] at hwhole
  -- Only the sink of what the first forms have left matters from here on.
  generalize evalProgram bounds (.call forms) start = left at hsink hone hwhole
  obtain ⟨outcome, scope', stamp', sink', world'⟩ := left
  cases hsink
  constructor
  · intro failure hfailure
    rw [hone] at hfailure
    cases hfailure
    rw [hwhole, hone]
    rfl
  · intro value hvalue
    rw [hone] at hvalue
    cases hvalue
    have hresumed := resumed_of_unplaced_eq bounds hsame scope' stamp' world'
    obtain ⟨rest, hrest, hsame⟩ := hresumed.events
    rw [hwhole, hone]
    refine ⟨hresumed.answer, ⟨rest, hrest, hsame⟩, ?_, hresumed.scope, hresumed.stamp⟩
    change (evalProgram bounds (.call later) ⟨scope', stamp', record, world'⟩).2.world.toList.map
      (·.map Value.render) = _
    rw [hrest, List.map_append, List.map_append, texts_of_unplaced_eq hsame]
    rfl

/-- **A program in pieces.** Two texts that are programs, of which the second has a form, make a
program when the second stands on the lines after the first: it has the forms of the first and then
those of the second, further down by the lines of the first. A kept evaluator, whatever its frames,
that is given the whole program does what it does when it is given the first one and then, unless
that fails, the second one. -/
theorem evalProgram_pieces {limit : Nat} {first second : String} {forms forms' : List Form}
    (hfirst : Form.parse limit (Token.tokenize first) = .ok (.call forms))
    (hsecond : Form.parse limit (Token.tokenize second) = .ok (.call forms'))
    (hsome : forms' ≠ []) :
    let whole := forms ++ forms'.map (Form.lower (1 + first.toList.count '\n'))
    Form.parse limit (Token.tokenize (first ++ "\n" ++ second)) = .ok (.call whole) ∧
    ∀ (bounds : Bounds) (scope : Scope) (stamp : Nat),
      let start : Machine (Array (List Value)) := ⟨scope, stamp, record, #[]⟩
      let one := start.perform (evalProgram bounds (.call forms))
      let all := start.perform (evalProgram bounds (.call whole))
      (∀ failure, one.1.result = .error failure → all = one) ∧
      ∀ value, one.1.result = .ok value →
        InPieces one (one.2.perform (evalProgram bounds (.call forms'))) all := by
  intro whole
  have hparse := Form.parse_lines hfirst hsecond
  rw [Form.lowerAll_eq_map] at hparse
  refine ⟨hparse, fun bounds scope stamp => perform_pieces bounds scope stamp forms ?_ ?_⟩
  · exact fun hnil => hsome (List.map_eq_nil_iff.mp hnil)
  · rw [← Form.lowerAll_eq_map]
    exact Form.unplaced_lower _ (.call forms')

/-- The first text ends in an open comment, and the second one calls what the first one defines. -/
theorem evalProgram_pieces_called :
    ∃ forms forms', Form.parse 4 (Token.tokenize "(def f (fn [x] x)) ;") = .ok (.call forms) ∧
      Form.parse 4 (Token.tokenize "(f a)") = .ok (.call forms') ∧ forms' ≠ [] ∧
      Form.parse 4 (Token.tokenize ("(def f (fn [x] x)) ;" ++ "\n" ++ "(f a)")) =
        .ok (.call (forms ++ forms'.map (Form.lower 1))) ∧
      let start : Machine (Array (List Value)) := ⟨{ top := Frame.standard }, 0, record, #[]⟩
      let one := start.perform (evalProgram {} (.call forms))
      ∃ value, one.1.result = .ok value ∧
      InPieces one (one.2.perform (evalProgram {} (.call forms')))
        (start.perform (evalProgram {} (.call (forms ++ forms'.map (Form.lower 1))))) := by
  obtain ⟨forms, hfirst⟩ : ∃ forms,
      Form.parse 4 (Token.tokenize "(def f (fn [x] x)) ;") = .ok (.call forms) := ⟨_, rfl⟩
  obtain ⟨form, rest, hsecond⟩ : ∃ form rest,
      Form.parse 4 (Token.tokenize "(f a)") = .ok (.call (form :: rest)) := ⟨_, _, rfl⟩
  have hok : (Form.parse 4 (Token.tokenize "(def f (fn [x] x)) ;")).toOption.all (fun root =>
      (Machine.perform ⟨{ top := Frame.standard }, 0, record, #[]⟩
        (evalProgram {} root)).1.result.isOk) = true := by decide +kernel
  rw [hfirst] at hok
  obtain ⟨hparse, hrun⟩ := evalProgram_pieces hfirst hsecond (List.cons_ne_nil _ _)
  refine ⟨forms, form :: rest, hfirst, hsecond, List.cons_ne_nil _ _, hparse, ?_⟩
  have hlater := (hrun {} { top := Frame.standard } 0).2
  intro start one
  cases hone : one.1.result with
  | error failure =>
      change one.1.result.isOk = true at hok
      rw [hone] at hok
      cases hok
  | ok value => exact ⟨value, rfl, hlater value hone⟩

end Program

end Workbench
