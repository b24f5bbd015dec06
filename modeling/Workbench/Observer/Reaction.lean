import Workbench.Observer.Registry

/-!
What observers do with an event. A reaction is a tree: the observer notes something, or performs an
action and goes on depending on the answer, and in the end gives its verdict. So one call of an
observer performs finitely many actions, whatever the answers are. What an observer does may depend
on how often it has been called.
-/

namespace Workbench

/-- A reaction to an event, with actions of type `α` and answers of type `β`. -/
inductive Reaction (α β : Type) where
  | finish (verdict : Verdict)
  /-- Notes a text, then goes on. -/
  | note (text : String) (next : Reaction α β)
  /-- Performs an action, then goes on with its answer. -/
  | act (action : α) (next : β → Reaction α β)

/-- What an observer does on each call, given the number of the call, counted from one, and the
values of the event. -/
abbrev Behaviour (α β : Type) := Nat → List Value → Reaction α β

/-! ### Scripted observers -/

namespace Script

/-- A line of a script. -/
inductive Deed (α : Type) where
  /-- Notes the message of the event. -/
  | note
  | act (action : α)
  /-- Ends the reaction with a verdict. -/
  | finish (verdict : Verdict)

/-- A deed, for all calls or only for those with the given numbers. -/
structure Line (α : Type) where
  calls : Option (List Nat) := none
  deed : Deed α

/-- Whether a line is meant for a call. -/
def Line.isFor {α : Type} (line : Line α) (call : Nat) : Bool :=
  match line.calls with
  | some calls => calls.contains call
  | none => true

end Script

/-- A script: what an observer does, in order, whatever the answers are. -/
abbrev Script (α : Type) := List (Script.Line α)

/-- The reaction to an event that deeds spell out; when they are done the event is accepted. -/
def Script.reaction {α β : Type} (values : List Value) : List (Script.Deed α) → Reaction α β
  | [] => .finish .accepted
  | .note :: rest => .note (Value.message values) (reaction values rest)
  | .act action :: rest => .act action fun _ => reaction values rest
  | .finish verdict :: _ => .finish verdict

/-- The behaviour that a script describes. -/
def Script.behaviour {α β : Type} (script : Script α) : Behaviour α β := fun call values =>
  Script.reaction values ((script.filter fun line => line.isFor call).map Script.Line.deed)

end Workbench
