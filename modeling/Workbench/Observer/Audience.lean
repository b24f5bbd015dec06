import Workbench.Observer.Reaction

/-!
Audiences: the observers of print events, in a world that they can act on. Dispatching an event
calls every observer that was registered when the event began, in order, unless an earlier one of
the same event has removed it. What an observer does, it does to the world while the event is being
dispatched, and it may dispatch further events; so an observer can call itself without end. A step
in the world therefore either ends or, when events are nested more deeply than was allowed for,
has no result.
-/

namespace Workbench

namespace Audience

/-- An observer that is not part of the program, and how often it has been called. -/
structure Guest (α β : Type) where
  behaviour : Behaviour α β
  calls : Nat := 0

/-- What a guest has done. -/
inductive Feat (α β : Type) where
  | noted (text : String)
  | acted (action : α) (answer : β)

/-- What a guest has done on one of its calls. -/
structure Credit (α β : Type) where
  guest : Nat
  call : Nat
  feat : Feat α β

end Audience

/-- The observers of print events: who is registered, the guests by number, and what the guests have
done, in the order in which it was done. -/
structure Audience (η α β : Type) where
  registry : Registry η := {}
  guests : Array (Audience.Guest α β) := #[]
  credits : Array (Audience.Credit α β) := #[]

/-- A world with an audience. -/
class HasAudience (σ : Type) (η α β : outParam Type) where
  audience : σ → Audience η α β
  withAudience : σ → Audience η α β → σ

/-- A step in a world. Without a result, events were nested more deeply than was allowed for. -/
abbrev Act (σ : Type) := StateT σ Option

namespace Audience

variable {σ η α β : Type} [DecidableEq η] [HasAudience σ η α β]

/-- Changes the audience. -/
def update (f : Audience η α β → Audience η α β) : Act σ Unit :=
  modify fun world => HasAudience.withAudience world (f (HasAudience.audience world))

/-- The registry. -/
def registryNow : Act σ (Registry η) := do
  return (HasAudience.audience (← get)).registry

/-- Changes the registry. -/
def setRegistry (registry : Registry η) : Act σ Unit :=
  update fun audience => { audience with registry := registry }

/-- Performs an operation of the registry that has an answer. -/
def onRegistry {γ : Type} (f : Registry η → γ × Registry η) : Act σ γ := do
  let (answer, registry) := f (← registryNow)
  setRegistry registry
  return answer

/-! ### Calls of guests -/

/-- One more guest, and its number. -/
def invite (behaviour : Behaviour α β) : Act σ Nat := do
  let number := (HasAudience.audience (← get)).guests.size
  update fun audience => { audience with guests := audience.guests.push { behaviour := behaviour } }
  return number

/-- Credits a guest with something it has done. -/
def credit (guest call : Nat) (feat : Feat α β) : Act σ Unit :=
  update fun audience => { audience with credits := audience.credits.push ⟨guest, call, feat⟩ }

/-- A reaction, where `perform` says what actions do. -/
def react (perform : α → Act σ β) (guest call : Nat) : Reaction α β → Act σ Verdict
  | .finish verdict => pure verdict
  | .note text next => do
      credit guest call (.noted text)
      react perform guest call next
  | .act action next => do
      let answer ← perform action
      credit guest call (.acted action answer)
      react perform guest call (next answer)

/-- A call of a guest. A guest that there is not accepts everything. -/
def callGuest (perform : α → Act σ β) (values : List Value) (number : Nat) : Act σ Verdict := do
  match (HasAudience.audience (← get)).guests[number]? with
  | none => return .accepted
  | some guest =>
      let call := guest.calls + 1
      update fun audience =>
        { audience with guests := audience.guests.setIfInBounds number { guest with calls := call } }
      react perform number call (guest.behaviour call values)

/-! ### Events -/

/-- Calls the observers of an event that are still registered, in order. -/
def deliver (call : η → Act σ Verdict) :
    List (Registry.Entry η) → Registry.Report → Act σ Registry.Report
  | [], report => pure report
  | entry :: rest, report => do
      if (← registryNow).contains entry.id then
        match (← call entry.observer).complaint? with
        | none => deliver call rest { report with delivered := report.delivered ++ [entry.id] }
        | some message =>
            setRegistry (← registryNow).countFailure
            deliver call rest { report with failures := report.failures ++ [⟨entry.id, message⟩] }
      else deliver call rest report

/-- Dispatches an event, where `call` says what a call of an observer with the event does. -/
def dispatch (call : η → Act σ Verdict) : Act σ Registry.Report := do
  setRegistry (← registryNow).countEvent
  deliver call (← registryNow).entries {}

end Audience

/-! ### Operations on the registry -/

namespace Registry

/-- The operations on a registry. -/
inductive Op (η : Type) where
  | register (observer : η)
  | unregister (id : ObserverId)
  | unregisterObserver (observer : η)
  | contains (id : ObserverId)
  | clear
  | dispatch (values : List Value)
  /-- Dispatches an event without asking what came of it. -/
  | print (values : List Value)
  /-- Asks for the text of the registry. -/
  | debug

/-- The answers of the operations. -/
inductive Answer where
  | id (id : ObserverId)
  | flag (flag : Bool)
  | count (count : Nat)
  | report (report : Report)
  | text (text : String)
  | done

/-- Performs an operation, where `dispatch` says what dispatching an event does. -/
def Op.perform {σ η α β : Type} [DecidableEq η] [HasAudience σ η α β]
    (dispatch : List Value → Act σ Report) : Op η → Act σ Answer
  | .register observer => return .id (← Audience.onRegistry fun registry =>
      registry.register observer)
  | .unregister id => return .flag (← Audience.onRegistry fun registry => registry.unregister id)
  | .unregisterObserver observer => return .flag (← Audience.onRegistry fun registry =>
      registry.unregisterObserver observer)
  | .contains id => return .flag ((← Audience.registryNow).contains id)
  | .clear => return .count (← Audience.onRegistry Registry.clear)
  | .dispatch values => return .report (← dispatch values)
  | .print values => do
      let _ ← dispatch values
      return .done
  | .debug => return .text (← Audience.registryNow).debug

/-! ### A registry by itself -/

/-- The world of a registry by itself, in which every observer is a guest. -/
abbrev Solo := Audience Nat (Op Nat) Answer

instance : HasAudience Solo Nat (Op Nat) Answer where
  audience := id
  withAudience _ audience := audience

/-- Dispatches an event in a world of nothing but a registry. Events may be nested as deeply as the
first argument says. -/
def Solo.dispatch : Nat → List Value → Act Solo Report
  | 0, _ => failure
  | depth + 1, values =>
      Audience.dispatch (Audience.callGuest (Op.perform (dispatch depth)) values)

/-- Performs an operation in a world of nothing but a registry. -/
def Solo.perform (depth : Nat) (op : Op Nat) : Act Solo Answer :=
  op.perform (Solo.dispatch depth)

end Registry

end Workbench
