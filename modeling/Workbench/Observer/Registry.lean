import Workbench.Engine.Basic

/-!
Registries of observers. An observer is registered under an identifier that is never used again, and
an observer that is registered already keeps the one it has. Identifiers count up from one, so the
order of the entries is the order of their identifiers. The registry also counts the print events
that were dispatched and the observers that failed on one.
-/

namespace Workbench

/-- The identifier of a registered observer. -/
structure ObserverId where
  number : Nat
  deriving DecidableEq

namespace ObserverId

/-- The identifier as users see it. -/
def render (id : ObserverId) : String := "observer#" ++ toString id.number

/-- The identifier as programmers see it. -/
def debug (id : ObserverId) : String := "ObserverId(" ++ toString id.number ++ ")"

/-- The document of an identifier. -/
def toJson (id : ObserverId) : Json := .nat id.number

/-- The identifier that a document describes. -/
def ofJson? (document : Json) : Option ObserverId := document.word?.map ObserverId.mk

end ObserverId

/-- How an observer took an event. -/
inductive Verdict where
  | accepted
  | failed (message : String)
  | crashed (crash : Crash)
  deriving DecidableEq

/-- What is reported of an observer that did not accept an event. -/
def Verdict.complaint? : Verdict → Option String
  | .accepted => none
  | .failed message => some message
  | .crashed crash => some ("panicked: " ++ crash.message)

/-- The failure of an observer on an event. -/
structure Complaint where
  observer : ObserverId
  message : String
  deriving DecidableEq

/-- The failure in words. -/
def Complaint.render (complaint : Complaint) : String :=
  "observer " ++ complaint.observer.render ++ " failed: " ++ complaint.message

namespace Registry

/-- An observer and its identifier. -/
structure Entry (η : Type) where
  id : ObserverId
  observer : η
  deriving DecidableEq

/-- What came of an event. -/
structure Report where
  /-- The observers that accepted it, in order. -/
  delivered : List ObserverId := []
  /-- The observers that did not, in order. -/
  failures : List Complaint := []
  deriving DecidableEq

/-- Whether no observer failed. -/
def Report.isClean (report : Report) : Bool := report.failures.isEmpty

end Registry

/-- A registry of observers, which are told apart by values of type `η`. -/
structure Registry (η : Type) where
  /-- The registered observers, in the order in which events reach them. -/
  entries : List (Registry.Entry η) := []
  /-- The number of the next identifier. -/
  nextId : Nat := 1
  /-- How many events have been dispatched. The program counts them in a word of sixty-four bits,
  which is this number as long as it is less than `2 ^ 64` (`CountersFit`). -/
  events : Nat := 0
  /-- How many times an observer failed, counted in the same way. -/
  failures : Nat := 0

namespace Registry

variable {η : Type} [DecidableEq η]

/-- The identifiers of the registered observers, in order. -/
def ids (registry : Registry η) : List ObserverId := registry.entries.map Entry.id

/-- The entry of an observer. -/
def find? (registry : Registry η) (observer : η) : Option (Entry η) :=
  registry.entries.find? fun entry => entry.observer = observer

/-- Whether an identifier is in use. -/
def contains (registry : Registry η) (id : ObserverId) : Bool :=
  registry.entries.any fun entry => entry.id = id

/-- Registers an observer and answers its identifier. -/
def register (registry : Registry η) (observer : η) : ObserverId × Registry η :=
  match registry.find? observer with
  | some entry => (entry.id, registry)
  | none =>
      let id : ObserverId := ⟨registry.nextId⟩
      (id, { registry with
        entries := registry.entries ++ [⟨id, observer⟩], nextId := registry.nextId + 1 })

/-- Removes the observer of an identifier; answers whether there was one. -/
def unregister (registry : Registry η) (id : ObserverId) : Bool × Registry η :=
  (registry.contains id,
    { registry with entries := registry.entries.filter fun entry => entry.id ≠ id })

/-- Removes an observer; answers whether it was registered. -/
def unregisterObserver (registry : Registry η) (observer : η) : Bool × Registry η :=
  match registry.find? observer with
  | some entry => registry.unregister entry.id
  | none => (false, registry)

/-- Removes all observers and answers how many there were. -/
def clear (registry : Registry η) : Nat × Registry η :=
  (registry.entries.length, { registry with entries := [] })

/-- One more event. -/
def countEvent (registry : Registry η) : Registry η :=
  { registry with events := registry.events + 1 }

/-- One more failure. -/
def countFailure (registry : Registry η) : Registry η :=
  { registry with failures := registry.failures + 1 }

/-- The text of a registry for programmers. -/
def debug (registry : Registry η) : String :=
  "CallbackRegistry \x7b observers: ["
    ++ Text.joinWith ", " (registry.ids.map ObserverId.debug) ++ "], events: "
    ++ toString registry.events ++ ", failures: " ++ toString registry.failures ++ " \x7d"

end Registry

end Workbench
