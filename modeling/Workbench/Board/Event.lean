import Workbench.Json.Basic

/-!
Change events: what a board tells its subscribers. Runs are named by values of any type; the
documents of events are given for any way of writing these names.
-/

namespace Workbench.Board

/-- A change of a board. -/
inductive Event (ρ : Type) where
  /-- The artifacts are now those of a run. -/
  | artifactsReplaced (run : ρ)
  /-- A message was added at an index. -/
  | messageAppended (index : Nat)
  /-- The messages are gone. -/
  | messagesCleared
  /-- A run failed. -/
  | runFailed (run : ρ)
  deriving DecidableEq

namespace Event

variable {ρ : Type}

/-- The document of an event: an object whose field `event` names the change. -/
def toJson (name : ρ → Json) : Event ρ → Json
  | .artifactsReplaced run =>
      .object [("event", .str "artifacts_replaced"), ("run_id", name run)]
  | .messageAppended index => .object [("event", .str "message_appended"), ("index", .nat index)]
  | .messagesCleared => .object [("event", .str "messages_cleared")]
  | .runFailed run => .object [("event", .str "run_failed"), ("run_id", name run)]

/-- The name of the change and the rest of the document: an object without the field that names it,
or a list without its first element. -/
def split? : Json → Option (String × Json)
  | .object fields =>
      match Json.valuesOf "event" fields with
      | [.str change] => some (change, .object (fields.filter fun field => field.1 ≠ "event"))
      | _ => none
  | .list (.str change :: rest) => some (change, .list rest)
  | _ => none

/-- The event that a document describes. -/
def ofJson? (run? : Json → Option ρ) (document : Json) : Option (Event ρ) := do
  let (change, rest) ← split? document
  match change with
  | "artifacts_replaced" =>
      match ← rest.record? ["run_id"] with
      | [run] => return .artifactsReplaced (← run? run)
      | _ => none
  | "message_appended" =>
      match ← rest.record? ["index"] with
      | [index] => return .messageAppended (← index.word?)
      | _ => none
  | "messages_cleared" =>
      match rest with
      | .list (_ :: _) => none
      | _ => return .messagesCleared
  | "run_failed" =>
      match ← rest.record? ["run_id"] with
      | [run] => return .runFailed (← run? run)
      | _ => none
  | _ => none

end Event

end Workbench.Board
