import Workbench.Json.Basic
import Workbench.Text.Quoted

/-!
The readiness of an engine. It starts uninitialized; an attempt to initialize it ends ready or
failed; shutting it down is final.
-/

namespace Workbench.Engine

/-- The readiness of an engine. -/
inductive Status where
  | uninitialized
  /-- An attempt is in progress. -/
  | initializing
  /-- Runs are accepted. -/
  | ready
  /-- The last attempt failed, and another one may be made. -/
  | failed (reason : String)
  | shutDown
  deriving DecidableEq, Inhabited

namespace Status

/-- Whether runs are accepted. -/
def isReady : Status → Bool
  | .ready => true
  | _ => false

/-- The status as users see it. -/
def render : Status → String
  | .uninitialized => "uninitialized"
  | .initializing => "initializing"
  | .ready => "ready"
  | .failed reason => "failed: " ++ reason
  | .shutDown => "shut down"

/-- The status as programmers see it. -/
def debug : Status → String
  | .uninitialized => "Uninitialized"
  | .initializing => "Initializing"
  | .ready => "Ready"
  | .failed reason => "Failed(" ++ Text.quoted reason ++ ")"
  | .shutDown => "ShutDown"

/-- The document of a status: an object with the field `status`, and `reason` if there is one. -/
def toJson : Status → Json
  | .uninitialized => .object [("status", .str "uninitialized")]
  | .initializing => .object [("status", .str "initializing")]
  | .ready => .object [("status", .str "ready")]
  | .failed reason => .object [("status", .str "failed"), ("reason", .str reason)]
  | .shutDown => .object [("status", .str "shut_down")]

/-- The status without a reason that a name stands for. -/
def ofName? : String → Option Status
  | "uninitialized" => some .uninitialized
  | "initializing" => some .initializing
  | "ready" => some .ready
  | "shut_down" => some .shutDown
  | _ => none

/-- The status that a document describes. A status that has no reason may give it as `null`. -/
def ofJson? (document : Json) : Option Status := do
  match ← document.tagged? "status" "reason" with
  | ("failed", some (.str reason)) => some (.failed reason)
  | (name, none) => ofName? name
  | (name, some .null) => ofName? name
  | _ => none

end Status

end Workbench.Engine
