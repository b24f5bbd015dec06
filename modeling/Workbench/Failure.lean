import Workbench.Fault
import Workbench.Form.Parser

/-!
Failures: how a program can end without a result. It may not be a program at all, it may be at
fault, or it may run into one of the two limits of evaluation.
-/

namespace Workbench

/-- How a program can fail. -/
inductive Failure where
  /-- The tokens are not a program. -/
  | parse (error : ParseError)
  /-- The program is at fault, in a top-level form that ends at the given place if it is known. -/
  | fault (cause : Fault) (ending : Option Position)
  /-- Function calls are nested more deeply than the limit. -/
  | callDepth (limit : Nat)
  /-- Groups under evaluation are nested more deeply than the limit. -/
  | nesting (limit : Nat)
  deriving DecidableEq

namespace Failure

/-- The failure with the end of the top-level form it happened in, if that matters and is not yet
known. -/
def endingAt (place : Option Position) : Failure → Failure
  | .fault cause none => .fault cause place
  | failure => failure

/-- What has failed, in words. -/
def message : Failure → String
  | .parse error => "syntax error at " ++ error.position.render ++ ": " ++ error.cause.message
  | .fault cause none => "evaluation error: " ++ cause.message
  | .fault cause (some place) =>
      "evaluation error: " ++ cause.message ++ " (in expression ending at " ++ place.render ++ ")"
  | .callDepth limit => "maximum call depth of " ++ toString limit ++ " exceeded"
  | .nesting limit => "maximum evaluation nesting of " ++ toString limit ++ " exceeded"

end Failure

end Workbench
