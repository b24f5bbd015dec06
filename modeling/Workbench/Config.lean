import Workbench.Json.Printer
import Workbench.Json.Reader
import Workbench.Program

/-!
The configuration of a session and the file it is kept in. A file is a JSON document that gives any
of the five fields; what it leaves out has its default. A configuration that has been read is also
checked: the limits and the capacity have to be at least one, and the first field that is zero is
reported.
-/

namespace Workbench

/-- The configuration of a session. -/
structure Config where
  /-- Whether the result of each successful run is added to the messages. -/
  echoResult : Bool := false
  /-- How many function calls may be nested in a run. -/
  maxCallDepth : UInt64 := 256
  /-- How deeply brackets may be nested in a source text. -/
  maxNestingDepth : UInt64 := 256
  /-- How many change events are kept for a slow subscriber. -/
  eventCapacity : UInt64 := 256
  /-- Whether to log in detail. -/
  debug : Bool := false
  deriving DecidableEq, Inhabited

namespace Config

/-- The limits of the runs of a session. -/
def limits (config : Config) : Limits :=
  ⟨config.maxCallDepth.toNat, config.maxNestingDepth.toNat⟩

/-! ### Checking -/

/-- The fields that must not be zero. -/
inductive Field where
  | maxCallDepth
  | maxNestingDepth
  | eventCapacity
  deriving DecidableEq

/-- The name of a field in a file. -/
def Field.name : Field → String
  | .maxCallDepth => "max_call_depth"
  | .maxNestingDepth => "max_nesting_depth"
  | .eventCapacity => "event_capacity"

/-- Why there is no configuration. -/
inductive Error where
  /-- The file is missing or is not text. -/
  | unreadable
  /-- The text is not a configuration. -/
  | malformed
  /-- A field is zero. -/
  | zero (field : Field)
  deriving DecidableEq

/-- What is wrong with a field, in words. -/
def Field.complaint (field : Field) : String :=
  "Invalid value for " ++ field.name ++ ": must be at least 1"

/-- What is wrong, in words. -/
def Error.message : Error → String
  | .unreadable => "IO error"
  | .malformed => "JSON error"
  | .zero field => field.complaint

/-- The first field that is zero and must not be. -/
def zeroField? (config : Config) : Option Field :=
  if config.maxCallDepth = 0 then some .maxCallDepth
  else if config.maxNestingDepth = 0 then some .maxNestingDepth
  else if config.eventCapacity = 0 then some .eventCapacity
  else none

/-- The configuration, if nothing in it is zero that must not be. -/
def validate (config : Config) : Except Error Config :=
  match config.zeroField? with
  | some field => .error (.zero field)
  | none => .ok config

/-! ### Documents -/

/-- The names of the fields in a file, in order. -/
def fieldNames : List String :=
  ["echo_result", "max_call_depth", "max_nesting_depth", "event_capacity", "debug"]

/-- The document of a configuration. -/
def toJson (config : Config) : Json :=
  .object [("echo_result", .bool config.echoResult),
    ("max_call_depth", .nat config.maxCallDepth.toNat),
    ("max_nesting_depth", .nat config.maxNestingDepth.toNat),
    ("event_capacity", .nat config.eventCapacity.toNat), ("debug", .bool config.debug)]

/-- A field that may be left out. -/
def fieldOr {α : Type} (decode : Json → Option α) (default : α) : Option Json → Option α
  | some document => decode document
  | none => some default

/-- A number of 64 bits. -/
def number? (document : Json) : Option UInt64 :=
  document.word?.map UInt64.ofNat

/-- The configuration that a document describes. -/
def ofJson? (document : Json) : Option Config := do
  let default : Config := {}
  match ← document.sparseRecord? fieldNames with
  | [echoResult, maxCallDepth, maxNestingDepth, eventCapacity, debug] =>
      pure {
        echoResult := ← fieldOr Json.bool? default.echoResult echoResult
        maxCallDepth := ← fieldOr number? default.maxCallDepth maxCallDepth
        maxNestingDepth := ← fieldOr number? default.maxNestingDepth maxNestingDepth
        eventCapacity := ← fieldOr number? default.eventCapacity eventCapacity
        debug := ← fieldOr Json.bool? default.debug debug }
  | _ => none

/-! ### Files -/

/-- The configuration that a text spells, unchecked. -/
def read (text : String) : Except Error Config :=
  match (Json.read? text).bind ofJson? with
  | some config => .ok config
  | none => .error .malformed

/-- The configuration in a file, checked. The file may be missing, and it may not be text. -/
def load (file : Option ByteArray) : Except Error Config :=
  match file.bind String.fromUTF8? with
  | none => .error .unreadable
  | some text => do (← read text).validate

/-- The text of the file in which a configuration is kept. -/
def save (config : Config) : String := config.toJson.pretty

end Config

end Workbench
