import Workbench.Console.Request
import Workbench.Text.Decimal

/-!
Reading the arguments of the command line. They are read from left to right into a draft: options of
the program, the name of a command, then options and arguments of the command, among which the
options that every command takes may stand as well. An argument that starts with a hyphen is an
option, a lone hyphen apart; a value belongs to its option behind an equals sign, behind the letter
of the option, or as the next argument. After two hyphens on their own there are no more options. No
option may be given twice in one of the two places.

A value that is an argument of its own is held back: it is looked at when the next option of the same
place is read, or when the arguments have ended. Asking for help ends the reading. So help on a
command, or the help command itself, is given even if the value right in front of the command is
none that its option can have, while an option that asks for help is read after the values before it.
-/

namespace Workbench.Console

/-! ### Options -/

/-- The options by name. -/
inductive Switch where
  | config
  | echoResult
  | maxCallDepth
  | maxNestingDepth
  | tokens
  | ast
  | json
  | help
  deriving DecidableEq

namespace Switch

/-- The name of an option. -/
def name : Switch → String
  | .config => "config"
  | .echoResult => "echo-result"
  | .maxCallDepth => "max-call-depth"
  | .maxNestingDepth => "max-nesting-depth"
  | .tokens => "tokens"
  | .ast => "ast"
  | .json => "json"
  | .help => "help"

/-- Whether an option has a value. -/
def takesValue : Switch → Bool
  | .config | .maxCallDepth | .maxNestingDepth => true
  | .echoResult | .tokens | .ast | .json | .help => false

/-- The options that stand everywhere. -/
def everywhere : List Switch :=
  [.config, .echoResult, .maxCallDepth, .maxNestingDepth, .help]

/-- The options of a run. -/
def ofRun : List Switch := [.tokens, .ast, .json]

end Switch

/-- The options of one place. -/
structure Settings where
  options : Options := {}
  details : Details := {}
  /-- The last option with its value, as long as the value is held back. -/
  held : Option (Switch × String) := none
  deriving DecidableEq

/-- A limit given as a value: a natural number below `2 ^ 64`, with a plus sign in front if wanted. -/
def limit? (value : String) : Option UInt64 :=
  let number := match value.toList with
    | '+' :: digits => Text.natural? digits
    | digits => Text.natural? digits
  number.bind fun n => if n < UInt64.size then some (UInt64.ofNat n) else none

/-- A path given as a value, which must not be empty. -/
def path? (value : String) : Option String :=
  if value = "" then none else some value

namespace Settings

/-- Whether an option has been given. -/
def has (settings : Settings) : Switch → Bool
  | .config => settings.options.config.isSome
  | .echoResult => settings.options.echoResult
  | .maxCallDepth => settings.options.maxCallDepth.isSome
  | .maxNestingDepth => settings.options.maxNestingDepth.isSome
  | .tokens => settings.details.tokens
  | .ast => settings.details.ast
  | .json => settings.details.json
  | .help => false

/-- The settings with one more option, if its value can be one of it. -/
def set? (settings : Settings) (switch : Switch) (value : String) : Option Settings :=
  match switch with
  | .config => do
      let path ← path? value
      return { settings with options := { settings.options with config := some path } }
  | .maxCallDepth => do
      let limit ← limit? value
      return { settings with options := { settings.options with maxCallDepth := some limit } }
  | .maxNestingDepth => do
      let limit ← limit? value
      return { settings with options := { settings.options with maxNestingDepth := some limit } }
  | .echoResult =>
      some { settings with options := { settings.options with echoResult := true } }
  | .tokens => some { settings with details := { settings.details with tokens := true } }
  | .ast => some { settings with details := { settings.details with ast := true } }
  | .json => some { settings with details := { settings.details with json := true } }
  | .help => some settings

/-- The settings with an option that must not have been given before. -/
def enter (settings : Settings) (switch : Switch) (value : String) : Except UsageError Settings :=
  if settings.has switch then .error (.repeated switch.name)
  else
    match settings.set? switch value with
    | some settings => .ok settings
    | none => .error (.invalidValue switch.name value)

/-- The settings with the option that is held back, if there is one. -/
def settle (settings : Settings) : Except UsageError Settings :=
  match settings.held with
  | none => .ok settings
  | some (switch, value) => { settings with held := none }.enter switch value

/-- Settings with nothing held back are settled. -/
theorem settle_of_held_eq_none {settings : Settings} (h : settings.held = none) :
    settings.settle = .ok settings := by
  rw [settle, h]

end Settings

/-! ### Arguments by their spelling -/

/-- What an argument is, by its spelling. -/
inductive Spelling where
  /-- Two hyphens and nothing else. -/
  | divider
  /-- Two hyphens and a name, with what stands behind the first equals sign. -/
  | long (name : String) (value : Option String)
  /-- A hyphen and a letter, with what follows the letter. -/
  | short (letter : Char) (rest : String)
  | word
  deriving DecidableEq

/-- The name in front of the first equals sign, and the value behind it, if there is one. -/
def splitValue (cs : List Char) : String × Option String :=
  let name := String.ofList (cs.takeWhile (· ≠ '='))
  match cs.dropWhile (· ≠ '=') with
  | _ :: value => (name, some (String.ofList value))
  | [] => (name, none)

/-- What an argument is. A lone hyphen is a word. -/
def spelling (argument : String) : Spelling :=
  match argument.toList with
  | ['-', '-'] => .divider
  | '-' :: '-' :: cs => .long (splitValue cs).1 (splitValue cs).2
  | '-' :: letter :: rest => .short letter (String.ofList rest)
  | _ => .word

/-- The value that follows the letter of an option, which may be set off by an equals sign. -/
def attached? (rest : String) : Option String :=
  match rest.toList with
  | [] => none
  | '=' :: value => some (String.ofList value)
  | value => some (String.ofList value)

/-! ### Drafts -/

/-- Where the reading has got to. -/
inductive Stage where
  /-- Before the name of a command. -/
  | program
  /-- Among the arguments of a run, with the file if it has been given. -/
  | run (file : Option String)
  | repl
  /-- Among the arguments of a call for help. -/
  | help (topic : Topic)
  deriving DecidableEq

/-- What help is given at a stage. -/
def Stage.topic : Stage → Topic
  | .program => .program
  | .run _ => .run
  | .repl => .repl
  | .help topic => topic

/-- The options that are understood at a stage. -/
def Stage.switches : Stage → List Switch
  | .program => Switch.everywhere
  | .run _ => Switch.everywhere ++ Switch.ofRun
  | .repl => Switch.everywhere
  | .help _ => []

/-- What has been read so far. -/
structure Draft where
  stage : Stage := .program
  /-- The options in front of the command. -/
  outer : Settings := {}
  /-- The options behind the command. -/
  inner : Settings := {}
  /-- The option whose value is the next argument. -/
  awaiting : Option Switch := none
  /-- Whether no more options are to come. -/
  wordsOnly : Bool := false

/-- Why the reading ends before the arguments do. -/
inductive Stop where
  | help (topic : Topic)
  | refused (error : UsageError)

namespace Draft

/-- The options of the place that is being read. -/
def settings (draft : Draft) : Settings :=
  if draft.stage = .program then draft.outer else draft.inner

/-- The draft with other options of the place that is being read. -/
def withSettings (draft : Draft) (settings : Settings) : Draft :=
  if draft.stage = .program then { draft with outer := settings }
  else { draft with inner := settings }

/-- The draft with nothing held back in the place that is being read. -/
def settle (draft : Draft) : Except Stop Draft :=
  match draft.settings.settle with
  | .error error => .error (.refused error)
  | .ok settings => .ok (draft.withSettings settings)

/-- One more option, with its value. -/
def enter (draft : Draft) (switch : Switch) (value : String) : Except Stop Draft :=
  match draft.settings.enter switch value with
  | .error error => .error (.refused error)
  | .ok settings => .ok (draft.withSettings settings)

/-- The argument that is the value of an option, held back. -/
def hold (draft : Draft) (switch : Switch) (value : String) : Draft :=
  { draft.withSettings { draft.settings with held := some (switch, value) } with awaiting := none }

/-- An option, with the value that is attached to it, if there is one. -/
def readSwitch (draft : Draft) (switch : Switch) (value : Option String) : Except Stop Draft := do
  let draft ← draft.settle
  match switch.takesValue, value with
  | true, some value => draft.enter switch value
  | true, none => .ok { draft with awaiting := some switch }
  | false, some _ => .error (.refused (.surplusValue switch.name))
  | false, none =>
      if switch = .help then .error (.help draft.stage.topic) else draft.enter switch ""

/-- A word, which is the name of a command or an argument of one. -/
def readWord (draft : Draft) (word : String) : Except Stop Draft :=
  match draft.stage with
  | .program =>
      if draft.wordsOnly then .error (.refused (.unexpected word))
      else if word = "run" then .ok { draft with stage := .run none }
      else if word = "repl" then .ok { draft with stage := .repl }
      else if word = "help" then .ok { draft with stage := .help .program }
      else .error (.refused (.unknownCommand word))
  | .run none =>
      match path? word with
      | some file => .ok { draft with stage := .run (some file) }
      | none => .error (.refused (.invalidValue "file" word))
  | .run (some _) => .error (.refused (.unexpected word))
  | .repl => .error (.refused (.unexpected word))
  | .help .program =>
      if word = "run" then .ok { draft with stage := .help .run }
      else if word = "repl" then .ok { draft with stage := .help .repl }
      else if word = "help" then .ok { draft with stage := .help .help }
      else .error (.refused (.unknownCommand word))
  | .help _ => .error (.refused (.unknownCommand word))

/-- An argument that is not the value of an option. -/
def readPlain (draft : Draft) (argument : String) : Except Stop Draft :=
  match spelling argument with
  | .divider => .ok { draft with wordsOnly := true }
  | .long name value =>
      match draft.stage.switches.find? fun switch => switch.name = name with
      | some switch => draft.readSwitch switch value
      | none => .error (.refused (.unexpected argument))
  | .short 'c' rest => draft.readSwitch .config (attached? rest)
  | .short 'h' _ => draft.readSwitch .help none
  | .short _ _ => .error (.refused (.unexpected argument))
  | .word => draft.readWord argument

/-- One more argument. -/
def read (draft : Draft) (argument : String) : Except Stop Draft :=
  match draft.stage, draft.awaiting with
  | .help _, _ => draft.readWord argument
  | _, some switch =>
      if spelling argument = .word then .ok (draft.hold switch argument)
      else .error (.refused (.missingValue switch.name))
  | _, none => if draft.wordsOnly then draft.readWord argument else draft.readPlain argument

/-- A command with the options of both places, where nothing is held back any more. -/
def command (draft : Draft) (command : Details → Command) : Except UsageError Request := do
  let inner ← draft.inner.settle
  let outer ← draft.outer.settle
  return .command (outer.options.merge inner.options) (command inner.details)

/-- What is asked for when there are no more arguments. -/
def finish (draft : Draft) : Except UsageError Request :=
  match draft.awaiting, draft.stage with
  | some switch, _ => .error (.missingValue switch.name)
  | none, .program => .error .missingCommand
  | none, .run none => .error .missingFile
  | none, .run (some file) => draft.command (.run file)
  | none, .repl => draft.command fun _ => .repl
  | none, .help topic => .ok (.help topic)

end Draft

/-- What the arguments ask for. -/
def Request.read (arguments : List String) : Except UsageError Request :=
  match arguments.foldlM Draft.read {} with
  | .ok draft => draft.finish
  | .error (.help topic) => .ok (.help topic)
  | .error (.refused error) => .error error

end Workbench.Console
