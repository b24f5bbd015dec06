import Workbench.Console.Arguments
import Workbench.Console.Help
import Workbench.Console.Repl

/-!
The program on the command line, from its arguments to its output and the way it ends. A command
needs a configuration that can be loaded and is valid after the options have been applied, a session
that can be built and prepared, and for a run a source file that is text; the first of these that
fails is what is reported.
-/

namespace Workbench.Console

/-- How the program ends. -/
inductive Ending where
  | success
  /-- Something failed, with the reason behind it if there is one. -/
  | failure (message : String) (cause : Option String)
  /-- The program gave up on something that it takes to be impossible. -/
  | crash
  /-- The arguments were refused. -/
  | usage (error : UsageError)

/-- The exit code of an ending. -/
def Ending.code : Ending → Nat
  | .success => 0
  | .failure .. => 1
  | .crash => 101
  | .usage _ => 2

/-- What is said about an ending on the error output. -/
def Ending.complaint? : Ending → Option String
  | .success => none
  | .failure message none => some ("Error: " ++ message)
  | .failure message (some cause) =>
      some ("Error: " ++ message ++ "\n\nCaused by:\n    " ++ cause)
  | .crash => some "more change events would have to be kept than can be"
  | .usage error => some ("error: " ++ error.message ++ "\n\nUsage: " ++ Topic.program.usage
      ++ "\n\nFor more information, try '--help'.")

/-- What the program writes, and how it ends. -/
structure Outcome where
  output : String := ""
  ending : Ending := .success

/-! ### Sessions -/

/-- The configuration that options start from, given the contents of the file that they name. -/
def baseConfig (options : Options) (file : Option ByteArray) : Except Ending Config :=
  match options.config with
  | none => .ok {}
  | some path =>
      match Config.load file with
      | .ok config => .ok config
      | .error error => .error (.failure ("loading config from " ++ path) (some error.message))

/-- The configuration that options ask for, given the contents of the file that they name. -/
def configure (options : Options) (file : Option ByteArray) : Except Ending Config := do
  match (options.override (← baseConfig options file)).validate with
  | .ok config => .ok config
  | .error error => .error (.failure error.message none)

/-- A session that is ready for runs. -/
def openSession (config : Config) : Except Ending Session :=
  match Session.new? config with
  | none => .error .crash
  | some session =>
      match Session.prepare.run session with
      | some (.ok (), session) => .ok session
      | some (.error error, _) => .error (.failure error.message none)
      | none => .error .crash

/-! ### Runs -/

/-- The source text in a file, which may be missing and may not be text. -/
def sourceOf (path : String) (file : Option ByteArray) : Except Ending String :=
  match file.bind String.fromUTF8? with
  | some source => .ok source
  | none => .error (.failure ("reading " ++ path) none)

/-- How the program ends when a run has ended. -/
def endingOf (stamps : Stamps) : Except Session.RunError Session.RunReport → Ending
  | .ok _ => .success
  | .error error => .failure (error.message fun _ => stamps.run) none

/-- The outcome when a run has ended. -/
def concludeRun (stamps : Stamps) (details : Details) (session : Session)
    (outcome : Except Session.RunError Session.RunReport) : Outcome where
  output := showRun stamps details session.currentSnapshot outcome
  ending := endingOf stamps outcome

/-- The outcome of running a source text once. -/
def runOnce (stamps : Stamps) (details : Details) (session : Session) (source : String) : Outcome :=
  match (Session.runQuietly source).run session with
  | some (outcome, session) => concludeRun stamps details session outcome
  | none => { ending := .crash }

/-- The outcome of a loop that has ended. -/
def concludeRepl (stamps : Stamps) (transcript : Repl.Transcript) : Outcome where
  output := transcript.output
  ending := match transcript.refusal with
    | none => .success
    | some error => .failure (error.message fun _ => stamps.run) none

/-! ### The program -/

/-- What the program finds around it: the contents of files, its standard input, and the name and
the times of its runs. -/
structure Surroundings where
  file : String → Option ByteArray
  input : String := ""
  stamps : Stamps

/-- The outcome of a command in a session. -/
def Command.outcome (surroundings : Surroundings) (session : Session) :
    Command → Except Ending Outcome
  | .run file details => do
      let source ← sourceOf file (surroundings.file file)
      return runOnce surroundings.stamps details session source
  | .repl =>
      let repl : Repl := { session := session }
      return concludeRepl surroundings.stamps (repl.converse (Text.lines surroundings.input))

/-- The outcome of a request. -/
def Request.outcome (surroundings : Surroundings) : Request → Except Ending Outcome
  | .help topic => return { output := topic.text }
  | .command options task => do
      let config ← configure options (options.config.bind surroundings.file)
      task.outcome surroundings (← openSession config)

/-- The outcome of the program with the given arguments. -/
def outcome (surroundings : Surroundings) (arguments : List String) : Outcome :=
  match Request.read arguments with
  | .error error => { ending := .usage error }
  | .ok request =>
      match request.outcome surroundings with
      | .ok outcome => outcome
      | .error ending => { ending := ending }

end Workbench.Console
