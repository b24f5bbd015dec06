import Workbench.Console.Arguments
import Workbench.Text.Join

/-!
The help texts of the command line. Each says what its topic does, how it is called, and what the
arguments and options mean; an option and its meaning stand on lines of their own.
-/

namespace Workbench.Console

namespace Switch

/-- How an option is written: its letter, if it has one, its name, and what its value is called. -/
def written : Switch → String
  | .config => "-c, --config <CONFIG>"
  | .echoResult => "    --echo-result"
  | .maxCallDepth => "    --max-call-depth <MAX_CALL_DEPTH>"
  | .maxNestingDepth => "    --max-nesting-depth <MAX_NESTING_DEPTH>"
  | .tokens => "    --tokens"
  | .ast => "    --ast"
  | .json => "    --json"
  | .help => "-h, --help"

/-- What an option does. -/
def meaning : Switch → String
  | .config => "JSON configuration file"
  | .echoResult => "Append the rendered result of each run to the messages"
  | .maxCallDepth => "Maximum nesting of function calls"
  | .maxNestingDepth => "Maximum bracket nesting accepted by the parser"
  | .tokens => "Print the lexed tokens"
  | .ast => "Print the parsed AST"
  | .json => "Emit a single JSON document instead of text"
  | .help => "Print help"

/-- The two lines of an option. -/
def helpLines (switch : Switch) : List String :=
  ["  " ++ switch.written, "          " ++ switch.meaning]

end Switch

namespace Topic

/-- What a topic does, in a line. -/
def about : Topic → String
  | .program => "Run ALC Lisp programs through the playground bridge"
  | .run => "Run a source file once"
  | .repl => "Read-run loop; `.q` quits, `.clear` clears messages"
  | .help => "Print this message or the help of the given subcommand(s)"

/-- How a topic is called. -/
def usage : Topic → String
  | .program => "alc-playground [OPTIONS] <COMMAND>"
  | .run => "alc-playground run [OPTIONS] <FILE>"
  | .repl => "alc-playground repl [OPTIONS]"
  | .help => "alc-playground help [COMMAND]..."

/-- The commands or the arguments that a topic has, under a heading. -/
def arguments : Topic → List String
  | .program =>
      ["Commands:", "  run   " ++ about .run, "  repl  " ++ about .repl, "  help  " ++ about .help,
       ""]
  | .run => ["Arguments:", "  <FILE>  Source file", ""]
  | .repl => []
  | .help => ["Arguments:", "  [COMMAND]...  Print help for the subcommand(s)"]

/-- The options that a topic has, in the order in which help shows them. -/
def switches : Topic → List Switch
  | .program | .repl => [.config, .echoResult, .maxCallDepth, .maxNestingDepth, .help]
  | .run =>
      [.config, .tokens, .ast, .echoResult, .json, .maxCallDepth, .maxNestingDepth, .help]
  | .help => []

/-- The options that a topic has, under a heading. -/
def optionLines (topic : Topic) : List String :=
  match topic.switches with
  | [] => []
  | switches => "Options:" :: switches.flatMap Switch.helpLines

/-- The help on a topic. -/
def text (topic : Topic) : String :=
  Text.joinWith "\n" ([topic.about, "", "Usage: " ++ topic.usage, ""] ++ topic.arguments
    ++ topic.optionLines) ++ "\n"

end Topic

end Workbench.Console
