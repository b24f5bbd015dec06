import Workbench.Config

/-!
What can be asked for on the command line: a command with its options, or help. A command runs a
file once or reads and runs line after line; the options that every command takes set the
configuration.
-/

namespace Workbench.Console

/-- The options that every command takes. -/
structure Options where
  /-- The path of a configuration file. -/
  config : Option String := none
  echoResult : Bool := false
  maxCallDepth : Option UInt64 := none
  maxNestingDepth : Option UInt64 := none
  deriving DecidableEq

namespace Options

/-- Options given in two places, where the second place wins. -/
def merge (outer inner : Options) : Options where
  config := inner.config.or outer.config
  echoResult := inner.echoResult || outer.echoResult
  maxCallDepth := inner.maxCallDepth.or outer.maxCallDepth
  maxNestingDepth := inner.maxNestingDepth.or outer.maxNestingDepth

/-- A configuration with what the options say in place of what it says. -/
def override (options : Options) (config : Config) : Config :=
  { config with
    echoResult := options.echoResult || config.echoResult
    maxCallDepth := options.maxCallDepth.getD config.maxCallDepth
    maxNestingDepth := options.maxNestingDepth.getD config.maxNestingDepth }

end Options

/-- What to show of a run besides its messages and its result. -/
structure Details where
  tokens : Bool := false
  ast : Bool := false
  /-- Whether to show everything as one document. -/
  json : Bool := false
  deriving DecidableEq

/-- The commands. -/
inductive Command where
  /-- Runs a source file once. -/
  | run (file : String) (details : Details)
  /-- Reads and runs line after line. -/
  | repl
  deriving DecidableEq

/-- What there is help on. -/
inductive Topic where
  | program
  | run
  | repl
  | help
  deriving DecidableEq

/-- What is asked for. -/
inductive Request where
  | command (options : Options) (command : Command)
  | help (topic : Topic)
  deriving DecidableEq

/-- What is wrong with the arguments. -/
inductive UsageError where
  | missingCommand
  | unknownCommand (word : String)
  | unexpected (argument : String)
  | missingFile
  | missingValue (name : String)
  | surplusValue (name : String)
  | invalidValue (name value : String)
  | repeated (name : String)
  deriving DecidableEq

/-- What is wrong, in words. -/
def UsageError.message : UsageError → String
  | .missingCommand => "a subcommand is required but one was not provided"
  | .unknownCommand word => "unrecognized subcommand '" ++ word ++ "'"
  | .unexpected argument => "unexpected argument '" ++ argument ++ "' found"
  | .missingFile => "a source file is required but was not provided"
  | .missingValue name => "a value is required for '" ++ name ++ "' but none was supplied"
  | .surplusValue name => "'" ++ name ++ "' takes no value"
  | .invalidValue name value => "invalid value '" ++ value ++ "' for '" ++ name ++ "'"
  | .repeated name => "'" ++ name ++ "' cannot be used multiple times"

end Workbench.Console
