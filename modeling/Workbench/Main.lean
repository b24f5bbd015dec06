import Std.Time.DateTime.Timestamp
import Workbench.Console.Clock
import Workbench.Console.Outcome
import Workbench.Uuid

/-!
The command line itself. What the program decides is decided elsewhere; here files and lines are
read, texts are written, and runs get their names and times.
-/

namespace Workbench.Console

/-- The contents of a file, if it can be read. -/
def fileContents? (path : String) : IO (Option ByteArray) := do
  try
    return some (← IO.FS.readBinFile path)
  catch _ =>
    return none

/-- A name for a run. -/
def freshName : IO String := do
  let bytes ← IO.getRandomBytes (USize.ofNat 32)
  return (Uuid.ofRandom fun place => (bytes.data[place.val]?.map UInt8.toNat).getD 0).render

/-- Runs a source text once and takes its times. -/
def timedRun (details : Details) (session : Session) (source : String) : IO Outcome := do
  let name ← freshName
  let startedAt ← Std.Time.Timestamp.now
  let before ← IO.monoNanosNow
  let ended ← IO.lazyPure fun _ => (Session.runQuietly source).run session
  let nanos := (← IO.monoNanosNow) - before
  match ended with
  | none => return { ending := .crash }
  | some (outcome, session) =>
      let stamps : Stamps := {
        run := name
        startedAt := .str (instantText startedAt.toNanosecondsSinceUnixEpoch.val.toNat)
        seconds := nanos / 1000000000
        nanos := nanos % 1000000000
        elapsed := spanText (nanos / 1000000000) (nanos % 1000000000) }
      return concludeRun stamps details session outcome

/-- The interactive loop on standard input and output. -/
partial def interact (repl : Repl) : IO Ending := do
  let output ← IO.getStdout
  output.putStr Repl.prompt
  output.flush
  let input ← (← IO.getStdin).getLine
  if input.isEmpty then return .success
  match repl.turn input with
  | .next text repl => do
      output.putStr text
      interact repl
  | .quit => return .success
  | .refused text error => do
      output.putStr text
      return .failure (error.message fun _ => "") none

/-- Performs a command in a session. -/
def performCommand (session : Session) : Command → IO Outcome
  | .run path details => do
      match sourceOf path (← fileContents? path) with
      | .error ending => return { ending := ending }
      | .ok source => timedRun details session source
  | .repl => do
      try
        return { ending := ← interact { session := session } }
      catch error =>
        return { ending := .failure error.toString none }

/-- Performs a request. -/
def performRequest : Request → IO Outcome
  | .help topic => return { output := topic.text }
  | .command options task => do
      let file ← match options.config with
        | some path => fileContents? path
        | none => pure none
      match configure options file >>= openSession with
      | .error ending => return { ending := ending }
      | .ok session => performCommand session task

end Workbench.Console

open Workbench.Console in
/-- The program with the given arguments; answers its exit code. -/
def main (arguments : List String) : IO UInt32 := do
  let outcome ← match Request.read arguments with
    | .error error => pure { ending := .usage error }
    | .ok request => performRequest request
  let output ← IO.getStdout
  output.putStr outcome.output
  output.flush
  if let some complaint := outcome.ending.complaint? then
    IO.eprintln complaint
  return UInt32.ofNat outcome.ending.code
