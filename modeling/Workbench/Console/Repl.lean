import Workbench.Console.Report
import Workbench.Text.Blank
import Workbench.Text.Lines

/-!
The interactive loop. It asks for a line, and a line is a program, unless it is blank or one of the
two commands; every line is run in the same session, and after each run the messages that have not
been shown are shown, then the result or what went wrong. The loop ends at the command to quit or
when there are no more lines.
-/

namespace Workbench.Console

/-- The loop: its session, and how many of the messages have been shown. -/
structure Repl where
  session : Session
  shown : Nat := 0

namespace Repl

/-- What the loop asks for a line with. -/
def prompt : String := "alc> "

/-- What a line is. -/
inductive Entry where
  | blank
  /-- The command to end the loop. -/
  | quit
  /-- The command to forget the messages. -/
  | clear
  | source
  deriving DecidableEq

/-- What a line is, whatever blanks are around it. -/
def entry (line : String) : Entry :=
  let text := String.ofList (Text.trimBlanks line.toList)
  if text = "" then .blank
  else if text = ".q" then .quit
  else if text = ".clear" then .clear
  else .source

/-- What comes of a line. -/
inductive Turn where
  /-- The loop goes on. -/
  | next (output : String) (repl : Repl)
  /-- The loop ends. -/
  | quit
  /-- The loop ends because the run was refused. -/
  | refused (output : String) (error : Session.RunError)

/-- The loop when a run has ended, and what it shows of the run. -/
def afterRun (shown : Nat) (session : Session)
    (outcome : Except Session.RunError Session.RunReport) : Turn :=
  let texts := session.board.texts
  let news := lines (texts.drop shown)
  let repl : Repl := ⟨session, texts.length⟩
  match outcome with
  | .ok report => .next (news ++ line (resultLine report)) repl
  | .error (.execution _ error) => .next (news ++ line ("error: " ++ error.message)) repl
  | .error error => .refused news error

/-- The loop after a line. -/
def turn (repl : Repl) (input : String) : Turn :=
  match entry input with
  | .blank => .next "" repl
  | .quit => .quit
  | .clear =>
      let board := repl.session.board.clearMessages
      .next (line "messages cleared") ⟨{ repl.session with board := board }, 0⟩
  | .source =>
      match (Session.runQuietly input).run repl.session with
      | some (outcome, session) => afterRun repl.shown session outcome
      | none => .refused "" .busy

/-- What a loop shows, and why its last run was refused, if it was. -/
structure Transcript where
  output : String
  refusal : Option Session.RunError := none

/-- The loop over the given lines. -/
def converse (repl : Repl) : List String → Transcript
  | [] => { output := prompt }
  | input :: rest =>
      match repl.turn input with
      | .next output repl =>
          let later := converse repl rest
          { later with output := prompt ++ output ++ later.output }
      | .quit => { output := prompt }
      | .refused output error => { output := prompt ++ output, refusal := some error }

end Repl

end Workbench.Console
