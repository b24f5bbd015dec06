import Workbench.Console.Request
import Workbench.Form.Printer
import Workbench.Form.Wire
import Workbench.Session.Run
import Workbench.Value.Json

/-!
What the command line shows of a run: the messages, the result and a line of counts, then the tokens
and the outline of the form if they are asked for; or all of it as one document whose objects have
their fields sorted by name. What differs from one run to the next of the same program, its name and
its times, is given from outside.
-/

namespace Workbench.Console

/-- The name and the times of a run. -/
structure Stamps where
  /-- The name of the run. -/
  run : String
  startedAt : Json
  /-- How long the run took, in whole seconds and nanoseconds. -/
  seconds : Nat
  nanos : Nat
  /-- How long the run took, as users see it. -/
  elapsed : String

/-- A text that ends its line. -/
def line (text : String) : String := text ++ "\n"

/-- Texts, each on a line of its own. -/
def lines (texts : List String) : String :=
  texts.foldr (fun text rest => line text ++ rest) ""

/-! ### Runs as text -/

/-- The text filled up with spaces to a width. -/
def padded (width : Nat) (text : String) : String :=
  text ++ String.ofList (List.replicate (width - text.length) ' ')

/-- A line about a token: its place, its kind and its spelling. -/
def tokenLine (token : Token) : String :=
  "  " ++ token.start.render ++ "  " ++ padded 14 token.kind.name ++ " " ++ Text.quoted token.value

/-- The line with the result of a run. -/
def resultLine (report : Session.RunReport) : String := "=> " ++ report.result.render

/-- The line with the counts of a run. -/
def countLine (stamps : Stamps) (report : Session.RunReport) : String :=
  "   " ++ toString report.tokenCount ++ " tokens, " ++ toString report.nodeCount ++ " nodes, "
    ++ toString report.printEvents ++ " prints in " ++ stamps.elapsed

/-- What is shown of a run, as lines of text. -/
def runText (stamps : Stamps) (details : Details) (snapshot : Session.Snapshot) :
    Except Session.RunError Session.RunReport → List String
  | .error _ => snapshot.texts
  | .ok report =>
      snapshot.texts ++ [resultLine report, countLine stamps report]
        ++ (if details.tokens then snapshot.tokens.map tokenLine else [])
        ++ (if details.ast then (snapshot.form?.map (Form.outline 1)).getD [] else [])

/-! ### Runs as documents -/

/-- The document of a report. -/
def reportJson (stamps : Stamps) (report : Session.RunReport) : Json :=
  .object [("run_id", .str stamps.run), ("token_count", .nat report.tokenCount),
    ("node_count", .nat report.nodeCount), ("print_events", .nat report.printEvents),
    ("observer_failures", .nat report.observerFailures), ("started_at", stamps.startedAt),
    ("elapsed", .object [("secs", .nat stamps.seconds), ("nanos", .nat stamps.nanos)])]

/-- The fields about the outcome of a run. -/
def outcomeFields (stamps : Stamps) :
    Except Session.RunError Session.RunReport → List (String × Json)
  | .ok report => [("report", reportJson stamps report), ("result", report.result.toJson)]
  | .error error => [("error", .str (error.message fun _ => stamps.run))]

/-- The document of a run. -/
def runJson (stamps : Stamps) (details : Details) (snapshot : Session.Snapshot)
    (outcome : Except Session.RunError Session.RunReport) : Json :=
  .object ([("messages", .listOf .str snapshot.texts)] ++ outcomeFields stamps outcome
    ++ (if details.tokens then [("tokens", .listOf Token.toJson snapshot.tokens)] else [])
    ++ (if details.ast then [("ast", .ofOption Form.toJson snapshot.form?)] else []))

/-- What is shown of a run. -/
def showRun (stamps : Stamps) (details : Details) (snapshot : Session.Snapshot)
    (outcome : Except Session.RunError Session.RunReport) : String :=
  if details.json then line (runJson stamps details snapshot outcome).sortFields.pretty
  else lines (runText stamps details snapshot outcome)

end Workbench.Console
