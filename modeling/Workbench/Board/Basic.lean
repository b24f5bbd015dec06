import Workbench.Board.Event
import Workbench.Board.Feed
import Workbench.Program

/-!
Boards: what a session shows. A board has the artifacts of the latest successful run, replaced as a
whole, the messages in the order in which they came, and the latest failure, if no run has succeeded
since. Every change is sent to the subscribers. Runs are named by values of any type.
-/

namespace Workbench

namespace Board

/-- What a successful run leaves. -/
structure Artifacts (ρ : Type) where
  run : ρ
  tokens : List Token
  form : Form
  result : Value

/-- A message, with the run that was in progress when it came. -/
structure Message (ρ : Type) where
  text : String
  run : Option ρ
  deriving DecidableEq

/-- The failure of a run. -/
structure Diagnostic (ρ : Type) where
  run : ρ
  message : String
  deriving DecidableEq

end Board

/-- What a session shows. -/
structure Board (ρ : Type) where
  artifacts : Option (Board.Artifacts ρ) := none
  messages : Array (Board.Message ρ) := #[]
  lastError : Option (Board.Diagnostic ρ) := none
  /-- The run that new messages belong to. -/
  currentRun : Option ρ := none
  feed : Board.Feed (Board.Event ρ)

namespace Board

variable {ρ : Type}

/-- An empty board whose feed has the given capacity, if there can be such a feed. -/
def ofCapacity? (capacity : Nat) : Option (Board ρ) :=
  (Feed.ofCapacity? capacity).map fun feed => { feed := feed }

/-- Tells the subscribers of a change. -/
def announce (board : Board ρ) (event : Event ρ) : Board ρ :=
  { board with feed := board.feed.send event }

/-- The artifacts of a run in place of the ones before. The latest failure is forgotten. -/
def replaceArtifacts (board : Board ρ) (artifacts : Artifacts ρ) : Board ρ :=
  { board with artifacts := some artifacts, lastError := none }.announce
    (.artifactsReplaced artifacts.run)

/-- One more message, of the current run. -/
def append (board : Board ρ) (text : String) : Board ρ :=
  { board with messages := board.messages.push ⟨text, board.currentRun⟩ }.announce
    (.messageAppended board.messages.size)

/-- No messages. -/
def clearMessages (board : Board ρ) : Board ρ :=
  { board with messages := #[] }.announce .messagesCleared

/-- The failure of a run. The artifacts stay. -/
def recordFailure (board : Board ρ) (run : ρ) (message : String) : Board ρ :=
  { board with lastError := some ⟨run, message⟩ }.announce (.runFailed run)

/-- The texts of the messages. -/
def texts (board : Board ρ) : List String :=
  board.messages.toList.map Message.text

/-- One more subscriber, and its number. -/
def subscribe (board : Board ρ) : Nat × Board ρ :=
  let (subscriber, feed) := board.feed.subscribe
  (subscriber, { board with feed := feed })

/-- What waits for a subscriber; afterwards nothing does. -/
def drain (board : Board ρ) (subscriber : Nat) : List (Notice (Event ρ)) × Board ρ :=
  let (notices, feed) := board.feed.drain subscriber
  (notices, { board with feed := feed })

end Board

end Workbench
