import Workbench.Proofs.Session.Effects

/-!
# The past of a session

What happens to a session is a list (`Happening`): operations are performed, runs are accepted and
runs are completed. What a session shows can be read off it: the runs that were accepted, the
artifacts of the latest one that succeeded, the failure of the latest one that was completed, and
whether the session was shut down. Messages come in blocks, one for each run that was accepted
(`InBlocks`).
-/

namespace Workbench.Session

/-! ### The past -/

/-- What happens to a session, as far as it can be told from the outside. -/
inductive Happening where
  /-- An operation was performed, by whoever it was, that began no run. -/
  | performed (op : Op) (answer : Answer)
  | accepted (run : Nat) (source : String)
  | completed (run : Nat) (outcome : Except Engine.ExecutionError Program.Output)

/-- The run that was accepted. -/
def Happening.accepted? : Happening → Option Nat
  | .accepted run _ => some run
  | _ => none

/-- The run that was completed, and its outcome. -/
def Happening.completed? :
    Happening → Option (Nat × Except Engine.ExecutionError Program.Output)
  | .completed run outcome => some (run, outcome)
  | _ => none

/-- The runs that were accepted, in order. -/
def acceptedRuns (past : List Happening) : List Nat := past.filterMap Happening.accepted?

/-- The runs that were completed, in order. -/
def completions (past : List Happening) :
    List (Nat × Except Engine.ExecutionError Program.Output) :=
  past.filterMap Happening.completed?

/-- Shutting down has been asked for. -/
def WasShutDown (past : List Happening) : Prop := ∃ answer, .performed .shutDown answer ∈ past

/-- The artifacts of a run that succeeded. -/
def artifactsOf? : Nat × Except Engine.ExecutionError Program.Output → Option (Board.Artifacts Nat)
  | (run, .ok output) => some ⟨run, output.tokens, output.form, output.result⟩
  | (_, .error _) => none

/-- The failure of a run that failed. -/
def diagnosticOf? :
    Nat × Except Engine.ExecutionError Program.Output → Option (Board.Diagnostic Nat)
  | (_, .ok _) => none
  | (run, .error error) => some ⟨run, error.message⟩

/-- The artifacts of the latest run that succeeded. -/
def latestArtifacts (past : List Happening) : Option (Board.Artifacts Nat) :=
  ((completions past).filterMap artifactsOf?).getLast?

/-- The failure of the latest run that was completed, if it failed. -/
def latestFailure (past : List Happening) : Option (Board.Diagnostic Nat) :=
  (completions past).getLast?.bind diagnosticOf?

/-- Messages that belong to runs, first those of the first run, then those of the next, and so on. A
run may have none. -/
def InBlocks (runs : List Nat) (messages : List (Board.Message Nat)) : Prop :=
  ∃ counts : Nat → Nat, messages.map Board.Message.run =
    runs.flatMap fun run => List.replicate (counts run) (some run)

/-! ### How the past goes on -/

section Past

variable (past : List Happening) (op : Op) (answer : Answer) (run : Nat) (source : String)
variable (outcome : Except Engine.ExecutionError Program.Output)

/-- An operation is no run that is accepted. -/
@[simp]
theorem acceptedRuns_performed :
    acceptedRuns (past ++ [.performed op answer]) = acceptedRuns past := by
  simp [acceptedRuns, Happening.accepted?]

/-- A run that is accepted comes last. -/
@[simp]
theorem acceptedRuns_accepted :
    acceptedRuns (past ++ [.accepted run source]) = acceptedRuns past ++ [run] := by
  simp [acceptedRuns, Happening.accepted?]

/-- To complete a run accepts none. -/
@[simp]
theorem acceptedRuns_completed :
    acceptedRuns (past ++ [.completed run outcome]) = acceptedRuns past := by
  simp [acceptedRuns, Happening.accepted?]

/-- An operation completes no run. -/
@[simp]
theorem completions_performed :
    completions (past ++ [.performed op answer]) = completions past := by
  simp [completions, Happening.completed?]

/-- To accept a run completes none. -/
@[simp]
theorem completions_accepted : completions (past ++ [.accepted run source]) = completions past := by
  simp [completions, Happening.completed?]

/-- A run that is completed comes last. -/
@[simp]
theorem completions_completed :
    completions (past ++ [.completed run outcome]) = completions past ++ [(run, outcome)] := by
  simp [completions, Happening.completed?]

/-- An operation has no artifacts. -/
@[simp]
theorem latestArtifacts_performed :
    latestArtifacts (past ++ [.performed op answer]) = latestArtifacts past := by
  simp only [latestArtifacts, completions_performed]

/-- A run has no artifacts when it is accepted. -/
@[simp]
theorem latestArtifacts_accepted :
    latestArtifacts (past ++ [.accepted run source]) = latestArtifacts past := by
  simp only [latestArtifacts, completions_accepted]

/-- An operation fails no run. -/
@[simp]
theorem latestFailure_performed :
    latestFailure (past ++ [.performed op answer]) = latestFailure past := by
  simp only [latestFailure, completions_performed]

/-- A run has no failure when it is accepted. -/
@[simp]
theorem latestFailure_accepted :
    latestFailure (past ++ [.accepted run source]) = latestFailure past := by
  simp only [latestFailure, completions_accepted]

/-- The latest failure is that of the run that is completed, or none. -/
@[simp]
theorem latestFailure_completed :
    latestFailure (past ++ [.completed run outcome]) = diagnosticOf? (run, outcome) := by
  simp [latestFailure]

/-- A run that succeeds has the latest artifacts; one that fails leaves those of an earlier run. -/
@[simp]
theorem latestArtifacts_completed :
    latestArtifacts (past ++ [.completed run outcome]) =
      (artifactsOf? (run, outcome)).or (latestArtifacts past) := by
  cases outcome with
  | ok output => simp [latestArtifacts, artifactsOf?]
  | error error => simp [latestArtifacts, artifactsOf?]

/-- Of all operations one shuts the engine down. -/
@[simp]
theorem wasShutDown_performed :
    WasShutDown (past ++ [.performed op answer]) ↔ WasShutDown past ∨ op = .shutDown := by
  constructor
  · rintro ⟨answer', hmem⟩
    rcases List.mem_append.mp hmem with hmem | hmem
    · exact Or.inl ⟨answer', hmem⟩
    · cases List.mem_singleton.mp hmem
      exact Or.inr rfl
  · rintro (⟨answer', hmem⟩ | rfl)
    · exact ⟨answer', List.mem_append_left _ hmem⟩
    · exact ⟨answer, List.mem_append_right _ (List.mem_singleton.mpr rfl)⟩

/-- To accept a run shuts nothing down. -/
@[simp]
theorem wasShutDown_accepted :
    WasShutDown (past ++ [.accepted run source]) ↔ WasShutDown past := by
  simp [WasShutDown]

/-- To complete a run shuts nothing down. -/
@[simp]
theorem wasShutDown_completed :
    WasShutDown (past ++ [.completed run outcome]) ↔ WasShutDown past := by
  simp [WasShutDown]

end Past

/-! ### Messages in blocks -/

section Blocks

variable {runs : List Nat} {messages : List (Board.Message Nat)} {run : Nat}

/-- Where there are no messages, they are in blocks of whatever runs. -/
theorem inBlocks_nil (runs : List Nat) : InBlocks runs [] := ⟨fun _ => 0, by simp⟩

/-- It only matters how many messages the runs have that there are. -/
theorem blocks_update (hnew : run ∉ runs) (counts : Nat → Nat) (count : Nat) :
    (runs.flatMap fun other =>
      List.replicate (if other = run then count else counts other) (some other)) =
      runs.flatMap fun other => List.replicate (counts other) (some other) := by
  rw [List.flatMap_def, List.flatMap_def]
  refine congrArg List.flatten (List.map_congr_left fun other hmem => ?_)
  have hother : other ≠ run := fun heq => hnew (heq ▸ hmem)
  rw [if_neg hother]

/-- One more run, which has no messages yet. -/
theorem InBlocks.accept (h : InBlocks runs messages) (hnew : run ∉ runs) :
    InBlocks (runs ++ [run]) messages := by
  obtain ⟨counts, hcounts⟩ := h
  refine ⟨fun other => if other = run then 0 else counts other, ?_⟩
  rw [List.flatMap_append, blocks_update hnew, hcounts]
  simp

/-- One more message of the last run. -/
theorem InBlocks.append (h : InBlocks (runs ++ [run]) messages) (hnew : run ∉ runs)
    (text : String) : InBlocks (runs ++ [run]) (messages ++ [⟨text, some run⟩]) := by
  obtain ⟨counts, hcounts⟩ := h
  refine ⟨fun other => if other = run then counts run + 1 else counts other, ?_⟩
  rw [List.flatMap_append, blocks_update hnew, List.map_append, hcounts]
  simp [List.replicate_succ']

end Blocks

/-! ### The outcome of a run -/

/-- The artifacts when a run is over. -/
theorem artifacts_of_conclude {before heard after : Session} {run : Nat}
    {outcome : Except Engine.ExecutionError Program.Output}
    {result : Except RunError RunReport}
    (h : conclude before run outcome heard = (result, after)) :
    after.board.artifacts = (artifactsOf? (run, outcome)).or heard.board.artifacts := by
  cases outcome with
  | ok output =>
      cases h
      simp only [finish, withBoard, publish]
      split <;> rfl
  | error error =>
      cases h
      rfl

/-- The latest failure when a run is over. -/
theorem lastError_of_conclude {before heard after : Session} {run : Nat}
    {outcome : Except Engine.ExecutionError Program.Output}
    {result : Except RunError RunReport}
    (h : conclude before run outcome heard = (result, after)) :
    after.board.lastError = diagnosticOf? (run, outcome) := by
  cases outcome with
  | ok output =>
      cases h
      simp only [finish, withBoard, publish]
      split <;> rfl
  | error error =>
      cases h
      rfl

end Workbench.Session
