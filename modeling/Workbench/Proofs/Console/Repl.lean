import Workbench.Console.Outcome
import Workbench.Proofs.Session.Open

/-!
# The interactive loop runs each line as if it were the only one

The loop keeps one session for all of its lines and remembers how many messages it has shown. That
this shows each message once, and next to the line it comes from, is not obvious from the loop: the
log grows with every run, also with one that fails, and can be cleared. **Theorem**
(`Console.Repl.transcript_eq`): the loop ends well, and its transcript is a prompt for each line
with what that line leads to in a session in which nothing has happened before, and a last prompt.

The loop starts with a session that has been opened, and there is one for every valid configuration
unless it asks for more change events than can be kept (`Console.exists_openSession`). Between lines
all messages have been shown (`Console.Repl.Fit`); one turn keeps it so, and leads to the same as in
the session at the start (`Console.Repl.Fit.turn`), since a run adds the messages of its program and
no others (`Session.IsOpen.run_quietly`).
-/

namespace Workbench.Console

open Session (IsOpen)

/-! ### Sessions at the start -/

/-- What it takes to open a session: it can be built, and no limit is zero. -/
theorem openSession_eq_ok_iff {config : Config} {session : Session} :
    openSession config = .ok session ↔
      config.limits.callDepth ≠ 0 ∧ config.limits.nestingDepth ≠ 0 ∧
        ∃ new, Session.new? config = some new ∧
          session = { new with host := Engine.Host.prepared } := by
  unfold openSession
  cases hnew : Session.new? config with
  | none => simp
  | some new =>
      simp only [StateT.run, Session.prepare_of_new? hnew]
      by_cases hzero : config.limits.callDepth = 0 ∨ config.limits.nestingDepth = 0
      · rw [Engine.Host.prepareAll_lisp_of_zero hzero]
        refine ⟨nofun, fun ⟨hcalls, hnesting, _⟩ => ?_⟩
        exact absurd hzero (not_or.mpr ⟨hcalls, hnesting⟩)
      · obtain ⟨hcalls, hnesting⟩ := not_or.mp hzero
        rw [Engine.Host.prepareAll_lisp hcalls hnesting]
        simp only [List.headD_cons, Except.ok.injEq, Option.some.injEq, exists_eq_left']
        exact ⟨fun h => ⟨hcalls, hnesting, h.symm⟩, fun h => h.2.2.symm⟩

/-- A valid configuration has a session, unless more change events would have to be kept than can
be. -/
theorem exists_openSession {config : Config} (hvalid : config.validate = .ok config)
    (hcapacity : config.eventCapacity.toNat ≤ Board.Feed.maxCapacity) :
    ∃ session, openSession config = .ok session := by
  have hfields : config.maxCallDepth ≠ 0 ∧ config.maxNestingDepth ≠ 0 := by
    grind [Config.validate, Config.zeroField?]
  have hfeed : ∃ new, Session.new? config = some new := by
    unfold Session.new? Session.withEngine? Board.ofCapacity? Board.Feed.ofCapacity?
    rw [if_pos hcapacity]
    exact ⟨_, rfl⟩
  obtain ⟨new, hnew⟩ := hfeed
  refine ⟨_, openSession_eq_ok_iff.mpr ⟨?_, ?_, new, hnew, rfl⟩⟩
  · exact fun hzero => hfields.1 (UInt64.toNat_inj.mp hzero)
  · exact fun hzero => hfields.2 (UInt64.toNat_inj.mp hzero)

/-- A session that has been opened has no guests and no messages. -/
theorem isOpen_of_openSession {config : Config} {session : Session}
    (h : openSession config = .ok session) : IsOpen config session ∧ session.board.texts = [] := by
  obtain ⟨hcalls, hnesting, new, hnew, rfl⟩ := openSession_eq_ok_iff.mp h
  refine ⟨Session.isOpen_prepared hnew hcalls hnesting, ?_⟩
  change new.board.texts = []
  exact Session.texts_of_new? hnew

namespace Repl

/-! ### What a line leads to -/

/-- What is said of a run that was not refused. -/
def verdict? : Except Session.RunError Session.RunReport → Option String
  | .ok report => some ("=> " ++ report.result.render)
  | .error (.execution _ error) => some ("error: " ++ error.message)
  | .error _ => none

/-- What a line leads to in a session of its own, if its run is not refused there: all messages of
that session, and how the run ended. -/
def response (fresh : Session) (input : String) : Option String :=
  match entry input with
  | .blank => some ""
  | .quit => some ""
  | .clear => some (line "messages cleared")
  | .source => do
      let (outcome, after) ← (Session.runQuietly input).run fresh
      let verdict ← verdict? outcome
      return lines after.board.texts ++ line verdict

/-- What is said of a program that has been run. -/
def programVerdict (program : Program.Run) : String :=
  match program.outcome with
  | .ok output => "=> " ++ output.result.render
  | .error failure => "error: " ++ failure.message

/-- What is said of a run is what is said of the program. -/
theorem verdict?_of_agrees {program : Program.Run} {run : Nat}
    {outcome : Except Session.RunError Session.RunReport} {after : Session}
    (h : Session.Agrees program run outcome after) :
    verdict? outcome = some (programVerdict program) := by
  unfold programVerdict
  cases hprogram : program.outcome with
  | ok output =>
      obtain ⟨⟨report, rfl, -, hresult, -⟩, -⟩ := h.succeeded output hprogram
      change some ("=> " ++ report.result.render) = some ("=> " ++ output.result.render)
      rw [hresult]
  | error failure =>
      obtain ⟨rfl, -⟩ := h.failed failure hprogram
      rfl

/-- What a program leads to. -/
theorem response_of_source {config : Config} {fresh : Session} (hopen : IsOpen config fresh)
    (hempty : fresh.board.texts = []) {input : String} (hentry : entry input = .source) :
    response fresh input = some (lines (Session.programTexts config input) ++
      line (programVerdict (Program.run config.limits input))) := by
  obtain ⟨outcome, after, hrun, -, htexts, hagrees⟩ := hopen.run_quietly input
  rw [hempty, List.nil_append] at htexts
  unfold response
  rw [hentry]
  change (Session.runQuietly input fresh).bind _ = _
  rw [hrun, ← htexts]
  change (verdict? outcome).bind _ = _
  rw [verdict?_of_agrees hagrees]
  rfl

/-! ### One line -/

/-- The loop goes on after a run of which something is said. -/
theorem afterRun_of_verdict? {outcome : Except Session.RunError Session.RunReport}
    {verdict : String} (h : verdict? outcome = some verdict) (shown : Nat) (session : Session) :
    afterRun shown session outcome =
      .next (lines (session.board.texts.drop shown) ++ line verdict)
        ⟨session, session.board.texts.length⟩ := by
  cases outcome with
  | ok report =>
      rw [← Option.some.inj h]
      rfl
  | error error =>
      cases error with
      | execution run error =>
          rw [← Option.some.inj h]
          rfl
      | notReady | busy | reentrant => cases h

/-- The loop between lines: its session is open, and all messages have been shown. -/
structure Fit (config : Config) (repl : Repl) : Prop where
  isOpen : IsOpen config repl.session
  shown : repl.shown = repl.session.board.texts.length

namespace Fit

variable {config : Config} {repl : Repl} {input : String}

/-- A line that is a program: the news are the messages of its run. -/
theorem turn_of_source (h : Fit config repl) (hentry : entry input = .source) :
    ∃ repl', repl.turn input = .next (lines (Session.programTexts config input) ++
        line (programVerdict (Program.run config.limits input))) repl' ∧ Fit config repl' := by
  obtain ⟨outcome, after, hrun, hopen, htexts, hagrees⟩ := h.isOpen.run_quietly input
  have hnews : after.board.texts.drop repl.shown = Session.programTexts config input := by
    rw [htexts, h.shown, List.drop_left]
  refine ⟨⟨after, after.board.texts.length⟩, ?_, hopen, rfl⟩
  simp only [Repl.turn, hentry, StateT.run, hrun]
  rw [afterRun_of_verdict? (verdict?_of_agrees hagrees), hnews]

/-- **One turn** leads to what its line leads to in the session at the start. -/
theorem turn (h : Fit config repl) {fresh : Session} (hopen : IsOpen config fresh)
    (hempty : fresh.board.texts = []) (hgoes : entry input ≠ .quit) :
    ∃ output repl', repl.turn input = .next output repl' ∧
      response fresh input = some output ∧ Fit config repl' := by
  cases hentry : entry input with
  | quit => exact absurd hentry hgoes
  | blank =>
      refine ⟨"", repl, ?_, ?_, h⟩
      · simp only [Repl.turn, hentry]
      · simp only [response, hentry]
  | clear =>
      refine ⟨line "messages cleared", ⟨repl.session.withBoard repl.session.board.clearMessages, 0⟩,
        ?_, ?_, h.isOpen.clear, rfl⟩
      · simp only [Repl.turn, hentry]
        rfl
      · simp only [response, hentry]
  | source =>
      obtain ⟨repl', hturn, hfit⟩ := h.turn_of_source hentry
      exact ⟨_, repl', hturn, response_of_source hopen hempty hentry, hfit⟩

end Fit

/-! ### All lines -/

/-- The lines up to the command to quit. -/
def handled (inputs : List String) : List String :=
  inputs.takeWhile fun input => entry input ≠ .quit

/-- **The loop from any point on.** -/
theorem Fit.converse {config : Config} {fresh : Session} (hopen : IsOpen config fresh)
    (hempty : fresh.board.texts = []) (inputs : List String) {repl : Repl}
    (h : Fit config repl) : ∃ responses : List String,
      (handled inputs).map (response fresh) = responses.map some ∧
      repl.converse inputs = { output := String.join (responses.map (prompt ++ ·)) ++ prompt } := by
  induction inputs generalizing repl with
  | nil => exact ⟨[], rfl, rfl⟩
  | cons input rest ih =>
      unfold handled Repl.converse
      by_cases hquit : entry input = .quit
      · refine ⟨[], ?_, ?_⟩
        · rw [List.takeWhile_cons_of_neg (by simpa using hquit)]
          rfl
        · simp only [Repl.turn, hquit]
          rfl
      · obtain ⟨output, repl', hturn, hresponse, hfit⟩ := h.turn hopen hempty hquit
        obtain ⟨responses, hresponses, hlater⟩ := ih hfit
        refine ⟨output :: responses, ?_, ?_⟩
        · rw [List.takeWhile_cons_of_pos (by simpa using hquit), List.map_cons, hresponse]
          exact congrArg (some output :: ·) hresponses
        · simp only [hturn, hlater, List.map_cons, String.join_cons, String.append_assoc]

/-- **The transcript of the loop.** On a session that has been opened the loop ends well, whatever
it reads. For each line up to the command to quit it has shown a prompt and what the line leads to
in a session in which nothing has happened before, and then a last prompt. -/
theorem transcript_eq {config : Config} {fresh : Session} (hfresh : openSession config = .ok fresh)
    (surroundings : Surroundings) : ∃ responses : List String,
      (handled (Text.lines surroundings.input)).map (response fresh) = responses.map some ∧
      Command.repl.outcome surroundings fresh = .ok {
        output := String.join (responses.map (prompt ++ ·)) ++ prompt
        ending := .success } := by
  obtain ⟨hopen, hempty⟩ := isOpen_of_openSession hfresh
  have hfit : Fit config { session := fresh } := ⟨hopen, by rw [hempty]; rfl⟩
  obtain ⟨responses, hresponses, htranscript⟩ :=
    hfit.converse hopen hempty (Text.lines surroundings.input)
  refine ⟨responses, hresponses, ?_⟩
  change Except.ok (concludeRepl _ (converse _ _)) = _
  rw [htranscript]
  rfl

/-- Input with a blank line, a program that fails after a print event, and a line behind the command
to quit. -/
def chat : Surroundings where
  file _ := none
  input := "(print 1)\n \n(print a) (/ 1 0)\n .clear\n(print 2)\n.q\n(print 3)\n"
  stamps := ⟨"run", .null, 0, 0, "0s"⟩

/-- What the lines of the chat lead to when results are echoed. -/
def chatResponses : List String :=
  ["1\nnull\n=> null\n", "",
    "null\nerror: evaluation error: division by zero (in expression ending at 1:16)\n",
    "messages cleared\n", "2\nnull\n=> null\n"]

/-- No message is shown twice, and none comes late. -/
theorem transcript_eq_chat : ∃ fresh, openSession { echoResult := true } = .ok fresh ∧
    (handled (Text.lines chat.input)).map (response fresh) = chatResponses.map some ∧
    Command.repl.outcome chat fresh =
      .ok { output := String.join (chatResponses.map (prompt ++ ·)) ++ prompt } := by
  have hcomputed : (openSession { echoResult := true }).toOption.all (fun fresh =>
      (handled (Text.lines chat.input)).map (response fresh) = chatResponses.map some) = true := by
    decide +kernel
  obtain ⟨fresh, hfresh⟩ := @exists_openSession { echoResult := true } rfl (by decide)
  rw [hfresh] at hcomputed
  have hresponses : (handled (Text.lines chat.input)).map (response fresh) =
      chatResponses.map some := of_decide_eq_true hcomputed
  obtain ⟨responses, hsame, houtcome⟩ := transcript_eq hfresh chat
  have hlist : responses = chatResponses :=
    (List.map_inj_right fun _ _ => Option.some.inj).mp (hsame.symm.trans hresponses)
  rw [hlist] at houtcome
  exact ⟨fresh, hfresh, hresponses, houtcome⟩

end Repl

end Workbench.Console
