import Workbench.Proofs.Config.File
import Workbench.Proofs.Console.Repl

/-!
# Which configurations a session can work with

Three places set bounds to the same fields: validation refuses zeros, the engine refuses limits of
zero when it is set up, and the feed of the board cannot keep more than so many events. Validation
implies what the engine asks for, but it has no upper bound on the capacity of the feed. **Theorem**
(`Config.workable_of_accepted`): of the configurations that are accepted, in a file or on the
command line too, exactly those can be worked with whose capacity is not greater than a feed can
have. With any other there is no session, and every command crashes.

What can be worked with is settled first for all configurations, accepted or not
(`Config.isWorkable_iff`); that the fields that must not be zero are not is then all that is needed
of acceptance (`Config.IsAccepted.validate`).
-/

namespace Workbench

namespace Config

/-! ### Acceptance -/

/-- The ways in which a configuration is accepted: by itself, in a file, or as what the options of a
command make of the file that they name. -/
inductive IsAccepted (config : Config) : Prop where
  | validated (h : config.validate = .ok config)
  | loaded {file : Option ByteArray} (h : load file = .ok config)
  | configured {options : Console.Options} {file : Option ByteArray}
      (h : Console.configure options file = .ok config)

/-- A configuration is valid exactly if none of its numbers is zero, and is then left as it is. -/
theorem validate_eq_ok_iff {config valid : Config} :
    config.validate = .ok valid ↔ config = valid ∧ config.maxCallDepth ≠ 0 ∧
      config.maxNestingDepth ≠ 0 ∧ config.eventCapacity ≠ 0 := by
  unfold validate zeroField?
  split_ifs <;> simp_all

/-- What has been validated is valid. -/
theorem validate_of_validate {config valid : Config} (h : config.validate = .ok valid) :
    valid.validate = .ok valid := by
  obtain ⟨rfl, -⟩ := validate_eq_ok_iff.mp h
  exact h

/-- What is loaded from a file is valid. -/
theorem validate_of_load {file : Option ByteArray} {config : Config} (h : load file = .ok config) :
    config.validate = .ok config := by
  unfold load at h
  split at h
  · cases h
  · rename_i text _
    cases hread : read text with
    | error error =>
        rw [hread] at h
        cases h
    | ok raw =>
        rw [hread] at h
        exact validate_of_validate h

/-- What the options of a command make of it is valid too. -/
theorem validate_of_configure {options : Console.Options} {file : Option ByteArray}
    {config : Config} (h : Console.configure options file = .ok config) :
    config.validate = .ok config := by
  unfold Console.configure at h
  cases hbase : Console.baseConfig options file with
  | error ending =>
      rw [hbase] at h
      cases h
  | ok base =>
      rw [hbase] at h
      cases hvalid : (options.override base).validate with
      | error error =>
          simp only [bind, Except.bind, hvalid] at h
          cases h
      | ok valid =>
          simp only [bind, Except.bind, hvalid] at h
          cases h
          exact validate_of_validate hvalid

/-- Whatever is accepted is valid. -/
theorem IsAccepted.validate {config : Config} (h : config.IsAccepted) :
    config.validate = .ok config := by
  cases h with
  | validated h => exact h
  | loaded h => exact validate_of_load h
  | configured h => exact validate_of_configure h

/-! ### Sessions -/

/-- There is no session for a configuration that asks for more events than a feed can keep. -/
theorem new?_eq_none_iff {config : Config} :
    Session.new? config = none ↔ Board.Feed.maxCapacity < config.eventCapacity.toNat := by
  rw [Session.new?, Session.withEngine?, Option.map_eq_none_iff, Board.ofCapacity?,
    Option.map_eq_none_iff, Board.Feed.ofCapacity?, ← Nat.not_le]
  split_ifs <;> simp_all

/-- A configuration that can be worked with: there is a session for it, the first request for
initialization succeeds and leaves the session ready, and from then on requests to run are accepted
on every thread and come to what the program comes to. -/
def IsWorkable (config : Config) : Prop :=
  ∃ new prepared, Session.new? config = some new ∧
    Session.prepare new = some (.ok (), prepared) ∧ prepared.host.status = .ready ∧
    (∀ thread, prepared.refusal? thread = none) ∧
    ∀ source, ∃ outcome after, Session.runQuietly source prepared = some (outcome, after) ∧
      Session.Agrees (Program.run config.limits source) (prepared.runs + 1) outcome after

/-- The limits of a run are zero exactly if their fields are. -/
theorem limits_ne_zero_iff {config : Config} :
    config.limits.callDepth ≠ 0 ∧ config.limits.nestingDepth ≠ 0 ↔
      config.maxCallDepth ≠ 0 ∧ config.maxNestingDepth ≠ 0 := by
  simp only [limits, ne_eq, ← UInt64.toNat_inj, UInt64.toNat_zero]

/-- **What it takes to work with a configuration**: no limit is zero, and a feed can keep as many
events as are asked for. A capacity of zero, which validation refuses, would do. -/
theorem isWorkable_iff {config : Config} :
    config.IsWorkable ↔ (config.maxCallDepth ≠ 0 ∧ config.maxNestingDepth ≠ 0) ∧
      config.eventCapacity.toNat ≤ Board.Feed.maxCapacity := by
  constructor
  · -- What has been prepared is what a command opens, and that takes limits that are not zero.
    rintro ⟨new, prepared, hnew, hprepare, -⟩
    have hopen : Console.openSession config = .ok prepared := by
      simp only [Console.openSession, hnew, StateT.run, hprepare]
    obtain ⟨hcalls, hnesting, -⟩ := Console.openSession_eq_ok_iff.mp hopen
    refine ⟨limits_ne_zero_iff.mp ⟨hcalls, hnesting⟩, Nat.not_lt.mp fun hvast => ?_⟩
    rw [new?_eq_none_iff.mpr hvast] at hnew
    cases hnew
  · rintro ⟨hlimits, hcapacity⟩
    obtain ⟨hcalls, hnesting⟩ := limits_ne_zero_iff.mpr hlimits
    obtain ⟨new, hnew⟩ : ∃ new, Session.new? config = some new := by
      rw [← Option.ne_none_iff_exists', ne_eq, new?_eq_none_iff, Nat.not_lt]
      exact hcapacity
    have hprepare := Session.prepare_of_new? hnew
    rw [Engine.Host.prepareAll_lisp hcalls hnesting] at hprepare
    have hopen := Session.isOpen_prepared hnew hcalls hnesting
    refine ⟨new, _, hnew, hprepare, rfl, hopen.accepts, fun source => ?_⟩
    obtain ⟨outcome, after, hrun, -, -, hagrees⟩ := hopen.run_quietly source
    exact ⟨outcome, after, hrun, hagrees⟩

/-- A command crashes when the configuration for it has no session. -/
theorem outcome_of_new?_eq_none {config : Config} (hnew : Session.new? config = none)
    {surroundings : Console.Surroundings} {options : Console.Options}
    (hconfig : Console.configure options (options.config.bind surroundings.file) = .ok config)
    (task : Console.Command) :
    (Console.Request.command options task).outcome surroundings = .error .crash := by
  simp only [Console.Request.outcome, hconfig, Console.openSession, hnew, bind, Except.bind]

/-- **Which accepted configurations can be worked with**: those of which a feed can keep as many
events as they ask for. With any other there is no session, and every command crashes. -/
theorem workable_of_accepted {config : Config} (h : config.IsAccepted) :
    (config.IsWorkable ↔ config.eventCapacity.toNat ≤ Board.Feed.maxCapacity) ∧
    (Board.Feed.maxCapacity < config.eventCapacity.toNat →
      Session.new? config = none ∧
      ∀ surroundings options task,
        Console.configure options (options.config.bind surroundings.file) = .ok config →
        (Console.Request.command options task).outcome surroundings = .error .crash) := by
  obtain ⟨-, hcalls, hnesting, -⟩ := validate_eq_ok_iff.mp h.validate
  refine ⟨isWorkable_iff.trans (and_iff_right ⟨hcalls, hnesting⟩), fun hvast => ?_⟩
  have hnew := new?_eq_none_iff.mpr hvast
  exact ⟨hnew, fun _ _ task hconfig => outcome_of_new?_eq_none hnew hconfig task⟩

/-- The greatest limits that there are, and the least capacity. -/
theorem workable_of_accepted_extreme :
    let config : Config :=
      { maxCallDepth := 18446744073709551615, maxNestingDepth := 18446744073709551615,
        eventCapacity := 1 }
    config.IsAccepted ∧ config.IsWorkable := by
  intro config
  have haccepted : config.IsAccepted := .validated rfl
  exact ⟨haccepted, (workable_of_accepted haccepted).1.mpr (by decide)⟩

/-- A configuration file that asks for more events than can be addressed, and a program. -/
def vast : Console.Surroundings where
  file path :=
    if path = "c.json" then some "\x7b\"event_capacity\": 9223372036854775808\x7d".toUTF8
    else some "(print 1) 2".toUTF8
  stamps := ⟨"run", .null, 0, 0, "0s"⟩

/-- **Validation lets through what there is no session for.** The file loads, and the command that
names it crashes. -/
theorem accepted_not_workable :
    let config : Config := { eventCapacity := 9223372036854775808 }
    config.validate = .ok config ∧ load (vast.file "c.json") = .ok config ∧
      Session.new? config = none ∧ ¬ config.IsWorkable ∧
      (Console.outcome vast ["-c", "c.json", "run", "p.alc"]).ending = .crash := by
  intro config
  have hload : load (vast.file "c.json") = .ok config := by
    have hread : read "\x7b\"event_capacity\": 9223372036854775808\x7d" = .ok config := rfl
    exact load_of_read hread
  have hnew : Session.new? config = none := new?_eq_none_iff.mpr (by decide)
  have hconfig : Console.configure { config := some "c.json" } (vast.file "c.json") =
      .ok config := by
    simp only [Console.configure, Console.baseConfig, hload]
    rfl
  have hrequest : Console.Request.read ["-c", "c.json", "run", "p.alc"] =
      .ok (.command { config := some "c.json" } (.run "p.alc" {})) := rfl
  have hcrash : (Console.Request.command { config := some "c.json" } (.run "p.alc" {})).outcome
      vast = .error .crash := outcome_of_new?_eq_none hnew hconfig _
  refine ⟨rfl, hload, hnew, ?_, ?_⟩
  · rintro ⟨new, _, hsome, -⟩
    rw [hnew] at hsome
    cases hsome
  · simp only [Console.outcome, hrequest, hcrash]

end Config

end Workbench
