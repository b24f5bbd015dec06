import Workbench.Proofs.Evaluator.Metered
import Workbench.Proofs.Evaluator.Sink
import Workbench.Proofs.Form.Seam
import Workbench.Proofs.Program.Depth

/-!
# Limits under which evaluation never runs out of groups

Three limits are enforced apart from each other: how deeply the source text is nested, how many
calls of functions are nested, and how many groups are under evaluation at once. The first two are
settings of a run, the third is not. **Theorem** (`Program.run_spared`): when the nesting depth and,
for every call that may be nested, the nesting depth less one do not add up to more than the groups
there may be, then no source text fails for the number of its groups. What the parser accepts
finishes, is at fault, or nests more calls than it may. And where no function is entered at all, it
is enough that the nesting depth alone is no greater than the number of groups.

Both come from one account of the groups that are left. A group under evaluation has room for all
that is nested inside it and, for each frame that may still be entered, for one body of a function
(`Room.Fits`); the word of a function counts as nesting, so that its body is nested one less deeply
than the text may be. Bodies travel: through frames, through lists, in and out of builtin functions.
So the account stands only because every function anywhere in the machine has such a body
(`Machine.Shallow`). The induction is over the evaluator with a meter, whose readings say how many
frames there were: a group is refused only when there were more than the account allows for
(`Eval.Spares`).
-/

namespace Workbench

/-! ### The account -/

/-- What is granted to a run. -/
structure Room where
  bounds : Bounds
  /-- The number of frames up to which there has to be room. -/
  peak : Nat
  /-- How deeply the bodies of functions are nested at most. -/
  depth : Nat

/-- Inside `nesting` groups and with `frames` frames, there is room for so many groups more and, up
to the peak, for the body of one function in every further frame. -/
def Room.Fits (room : Room) (nesting frames groups : Nat) : Prop :=
  frames ≤ room.peak → nesting + groups + (room.peak - frames) * room.depth ≤ room.bounds.nesting

namespace Room.Fits

variable {room : Room} {nesting frames groups groups' : Nat}

/-- Where there is room for some groups, there is room for fewer. -/
theorem mono (h : room.Fits nesting frames groups) (hle : groups' ≤ groups) :
    room.Fits nesting frames groups' := by
  intro hpeak
  have := h hpeak
  omega

/-- A group takes one unit of what was set aside for it. -/
theorem enter (h : room.Fits nesting frames (1 + groups)) :
    room.Fits (nesting + 1) frames groups := by
  intro hpeak
  have := h hpeak
  omega

/-- Where there is room for one more group, it is not refused. -/
theorem lt (h : room.Fits nesting frames (1 + groups)) (hpeak : frames ≤ room.peak) :
    nesting < room.bounds.nesting := by
  have := h hpeak
  omega

/-- A frame takes the body that was set aside for it. -/
theorem call (h : room.Fits nesting frames groups) (hbody : groups' ≤ room.depth) :
    room.Fits nesting (frames + 1) groups' := by
  intro hpeak
  have hroom := h (Nat.le_of_succ_le hpeak)
  have hshare : (room.peak - frames) * room.depth =
      (room.peak - (frames + 1)) * room.depth + room.depth := by
    rw [← Nat.succ_mul]
    congr 1
    omega
  omega

end Room.Fits

/-- A failure that the account allows for: one of the program, the limit on calls, or the limit on
groups when there have been more frames than there had to be room for. -/
def Failure.Foreseen (room : Room) (readings : List Reading) : Failure → Prop
  | .parse _ => False
  | .fault .. => True
  | .callDepth limit => limit = room.bounds.calls
  | .nesting _ => ∃ reading ∈ readings, room.peak < reading.frames

/-- Where a failure ends makes no difference to whether it is foreseen. -/
theorem Failure.Foreseen.endingAt {room : Room} {readings : List Reading} {failure : Failure}
    (h : failure.Foreseen room readings) (place : Option Position) :
    (failure.endingAt place).Foreseen room readings := by
  cases failure with
  | fault cause ending => cases ending <;> trivial
  | parse | callDepth | nesting => exact h

/-! ### The bodies in a machine -/

/-- All functions in the value have bodies that are nested no more deeply than that. -/
def Value.Shallow (depth : Nat) (value : Value) : Prop :=
  value.Carries fun body => body.depth ≤ depth

/-- A name stands for a shallow value where all frames bind such values. -/
theorem Scope.shallow_lookup {scope : Scope} {depth : Nat}
    (h : ∀ frame ∈ scope.frames, ∀ binding ∈ frame, binding.2.Shallow depth) (name : String) :
    (scope.lookup name).Shallow depth := by
  rcases scope.lookup_eq_null_or_mem name with hnull | ⟨frame, hframe, hbinding⟩
  · rw [hnull]
    trivial
  · exact h frame hframe _ hbinding

/-- The frame of a call binds its arguments. -/
theorem Frame.shallow_ofArguments {depth : Nat} (parameters : List String) {arguments : List Value}
    (h : ∀ argument ∈ arguments, argument.Shallow depth) :
    ∀ binding ∈ Frame.ofArguments parameters arguments, binding.2.Shallow depth := by
  intro binding hmem
  have hzip : binding ∈ parameters.zip arguments := List.mem_reverse.mp hmem
  exact h binding.2 (List.of_mem_zip hzip).2

variable {ω : Type}

/-- A machine with a meter that print events do not touch, with so many frames and inside so many
groups, in which all functions have bodies that are nested no more deeply than that. -/
structure Machine.Shallow (depth nesting frames : Nat) (machine : Machine (Meter × ω)) : Prop where
  frames : machine.scope.frames.length = frames
  nesting : machine.world.1.nesting = nesting
  bindings : ∀ frame ∈ machine.scope.frames, ∀ binding ∈ frame, binding.2.Shallow depth
  sink : ∀ values world, (machine.sink values world).1 = world.1

/-- A new machine has one frame, no group and no functions but the builtin ones. -/
theorem Machine.shallow_metered (depth : Nat) :
    ((Machine.recording Frame.standard).metered {}).Shallow depth 0 1 where
  frames := rfl
  nesting := rfl
  sink := fun _ _ => rfl
  bindings := by
    intro frame hframe binding hbinding
    rw [List.mem_singleton.mp hframe] at hbinding
    obtain ⟨builtin, -, rfl⟩ := List.mem_map.mp hbinding
    trivial

namespace Machine.Shallow

variable {depth nesting frames nesting' : Nat} {machine : Machine (Meter × ω)}

/-- The meter may be set, as far as the number of groups is the right one. -/
theorem adjust (h : machine.Shallow depth nesting frames) {change : Meter → Meter}
    (hchange : (change machine.world.1).nesting = nesting') :
    (machine.adjust change).Shallow depth nesting' frames :=
  { h with nesting := hchange }

/-- A shallow value may be bound. -/
theorem define (h : machine.Shallow depth nesting frames) (name : String) {value : Value}
    (hvalue : value.Shallow depth) :
    Machine.Shallow depth nesting frames
      { machine with scope := machine.scope.define name value } where
  frames := h.frames
  nesting := h.nesting
  sink := h.sink
  bindings := by
    obtain ⟨htop, houter⟩ := List.forall_mem_cons.mp h.bindings
    exact List.forall_mem_cons.mpr ⟨List.forall_mem_cons.mpr ⟨hvalue, htop⟩, houter⟩

/-- A call has a frame of its own, which binds shallow values. -/
theorem enter (h : machine.Shallow depth nesting frames) {frame : Frame}
    (hframe : ∀ binding ∈ frame, binding.2.Shallow depth) :
    Machine.Shallow depth nesting (frames + 1)
      { machine with scope := machine.scope.enter frame } where
  frames := congrArg (· + 1) h.frames
  nesting := h.nesting
  sink := h.sink
  bindings := List.forall_mem_cons.mpr ⟨hframe, h.bindings⟩

/-- When the call is over, the other frames are as they were. -/
theorem leave (h : machine.Shallow depth nesting (frames + 1)) (hframes : 0 < frames) :
    Machine.Shallow depth nesting frames { machine with scope := machine.scope.leave } := by
  obtain ⟨⟨top, outer⟩, stamp, sink, world⟩ := machine
  have hlength : outer.length = frames := Nat.succ.inj h.frames
  cases outer with
  | nil => exact absurd hlength (Nat.ne_of_lt hframes)
  | cons next outer => exact ⟨hlength, h.nesting, (List.forall_mem_cons.mp h.bindings).2, h.sink⟩

end Machine.Shallow

namespace Eval

variable {α : Type}

/-- The pairing of steps that keep a machine shallow and fail as the account allows for. -/
def sparing (room : Room) (nesting frames : Nat) : Pairing (Meter × ω) (Meter × ω) :=
  .keeping (Machine.Shallow room.depth nesting frames)
    (fun failure world => failure.Foreseen room world.1.readings) fun _ _ => trivial

/-- From every machine that is shallow, the step comes to such a machine, with an answer of a kind
that is wanted or a failure that the account allows for. -/
def Spares (room : Room) (nesting frames : Nat) (wanted : α → Prop)
    (step : Eval (Meter × ω) α) : Prop :=
  Keeps (Machine.Shallow room.depth nesting frames)
    (fun failure world => failure.Foreseen room world.1.readings) wanted step

variable {room : Room} {nesting frames : Nat}

/-! ### Steps of the machine -/

/-- A name stands for a shallow value. -/
theorem spares_lookup (name : String) :
    Spares room nesting frames (Value.Shallow room.depth)
      (lookup name : Eval (Meter × ω) Value) := by
  intro machine hmachine
  exact kept_ok (Scope.shallow_lookup hmachine.bindings name) hmachine

/-- What is defined is shallow. -/
theorem spares_define (name : String) {value : Value} (hvalue : value.Shallow room.depth) :
    Spares room nesting frames (fun _ => True) (define name value : Eval (Meter × ω) Unit) := by
  intro machine hmachine
  exact kept_ok trivial (hmachine.define name hvalue)

/-- A new function has a body that is not too deep. -/
theorem spares_makeFunction (parameters : List String) {body : Form}
    (hbody : body.depth ≤ room.depth) :
    Spares room nesting frames (Value.Shallow room.depth)
      (makeFunction parameters body : Eval (Meter × ω) Value) := by
  intro machine hmachine
  apply kept_ok
  · exact hbody
  · exact ⟨hmachine.frames, hmachine.nesting, hmachine.bindings, hmachine.sink⟩

/-- A print event does not touch the meter. -/
theorem spares_raise (values : List Value) :
    Spares room nesting frames (fun _ => True) (raise values : Eval (Meter × ω) Unit) := by
  intro machine hmachine
  have hmeter := congrArg Meter.nesting (hmachine.sink values machine.world)
  apply kept_ok
  · trivial
  · exact ⟨hmachine.frames, hmeter.trans hmachine.nesting, hmachine.bindings, hmachine.sink⟩

/-- What a builtin function answers is as shallow as its arguments are. -/
theorem spares_callBuiltin (builtin : Builtin) {arguments : List Value}
    (h : ∀ argument ∈ arguments, argument.Shallow room.depth) :
    Spares room nesting frames (Value.Shallow room.depth)
      (callBuiltin builtin arguments : Eval (Meter × ω) Value) := by
  refine pairs_keeping_iff.mp ((sparing room nesting frames).pairs_callBuiltin ?_ ?_)
  · exact fun values _ => (spares_raise values).mono fun _ _ => ⟨(), trivial⟩
  · exact fun value hvalue => ⟨builtin.carries_answer h hvalue, rfl⟩

/-- A call of a function: it has a frame of its own, and none if there are too many. -/
theorem Spares.framed {wanted : Value → Prop} {body : Eval (Meter × ω) Value}
    (h : Spares room nesting (frames + 1) wanted body) (hframes : 0 < frames) {frame : Frame}
    (hframe : ∀ binding ∈ frame, binding.2.Shallow room.depth) :
    Spares room nesting frames wanted (do checkCalls room.bounds; inFrame frame body) :=
  Keeps.framed (fun _ => rfl) (fun hmachine => hmachine.enter hframe)
    (fun hafter => hafter.leave hframes) h

/-! ### The counters -/

/-- A step between two changes of the meter, of which the second undoes the first and forgets no
reading. -/
theorem kept_counted {nesting' : Nat} {wanted : α → Prop} {begin finish : Meter → Meter}
    {machine : Machine (Meter × ω)} {step : Eval (Meter × ω) α}
    (hfinish : ∀ meter : Meter, meter.nesting = nesting' →
      (finish meter).nesting = nesting ∧ (finish meter).readings = meter.readings)
    (h : Kept (Machine.Shallow room.depth nesting' frames)
      (fun failure world => failure.Foreseen room world.1.readings) wanted
      (step (machine.adjust fun meter => (begin meter).read machine.scope))) :
    Kept (Machine.Shallow room.depth nesting frames)
      (fun failure world => failure.Foreseen room world.1.readings) wanted
      (counted begin finish step machine) := by
  obtain ⟨hnesting, hkept⟩ := hfinish _ h.machine.nesting
  refine ⟨h.machine.adjust hnesting, h.answer, fun failure hfailure => ?_⟩
  change failure.Foreseen room (finish _).readings
  rw [hkept]
  exact h.failure failure hfailure

/-- One activation more makes no difference to the account. -/
theorem Spares.activated {wanted : α → Prop} {step : Eval (Meter × ω) α}
    (h : Spares room nesting frames wanted step) :
    Spares room nesting frames wanted (activated step) := by
  intro machine hmachine
  refine kept_counted (fun _ hmeter => ⟨hmeter, rfl⟩) (h ?_)
  exact hmachine.adjust hmachine.nesting

/-- **A group is refused only beyond the peak.** The reading that its activation has just taken
shows it. -/
theorem Spares.group {groups : Nat} {wanted : α → Prop} {step : Eval (Meter × ω) α}
    (hfits : room.Fits nesting frames (1 + groups))
    (h : Spares room (nesting + 1) frames wanted step) :
    Spares room nesting frames wanted (Eval.activated (grouped room.bounds step)) := by
  intro machine hmachine
  refine kept_counted (fun _ hmeter => ⟨hmeter, rfl⟩) ?_
  have hactive : Machine.Shallow room.depth nesting frames
      (machine.adjust fun meter => meter.activate.read machine.scope) :=
    hmachine.adjust hmachine.nesting
  rw [grouped]
  split
  next hfull =>
      rw [hactive.nesting] at hfull
      refine kept_error ⟨_, List.mem_cons_self, ?_⟩ hactive
      rw [hmachine.frames]
      exact Nat.lt_of_not_le fun hpeak => Nat.not_lt_of_le hfull (hfits.lt hpeak)
  next hopen =>
      refine kept_counted (fun _ hmeter => ⟨?_, rfl⟩) (h (hactive.adjust ?_))
      · exact congrArg (· - 1) hmeter
      · exact congrArg (· + 1) hactive.nesting

/-! ### Forms

The steps below are given the evaluation of the forms inside them, and that of the bodies of
functions in one frame more. -/

section Forms

variable {inside : Form → Eval (Meter × ω) Value} {items : List Form}

/-- An application calls a function whose body has been accounted for. -/
theorem spares_apply (hframes : 0 < frames)
    (h : ∀ body, body.depth ≤ room.depth →
      Spares room nesting (frames + 1) (Value.Shallow room.depth) (inside body))
    {callee : Value} (hcallee : callee.Shallow room.depth) {arguments : List Value}
    (harguments : ∀ argument ∈ arguments, argument.Shallow room.depth) :
    Spares room nesting frames (Value.Shallow room.depth)
      (apply room.bounds inside callee arguments) := by
  have halike : callee.CalledAlike (Twice fun body => body.depth ≤ room.depth) callee :=
    (Value.correspondence_carries _).callee ⟨hcallee, rfl⟩
  refine pairs_keeping_iff.mp ((sparing room nesting frames).pairs_apply halike rfl
    ⟨trivial, rfl⟩ (fun builtin => ?_) ?_)
  · exact pairs_keeping_iff.mpr (spares_callBuiltin builtin harguments)
  · rintro parameters body _ ⟨hbody, rfl⟩
    exact pairs_keeping_iff.mpr
      ((h body hbody).framed hframes (Frame.shallow_ofArguments parameters harguments))

variable (h : ∀ form ∈ items, Spares room nesting frames (Value.Shallow room.depth) (inside form))
include h

/-- The list of shallow values is shallow. -/
theorem spares_list :
    Spares room nesting frames (Value.Shallow room.depth)
      (do return .list (← evalAll inside items)) := by
  refine pairs_keeping_iff.mp ((sparing room nesting frames).pairs_list ?_
    ((keeps_items h).imp fun _ _ hitem => hitem.2))
  intro values _ hvalues
  obtain ⟨hshallow, rfl⟩ := forall₂_twice.mp hvalues
  exact ⟨Value.carriesAll_iff.mpr hshallow, rfl⟩

/-- A group in parentheses. -/
theorem spares_evalCall (hframes : 0 < frames)
    (hbody : ∀ body, body.depth ≤ room.depth →
      Spares room nesting (frames + 1) (Value.Shallow room.depth) (inside body)) :
    Spares room nesting frames (Value.Shallow room.depth) (evalCall room.bounds inside items) := by
  rw [evalCall_eq]
  refine pairs_keeping_iff.mp ((sparing room nesting frames).pairs_callWith ?_
    (Value.correspondence_carries fun body => body.depth ≤ room.depth) (fun _ _ hvalue => hvalue)
    ?_ (keeps_items h))
  · rintro callee _ arguments _ ⟨hcallee, rfl⟩ harguments
    obtain ⟨hshallow, rfl⟩ := forall₂_twice.mp harguments
    exact pairs_keeping_iff.mpr (spares_apply hframes hbody hcallee hshallow)
  · rintro name value _ ⟨hvalue, rfl⟩
    exact (spares_define name hvalue).mono fun _ _ => ⟨(), trivial⟩

end Forms

/-- What is not a group enters none. The body of a function is nested less deeply than the function
is. -/
theorem spares_eval_atom (bounds : Bounds) {form : Form}
    (hgroup : form.kind ≠ .call ∧ form.kind ≠ .list) (h : form.depth ≤ room.depth + 1) :
    Spares room nesting frames (Value.Shallow room.depth)
      (eval bounds 0 form : Eval (Meter × ω) Value) := by
  refine pairs_keeping_iff.mp ((sparing room nesting frames).pairs_eval_atom hgroup
    (fun hplain => ⟨hplain.carries, rfl⟩) ?_ ?_ 0 0)
  · exact fun token _ => pairs_keeping_iff.mpr (spares_lookup token.value)
  · rintro token parameters body rfl names
    have hbody : body.depth ≤ room.depth := by
      rw [Form.depth] at h
      omega
    exact pairs_keeping_iff.mpr (spares_makeFunction names hbody)

/-! ### Evaluation as a whole -/

/-- **Evaluation keeps to the account.** The induction is on the fuel: the forms of a group and the
bodies of the functions that it calls are both evaluated one unit further in. -/
theorem spares_metered (fuel : Nat) {form : Form} (hframes : 0 < frames)
    (hdepth : form.depth ≤ room.depth + 1) (hfits : room.Fits nesting frames form.depth) :
    Spares room nesting frames (Value.Shallow room.depth)
      (metered room.bounds fuel form : Eval (Meter × ω) Value) := by
  induction fuel generalizing nesting frames form with
  | zero =>
      intro machine hmachine
      rw [metered]
      apply kept_ok
      · trivial
      · exact hmachine.adjust hmachine.nesting
  | succ fuel ih =>
      -- Both are evaluated inside the group, which has drawn its unit by then; a body also draws
      -- what was set aside for its frame.
      have hitems : ∀ items, form.depth = 1 + Form.depthAll items → ∀ item ∈ items,
          Spares room (nesting + 1) frames (Value.Shallow room.depth)
            (metered room.bounds fuel item : Eval (Meter × ω) Value) := by
        intro items hgroup item hmem
        have hle : item.depth ≤ Form.depthAll items :=
          Form.depthAll_le_iff.mp (Nat.le_refl _) item hmem
        rw [hgroup] at hfits
        exact ih hframes (by omega) (hfits.enter.mono hle)
      have hbody : ∀ items, form.depth = 1 + Form.depthAll items → ∀ body,
          body.depth ≤ room.depth →
          Spares room (nesting + 1) (frames + 1) (Value.Shallow room.depth)
            (metered room.bounds fuel body : Eval (Meter × ω) Value) := by
        intro items hgroup body hle
        rw [hgroup] at hfits
        exact ih (Nat.succ_pos _) (Nat.le_succ_of_le hle) (hfits.enter.call hle)
      cases form with
      | list items => exact Spares.group hfits (spares_list (hitems items rfl))
      | call items =>
          refine Spares.group hfits ?_
          exact spares_evalCall (hitems items rfl) hframes (hbody items rfl)
      | word | string | number | boolean | function =>
          exact Spares.activated (spares_eval_atom room.bounds ⟨nofun, nofun⟩ hdepth)

/-- A program keeps to the account if there is room for its deepest form. -/
theorem spares_meteredProgram (fuel : Nat) {forms : List Form} (hframes : 0 < frames)
    (hdepth : ∀ form ∈ forms, form.depth ≤ room.depth + 1)
    (hfits : room.Fits nesting frames (room.depth + 1)) :
    Spares room nesting frames (Value.Shallow room.depth)
      (meteredProgram room.bounds fuel (.call forms) : Eval (Meter × ω) Value) := by
  refine keeps_evalLast (fun _ _ => trivial) (fun form hmem => ?_) trivial
  have hform : Spares room nesting frames (Value.Shallow room.depth)
      (metered room.bounds fuel form : Eval (Meter × ω) Value) :=
    spares_metered fuel hframes (hdepth form hmem) (hfits.mono (hdepth form hmem))
  exact Keeps.reported hform fun hforeseen => hforeseen.endingAt form.lastPlace

end Eval

/-! ### Programs -/

namespace Program

/-- The readings that are taken while a program runs; none if it is not a program. -/
def readings (limits : Limits) (source : String) : List Reading :=
  match Form.parse limits.nestingDepth (Token.tokenize source) with
  | .error _ => []
  | .ok root =>
      (Eval.meteredProgram limits.bounds (limits.bounds.nesting + 1) root
        ((Machine.recording Frame.standard).metered {})).2.world.1.readings

/-- Nothing is evaluated in another frame than that of the globals. -/
def EntersNoFunction (limits : Limits) (source : String) : Prop :=
  ∀ reading ∈ readings limits source, reading.frames = 1

instance (limits : Limits) (source : String) : Decidable (EntersNoFunction limits source) :=
  inferInstanceAs (Decidable (∀ reading ∈ readings limits source, reading.frames = 1))

/-- The evaluation of a program and its evaluation with a meter are one. -/
theorem endsWithin_program (limits : Limits) (root : Form) :
    Eval.EndsWithin ⟨limits.callDepth + 1, limits.bounds.nesting, limits.bounds.nesting + 1⟩ 0
      (Machine.recording Frame.standard)
      (Eval.meteredProgram limits.bounds (limits.bounds.nesting + 1) root)
      (Eval.evalProgram limits.bounds root) := by
  refine Eval.Tracks.endsWithin ?_
  exact Eval.tracks_meteredProgram (Nat.le_refl _) (Nat.le_refl _) (Nat.lt_succ_self _)
    (Nat.succ_le_succ (Nat.zero_le _)) (by simp) root

/-- There is never more than one frame for each call that may be nested and one for the globals. -/
theorem frames_le_of_mem_readings {limits : Limits} {source : String} {reading : Reading}
    (h : reading ∈ readings limits source) : reading.frames ≤ limits.callDepth + 1 := by
  unfold readings at h
  split at h
  · cases h
  next root _ => exact ((endsWithin_program limits root).meter.readings reading h).frames

/-- What is granted to a run in which up to so many calls are to have room. Functions count as
nesting, so that their bodies are nested less deeply than the text may be. -/
def roomFor (limits : Limits) (calls : Nat) : Room :=
  ⟨limits.bounds, calls + 1, limits.nestingDepth - 1⟩

/-- Such a run has room for these calls if the depths add up to no more than evaluation goes. -/
theorem fits_roomFor {limits : Limits} {calls : Nat}
    (h : limits.nestingDepth + calls * (limits.nestingDepth - 1) ≤ limits.bounds.nesting) :
    (roomFor limits calls).Fits 0 1 ((roomFor limits calls).depth + 1) := by
  intro _
  change 0 + (limits.nestingDepth - 1 + 1) + calls * (limits.nestingDepth - 1) ≤
    limits.bounds.nesting
  have hpositive : 1 ≤ limits.bounds.nesting := Nat.le_add_left 1 _
  cases hdepth : limits.nestingDepth with
  | zero => simpa using hpositive
  | succ depth =>
      rw [hdepth] at h
      omega

/-- A program that fails has failed in evaluation. -/
theorem evalProgram_of_run {limits : Limits} {source : String} {root : Form}
    (hparse : Form.parse limits.nestingDepth (Token.tokenize source) = .ok root)
    {failure : Failure} (h : (run limits source).outcome = .error failure) :
    (Eval.evalProgram limits.bounds root (Machine.recording Frame.standard)).1 =
      .error failure := by
  rw [run_eq_of_parse hparse] at h
  change Except.map _ (Eval.evalProgram limits.bounds root
    (Machine.recording Frame.standard)).1 = .error failure at h
  cases hprogram : (Eval.evalProgram limits.bounds root (Machine.recording Frame.standard)).1 with
  | ok value =>
      rw [hprogram] at h
      cases h
  | error failure' =>
      rw [hprogram] at h
      cases h
      rfl

/-- **A program fails as the account foresees.** -/
theorem foreseen_of_parse {limits : Limits} {source : String} {root : Form} {calls : Nat}
    (hparse : Form.parse limits.nestingDepth (Token.tokenize source) = .ok root)
    (hroom : limits.nestingDepth + calls * (limits.nestingDepth - 1) ≤ limits.bounds.nesting)
    {failure : Failure}
    (h : (run limits source).outcome = .error failure) :
    failure.Foreseen (roomFor limits calls) (readings limits source) := by
  obtain ⟨parser, -, -, rfl⟩ := Form.parse_eq_ok_iff.mp hparse
  have hdepth : ∀ form ∈ parser.forms.reverse,
      form.depth ≤ (roomFor limits calls).depth + 1 := by
    intro form hmem
    have hform := (Form.derivesAll_of_parse hparse).2 form hmem
    exact Nat.le_trans hform (Nat.le_add_of_sub_le (Nat.le_refl _))
  have hspared := Eval.spares_meteredProgram (limits.bounds.nesting + 1) Nat.one_pos hdepth
    (fits_roomFor hroom) (Machine.shallow_metered _)
  have hanswer := (endsWithin_program limits (.call parser.forms.reverse)).answer
  have hreadings : readings limits source =
      (Eval.meteredProgram limits.bounds (limits.bounds.nesting + 1) (.call parser.forms.reverse)
        ((Machine.recording Frame.standard).metered {})).2.world.1.readings := by
    simp only [readings, hparse]
  rw [hreadings]
  exact hspared.failure failure (hanswer.trans (evalProgram_of_run hparse h))

/-- Where the account holds and no reading shows more frames than it allows for, no group is
refused. -/
theorem outcome_ne_nesting {limits : Limits} {source : String} {calls : Nat}
    (hroom : limits.nestingDepth + calls * (limits.nestingDepth - 1) ≤ limits.bounds.nesting)
    (hpeak : ∀ reading ∈ readings limits source, reading.frames ≤ calls + 1) (limit : Nat) :
    (run limits source).outcome ≠ .error (.nesting limit) := by
  intro hfailure
  cases hparse : Form.parse limits.nestingDepth (Token.tokenize source) with
  | error error =>
      rw [run_eq_of_parse_error hparse] at hfailure
      cases hfailure
  | ok root =>
      obtain ⟨reading, hmem, hbeyond⟩ := foreseen_of_parse hparse hroom hfailure
      exact Nat.not_lt_of_le (hpeak reading hmem) hbeyond

variable {ω : Type}

/-- What sink and world a run is given makes no difference to its outcome. -/
theorem runInto_outcome (limits : Limits) (source : String) (sink : List Value → ω → ω)
    (world : ω) : (runInto limits source sink world).1 = (run limits source).outcome :=
  (runInto_parallel (R := fun _ _ => True) limits source (fun _ _ _ _ => trivial) trivial).1

/-- **When the limits guarantee that groups are not exhausted.** If the nesting depth, and for every
call that may be nested the nesting depth less one, add up to no more than the groups that may be
under evaluation at once, then no source text fails for the number of its groups: a program that the
parser accepts finishes, is at fault, or nests one call too many. A program that enters no function
does not fail so under any nesting depth that is no greater than that number. -/
theorem run_spared (limits : Limits) (source : String) (sink : List Value → ω → ω) (world : ω) :
    let outcome := (runInto limits source sink world).1
    (limits.nestingDepth + limits.callDepth * (limits.nestingDepth - 1) ≤ 320 →
      (∀ limit, outcome ≠ .error (.nesting limit)) ∧
      ∀ root, Form.parse limits.nestingDepth (Token.tokenize source) = .ok root →
        (∃ output, outcome = .ok output) ∨
        (∃ cause ending, outcome = .error (.fault cause ending)) ∨
        outcome = .error (.callDepth limits.callDepth)) ∧
    (limits.nestingDepth ≤ 320 → EntersNoFunction limits source →
      ∀ limit, outcome ≠ .error (.nesting limit)) := by
  intro outcome
  have houtcome : outcome = (run limits source).outcome :=
    runInto_outcome limits source sink world
  rw [houtcome]
  constructor
  · intro hroom
    have hspared : ∀ limit, (run limits source).outcome ≠ .error (.nesting limit) :=
      outcome_ne_nesting hroom fun _ hmem => frames_le_of_mem_readings hmem
    refine ⟨hspared, fun root hparse => ?_⟩
    cases hrun : (run limits source).outcome with
    | ok output => exact .inl ⟨output, rfl⟩
    | error failure =>
        have hforeseen := foreseen_of_parse hparse hroom hrun
        cases failure with
        | parse error => exact absurd hforeseen id
        | fault cause ending => exact .inr (.inl ⟨cause, ending, rfl⟩)
        | callDepth limit =>
            cases hforeseen
            exact .inr (.inr rfl)
        | nesting limit => exact absurd hrun (hspared limit)
  · intro hdepth henters
    have hroom : limits.nestingDepth + 0 * (limits.nestingDepth - 1) ≤ limits.bounds.nesting := by
      rw [Nat.zero_mul]
      exact hdepth
    exact outcome_ne_nesting hroom fun reading hmem => Nat.le_of_eq (henters reading hmem)

/-- A function that calls itself without end runs into the limit on calls; a program that makes a
function and hands it on without a call enters none. -/
theorem run_spared_looping :
    let limits : Limits := ⟨2, 4⟩
    let looping := "(def f (fn [n] (f n))) (f 1)"
    let idle := "(def f (fn [n] [n])) [f (+ 1 2)]"
    (4 + 2 * (4 - 1) ≤ 320 ∧ (Form.parse 4 (Token.tokenize looping)).isOk = true ∧
      (runInto limits looping record #[]).1 = .error (.callDepth 2) ∧
      ∀ limit, (runInto limits looping record #[]).1 ≠ .error (.nesting limit)) ∧
    4 ≤ 320 ∧ (Form.parse 4 (Token.tokenize idle)).isOk = true ∧
      EntersNoFunction limits idle ∧ ¬ EntersNoFunction limits looping ∧
      ∀ limit, (runInto limits idle record #[]).1 ≠ .error (.nesting limit) := by
  intro limits looping idle
  have hidle : EntersNoFunction limits idle := by decide +kernel
  have hlooping : ¬ EntersNoFunction limits looping := by decide +kernel
  have hcalls : (match (runInto limits looping record #[]).1 with
      | .ok _ => none
      | .error failure => some failure) = some (Failure.callDepth 2) := by decide +kernel
  have hspared := ((run_spared limits looping record #[]).1 (by decide)).1
  refine ⟨⟨by decide, by decide +kernel, ?_, hspared⟩, by decide, by decide +kernel, hidle,
    hlooping, (run_spared limits idle record #[]).2 (by decide) hidle⟩
  cases houtcome : (runInto limits looping record #[]).1 with
  | ok output =>
      rw [houtcome] at hcalls
      cases hcalls
  | error failure =>
      rw [houtcome] at hcalls
      cases hcalls
      rfl

end Program

end Workbench
