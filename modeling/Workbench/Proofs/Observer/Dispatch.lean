import Workbench.Proofs.Observer.Registry

/-!
# Events of a registry whose observers act on it

While an event is dispatched, its observers may register and remove observers, themselves included,
clear the registry and dispatch further events on it, to any depth. **Theorem**
(`Solo.dispatch_account`): in a registry that has come about by operations, what an event does is
described by an *account* (`Solo.Account`), which gives its turns, one for each observer registered
when it began, and the reports of the events that were dispatched inside it.

The reports of the inner events are not part of the world. They are written down by a *chronicle*,
which dispatches events by the same code in a world that also remembers reports (`Solo.chronicled`).
Every event can be followed by a chronicle (`Solo.exists_chronicled`), and what the counters of the
registry do between two points of it is how many reports are written down between them and how many
failures these name (`Chronicle.counts`). A bound on how deeply events are nested only decides
whether an event has a result, and not which (`Solo.dispatch_mono`).
-/

namespace Workbench

open Audience

namespace Registry

/-! ### Worlds that come about -/

instance : LawfulHasAudience Solo := ⟨fun _ _ => rfl⟩

/-- The registries by themselves that can come about: guests arrive, who may do anything that
operations can do, and operations are performed. -/
inductive Solo.Reachable : Solo → Prop where
  | new : Reachable {}
  | invite {world world' : Solo} {number : Nat} (h : Reachable world)
      (behaviour : Behaviour (Op Nat) Answer)
      (hstep : Audience.invite behaviour world = some (number, world')) : Reachable world'
  | perform {world world' : Solo} {answer : Answer} (h : Reachable world) (depth : Nat)
      (op : Op Nat) (hstep : Solo.perform depth op world = some (answer, world')) : Reachable world'

/-- A call of a guest changes tables as it should if dispatching an event does. -/
theorem Solo.callGuest_growth {dispatch : List Value → Act Solo Report}
    (hdispatch : ∀ values, (growth Solo).Keeps (dispatch values)) (values : List Value)
    (number : Nat) : (growth Solo).Keeps (callGuest (Op.perform dispatch) values number) := by
  refine callGuest_keeps (P := fun _ => True) (fun op _ => op.perform_growth hdispatch)
    growth_credit (fun w _ => obeys_true (HasAudience.audience w)) ?_ values number
  intro w number guest hw _
  exact growth_of_registry_eq hw rfl

/-- Events change tables as they should, however deeply they are nested. -/
theorem Solo.dispatch_growth (depth : Nat) (values : List Value) :
    (growth Solo).Keeps (Solo.dispatch depth values) := by
  induction depth generalizing values with
  | zero =>
      intro w report w' _ h
      cases h
  | succ depth ih =>
      exact dispatch_keeps (Solo.callGuest_growth ih values) growth_taken growth_began

/-- The table of a registry that has come about is sound. -/
theorem Solo.Reachable.sound {world : Solo} (h : Solo.Reachable world) : world.registry.Sound := by
  induction h with
  | new => exact sound_new
  | invite _ behaviour hstep ih =>
      cases hstep
      exact ih
  | perform _ depth op hstep ih =>
      exact (op.perform_growth (Solo.dispatch_growth depth) ih hstep).1

/-! ### The bound on nesting -/

/-- A world has the audience that it has. -/
theorem matches_eq : Matches (σ := Solo) (τ := Solo) Eq where
  audience_eq h := congrArg HasAudience.audience h
  withAudience audience h := congrArg (HasAudience.withAudience · audience) h

/-- One more level of nesting changes no result. -/
theorem Solo.dispatch_simulates_succ (depth : Nat) (values : List Value) :
    Act.Simulates Eq (Solo.dispatch depth values) (Solo.dispatch (depth + 1) values) := by
  induction depth generalizing values with
  | zero =>
      intro w v report w' _ h
      cases h
  | succ depth ih =>
      exact matches_eq.dispatch fun number =>
        matches_eq.callGuest (fun op => op.perform_simulates matches_eq ih) values number

/-- An event that has a result has it for every greater bound. -/
theorem Solo.dispatch_mono {depth depth' : Nat} (hle : depth ≤ depth') {values : List Value}
    {world after : Solo} {report : Report}
    (h : Solo.dispatch depth values world = some (report, after)) :
    Solo.dispatch depth' values world = some (report, after) := by
  induction hle with
  | refl => exact h
  | step _ ih =>
      obtain ⟨after', hresult, rfl⟩ := Solo.dispatch_simulates_succ _ values rfl ih
      exact hresult

/-! ### Chronicles -/

/-- A registry by itself, with the reports of events written down in the order in which they end. -/
structure Chronicle where
  world : Solo
  reports : List Report := []

instance : HasAudience Chronicle Nat (Op Nat) Answer where
  audience chronicle := chronicle.world
  withAudience chronicle audience := { chronicle with world := audience }

instance : LawfulHasAudience Chronicle := ⟨fun _ _ => rfl⟩

/-- Dispatches an event as `Solo.dispatch` does, and writes down what is reported of it and of the
events inside it. -/
def Solo.chronicled : Nat → List Value → Act Chronicle Report
  | 0, _ => failure
  | depth + 1, values => do
      let report ← Audience.dispatch (callGuest (Op.perform (chronicled depth)) values)
      modify fun chronicle => { chronicle with reports := chronicle.reports ++ [report] }
      return report

/-- A chronicle of a world. -/
def Chronicle.IsOf (world : Solo) (chronicle : Chronicle) : Prop := chronicle.world = world

/-- A chronicle of a world has the audience of the world. -/
theorem Chronicle.matches_isOf : Matches Chronicle.IsOf where
  audience_eq h := h.symm
  withAudience _ _ := rfl

/-- Every event can be followed by a chronicle. -/
theorem Solo.simulates_chronicled (depth : Nat) (values : List Value) :
    Act.Simulates Chronicle.IsOf (Solo.dispatch depth values) (Solo.chronicled depth values) := by
  induction depth generalizing values with
  | zero =>
      intro w v report w' _ h
      cases h
  | succ depth ih =>
      intro w v report w' hworld h
      have hevent := Chronicle.matches_isOf.dispatch (fun number => Chronicle.matches_isOf.callGuest
        (fun op => op.perform_simulates Chronicle.matches_isOf ih) values number)
      obtain ⟨u, hu, hend⟩ := hevent hworld h
      refine ⟨{ u with reports := u.reports ++ [report] }, ?_, hend⟩
      exact Act.bind_eq_some_iff.mpr ⟨report, u, hu, rfl⟩

/-- A chronicle of an event ends with its report. -/
theorem Solo.exists_chronicled {depth : Nat} {values : List Value} {world after : Solo}
    {report : Report} (h : Solo.dispatch (depth + 1) values world = some (report, after)) :
    ∃ nested, Solo.chronicled (depth + 1) values ⟨world, []⟩ =
      some (report, ⟨after, nested ++ [report]⟩) := by
  have hstart : Chronicle.IsOf world ⟨world, []⟩ := rfl
  obtain ⟨chronicle, hchronicle, hend⟩ := Solo.simulates_chronicled (depth + 1) values hstart h
  obtain ⟨_, middle, -, hnote⟩ := Act.bind_eq_some_iff.mp hchronicle
  cases hnote
  cases hend
  exact ⟨middle.reports, hchronicle⟩

/-- How many failures some reports name. -/
def Report.failuresIn : List Report → Nat
  | [] => 0
  | report :: rest => report.failures.length + failuresIn rest

/-- The failures that reports name are those of the first and of the others. -/
theorem Report.failuresIn_append (reports reports' : List Report) :
    failuresIn (reports ++ reports') = failuresIn reports + failuresIn reports' := by
  induction reports with
  | nil => simp [failuresIn]
  | cons report rest ih => simp [failuresIn, ih, Nat.add_assoc]

/-- What the counters of the registry do between two points of a chronicle: events are counted as
reports are written down, and failures as these name them. -/
def Chronicle.counts : Act.Manner Chronicle where
  inv _ := True
  rel chronicle chronicle' :=
    chronicle'.world.registry.events + chronicle.reports.length =
        chronicle.world.registry.events + chronicle'.reports.length ∧
      chronicle'.world.registry.failures + Report.failuresIn chronicle.reports =
        chronicle.world.registry.failures + Report.failuresIn chronicle'.reports
  refl _ := ⟨rfl, rfl⟩
  trans := by
    rintro u v w ⟨hevents, hfailures⟩ ⟨hevents', hfailures'⟩
    exact ⟨by omega, by omega⟩

/-- A change of the audience that leaves the counters as they are. -/
theorem Chronicle.counts_withAudience (chronicle : Chronicle) {audience : Solo}
    (hevents : audience.registry.events = chronicle.world.registry.events)
    (hfailures : audience.registry.failures = chronicle.world.registry.failures) :
    Chronicle.counts.rel chronicle { chronicle with world := audience } := by
  change _ + _ = _ + _ ∧ _ + _ = _ + _
  rw [hevents, hfailures]
  exact ⟨rfl, rfl⟩

/-- An operation of the registry that is not counted. -/
theorem Chronicle.counts_onRegistry {γ : Type} {f : Registry Nat → γ × Registry Nat}
    (hf : ∀ registry, (f registry).2.events = registry.events ∧
      (f registry).2.failures = registry.failures) :
    Chronicle.counts.Keeps (onRegistry f : Act Chronicle γ) := by
  refine Act.Manner.keeps_of_apply (fun _ => rfl) fun chronicle _ => ⟨trivial, ?_⟩
  exact chronicle.counts_withAudience (hf _).1 (hf _).2

/-- A call of a guest counts what the events inside it count. -/
theorem Chronicle.counts_callGuest {dispatch : List Value → Act Chronicle Report}
    (hdispatch : ∀ values, Chronicle.counts.Keeps (dispatch values)) (values : List Value)
    (number : Nat) : Chronicle.counts.Keeps (callGuest (Op.perform dispatch) values number) := by
  have hop : ∀ op : Op Nat, Chronicle.counts.Keeps (op.perform dispatch) := fun op =>
    op.perform_keeps hdispatch
      (fun observer => Chronicle.counts_onRegistry fun registry =>
        registry.register_counters observer)
      (fun id => Chronicle.counts_onRegistry fun registry => ⟨rfl, rfl⟩)
      (fun observer => Chronicle.counts_onRegistry fun registry =>
        registry.unregisterObserver_counters observer)
      (Chronicle.counts_onRegistry fun registry => ⟨rfl, rfl⟩)
  refine callGuest_keeps (P := fun _ => True) (fun op _ => hop op) ?_
    (fun w _ => obeys_true (HasAudience.audience w)) ?_ values number
  · intro guest call feat
    refine Act.Manner.keeps_of_apply (fun _ => rfl) fun chronicle _ => ⟨trivial, ?_⟩
    exact chronicle.counts_withAudience rfl rfl
  · intro chronicle number guest _ _
    exact ⟨trivial, chronicle.counts_withAudience rfl rfl⟩

/-- A failure is counted when an observer has taken an event and complains. -/
theorem Chronicle.taken_counts (verdict : Verdict) (chronicle : Chronicle) :
    (taken verdict chronicle).world.registry.events = chronicle.world.registry.events ∧
      (taken verdict chronicle).world.registry.failures =
        chronicle.world.registry.failures + verdict.complaint?.toList.length ∧
      (taken verdict chronicle).reports = chronicle.reports := by
  unfold taken
  cases verdict.complaint? <;> exact ⟨rfl, rfl, rfl⟩

/-- A turn adds its complaint to the failures that are reported. -/
theorem Report.ofTurns_called_failures {σ η : Type} (entry : Entry η) (w : σ) (verdict : Verdict)
    (turns : List (Turn σ η)) :
    (ofTurns (⟨entry, w, some verdict⟩ :: turns)).failures.length =
      verdict.complaint?.toList.length + (ofTurns turns).failures.length := by
  cases verdict <;>
    simp [ofTurns, Turn.complaint?, Verdict.complaint?, Nat.add_comm, List.filterMap_cons]

/-- The turns of an event count the failures that they report, besides those of the events inside.
-/
theorem Chronicle.counts_of_course {call : Nat → Act Chronicle Verdict}
    (hcall : ∀ number, Chronicle.counts.Keeps (call number)) {chronicle chronicle' : Chronicle}
    {turns : List (Turn Chronicle Nat)} (h : Course call chronicle turns chronicle') :
    chronicle'.world.registry.events + chronicle.reports.length =
        chronicle.world.registry.events + chronicle'.reports.length ∧
      chronicle'.world.registry.failures + Report.failuresIn chronicle.reports =
        chronicle.world.registry.failures + Report.failuresIn chronicle'.reports +
          (Report.ofTurns turns).failures.length := by
  induction h with
  | finished chronicle => exact ⟨rfl, rfl⟩
  | passed entry _ _ ih => exact ih
  | @called chronicle middle chronicle' turns entry _ verdict hverdict _ ih =>
      obtain ⟨-, hevents, hfailures⟩ := hcall entry.observer trivial hverdict
      obtain ⟨htakenEvents, htakenFailures, htakenReports⟩ :=
        Chronicle.taken_counts verdict middle
      rw [htakenEvents, htakenFailures, htakenReports] at ih
      rw [Report.ofTurns_called_failures]
      exact ⟨by omega, by omega⟩

/-- **What the counters do in a chronicle**, however deeply events are nested. -/
theorem Solo.chronicled_counts (depth : Nat) (values : List Value) :
    Chronicle.counts.Keeps (Solo.chronicled depth values) := by
  induction depth generalizing values with
  | zero =>
      intro chronicle report chronicle' _ h
      cases h
  | succ depth ih =>
      intro chronicle report chronicle' _ h
      obtain ⟨_, middle, hevent, hnote⟩ := Act.bind_eq_some_iff.mp h
      cases hnote
      obtain ⟨turns, -, hcourse, rfl⟩ := (dispatch_eq_some_iff _ _ _ _).mp hevent
      obtain ⟨hevents, hfailures⟩ :=
        Chronicle.counts_of_course (Chronicle.counts_callGuest ih values) hcourse
      refine ⟨trivial, ?_⟩
      -- The event itself is counted when it begins, and written down when it ends.
      change middle.world.registry.events + chronicle.reports.length =
        chronicle.world.registry.events + 1 + middle.reports.length at hevents
      change middle.world.registry.failures + Report.failuresIn chronicle.reports =
        chronicle.world.registry.failures + Report.failuresIn middle.reports + _ at hfailures
      change middle.world.registry.events + chronicle.reports.length =
          chronicle.world.registry.events + (middle.reports ++ [Report.ofTurns turns]).length ∧
        middle.world.registry.failures + Report.failuresIn chronicle.reports =
          chronicle.world.registry.failures +
            Report.failuresIn (middle.reports ++ [Report.ofTurns turns])
      rw [List.length_append, List.length_singleton, Report.failuresIn_append]
      have hlast : Report.failuresIn [Report.ofTurns turns] =
          (Report.ofTurns turns).failures.length := rfl
      exact ⟨by omega, by omega⟩

/-! ### Accounts of events -/

/-- An account of an event that leads from one world to another: its turns, and the reports of the
events inside it, at any depth, in the order in which they end. -/
structure Solo.Account (depth : Nat) (values : List Value) (world : Solo) (report : Report)
    (after : Solo) (turns : List (Turn Solo Nat)) (nested : List Report) : Prop where
  /-- The observers that are registered when the event begins have a turn each, in order. -/
  considered : turns.map Turn.entry = world.registry.entries
  /-- No identifier has two turns, and no observer has. -/
  once : (turns.map Turn.id).Nodup ∧ (turns.map fun turn => turn.entry.observer).Nodup
  /-- The turns lead from the world in which the event is counted to the one after it. -/
  course : Course (callGuest (Op.perform (Solo.dispatch depth)) values) (began world) turns after
  /-- An observer is called exactly if it is registered when its turn comes. -/
  called_iff : ∀ turn ∈ turns, turn.verdict.isSome ↔ turn.id ∈ turn.world.registry.ids
  /-- What is registered in the meantime, for the first time or again, has no turn. -/
  newcomers : ∀ reached ∈ after :: turns.map Turn.world, ∀ entry ∈ reached.registry.entries,
    entry ∉ world.registry.entries → entry.id ∉ turns.map Turn.id
  /-- Delivered to are the observers that are called and accept the event. -/
  delivered_iff : ∀ id, id ∈ report.delivered ↔
    ∃ turn ∈ turns, turn.id = id ∧ turn.verdict = some .accepted
  /-- The failures are those of the observers that are called and do not accept it. -/
  failed_iff : ∀ complaint, complaint ∈ report.failures ↔
    ∃ turn ∈ turns, turn.id = complaint.observer ∧
      turn.verdict.bind Verdict.complaint? = some complaint.message
  /-- Together these are the observers that are called. -/
  together : ∀ turn ∈ turns, turn.verdict.isSome ↔
    turn.id ∈ report.delivered ∨ turn.id ∈ report.failures.map Complaint.observer
  /-- No observer is both delivered to and a failure. -/
  disjoint : ∀ id ∈ report.delivered, id ∉ report.failures.map Complaint.observer
  /-- Both are in the order of registration. -/
  ordered : report.delivered.Sublist world.registry.ids ∧
    (report.failures.map Complaint.observer).Sublist world.registry.ids
  /-- A chronicle of the event has the reports of the events inside it, and then its own. -/
  chronicled : Solo.chronicled (depth + 1) values ⟨world, []⟩ =
    some (report, ⟨after, nested ++ [report]⟩)
  /-- The event is counted once, and so is each event inside it. -/
  events : after.registry.events = world.registry.events + 1 + nested.length
  /-- Every failure that is reported, of this event or of one inside it, is counted once. -/
  failures : after.registry.failures =
    world.registry.failures + report.failures.length + Report.failuresIn nested

/-- What an account says of the counters, in words of sixty-four bits: the words grow by the same
numbers, modulo `2 ^ 64`. -/
theorem Solo.Account.words {depth : Nat} {values : List Value} {world after : Solo}
    {report : Report} {turns : List (Turn Solo Nat)} {nested : List Report}
    (h : Solo.Account depth values world report after turns nested) :
    after.registry.eventWord = world.registry.eventWord + 1 + .ofNat nested.length ∧
      after.registry.failureWord = world.registry.failureWord +
        .ofNat report.failures.length + .ofNat (Report.failuresIn nested) := by
  unfold eventWord failureWord
  rw [h.events, h.failures]
  constructor
  · rw [UInt64.ofNat_add, UInt64.ofNat_add]
    rfl
  · rw [UInt64.ofNat_add, UInt64.ofNat_add]

/-- The words grow by these numbers exactly if fewer than `2 ^ 64` events and failures have been
counted when the event ends. -/
theorem Solo.Account.toNat_words {depth : Nat} {values : List Value} {world after : Solo}
    {report : Report} {turns : List (Turn Solo Nat)} {nested : List Report}
    (h : Solo.Account depth values world report after turns nested)
    (hfit : after.registry.CountersFit) :
    after.registry.eventWord.toNat = world.registry.eventWord.toNat + 1 + nested.length ∧
      after.registry.failureWord.toNat = world.registry.failureWord.toNat +
        report.failures.length + Report.failuresIn nested := by
  have hevents := h.events
  have hfailures := h.failures
  -- the counters never fall, so that they fitted when the event began
  have hbefore : world.registry.CountersFit := by
    have hevents_lt := hfit.events_lt
    have hfailures_lt := hfit.failures_lt
    exact ⟨by omega, by omega⟩
  rw [hfit.toNat_words.1, hfit.toNat_words.2, hbefore.toNat_words.1, hbefore.toNat_words.2]
  exact ⟨hevents, hfailures⟩

/-- Turns with one identifier are one turn if no identifier has two. -/
theorem turn_eq_of_id_eq {σ η : Type} {turns : List (Turn σ η)} (hnodup : (turns.map Turn.id).Nodup)
    {turn turn' : Turn σ η} (hmem : turn ∈ turns) (hmem' : turn' ∈ turns)
    (hid : turn.id = turn'.id) : turn = turn' := by
  induction turns with
  | nil => exact absurd hmem List.not_mem_nil
  | cons first rest ih =>
      rw [List.map_cons, List.nodup_cons] at hnodup
      rcases List.mem_cons.mp hmem with rfl | hrest <;>
        rcases List.mem_cons.mp hmem' with rfl | hrest'
      · rfl
      · exact absurd (List.mem_map.mpr ⟨turn', hrest', hid.symm⟩) hnodup.1
      · exact absurd (List.mem_map.mpr ⟨turn, hrest, hid⟩) hnodup.1
      · exact ih hnodup.2 hrest hrest'

/-- The observers that are called are those that accept the event and those that complain. -/
theorem Report.called_iff_of_nodup {σ η : Type} {turns : List (Turn σ η)}
    (hnodup : (turns.map Turn.id).Nodup) {turn : Turn σ η} (hturn : turn ∈ turns) :
    turn.verdict.isSome ↔ turn.id ∈ (ofTurns turns).delivered ∨
      turn.id ∈ (ofTurns turns).failures.map Complaint.observer := by
  constructor
  · intro hsome
    obtain ⟨verdict, hverdict⟩ := Option.isSome_iff_exists.mp hsome
    rcases hcomplaint : verdict.complaint? with _ | message
    · left
      have haccepted : verdict = .accepted := by
        cases verdict with
        | accepted => rfl
        | failed message => cases hcomplaint
        | crashed crash => cases hcomplaint
      exact (mem_delivered_ofTurns_iff turns _).mpr ⟨turn, hturn, rfl, haccepted ▸ hverdict⟩
    · right
      refine List.mem_map.mpr ⟨⟨turn.id, message⟩, ?_, rfl⟩
      refine (mem_failures_ofTurns_iff turns _).mpr ⟨turn, hturn, rfl, ?_⟩
      rw [hverdict]
      exact hcomplaint
  · rintro (hdelivered | hfailed)
    · obtain ⟨turn', hturn', hid, haccepted⟩ := (mem_delivered_ofTurns_iff turns _).mp hdelivered
      rw [← turn_eq_of_id_eq hnodup hturn' hturn hid, haccepted]
      rfl
    · obtain ⟨complaint, hcomplaint, hid⟩ := List.mem_map.mp hfailed
      obtain ⟨turn', hturn', hid', hmessage⟩ :=
        (mem_failures_ofTurns_iff turns _).mp hcomplaint
      rw [← turn_eq_of_id_eq hnodup hturn' hturn (hid'.trans hid)]
      obtain ⟨verdict, hverdict, -⟩ := Option.bind_eq_some_iff.mp hmessage
      rw [hverdict]
      rfl

/-- What is registered during an event has a new identifier. -/
theorem Solo.newcomers_of_course {depth : Nat} {values : List Value} {world after : Solo}
    {turns : List (Turn Solo Nat)} (hsound : world.registry.Sound)
    (hcourse : Course (callGuest (Op.perform (Solo.dispatch depth)) values) (began world) turns
      after)
    {reached : Solo} (hreached : reached ∈ after :: turns.map Turn.world)
    {entry : Entry Nat} (hentry : entry ∈ reached.registry.entries)
    (hnew : entry ∉ world.registry.entries) : entry.id ∉ world.registry.ids := by
  have hcall : ∀ number, (growth Solo).Keeps
      (callGuest (Op.perform (Solo.dispatch depth)) values number) :=
    Solo.callGuest_growth (Solo.dispatch_growth depth) values
  obtain ⟨hstart, hbegan⟩ := growth_began world hsound
  obtain ⟨hturns, -, hend⟩ :=
    hcourse.keeps growth_taken (fun turn _ => hcall turn.entry.observer) hstart
  have hfollows : world.registry.Follows reached.registry := by
    rcases List.mem_cons.mp hreached with rfl | hmem
    · exact hbegan.trans hend
    · obtain ⟨turn, hturn, rfl⟩ := List.mem_map.mp hmem
      exact hbegan.trans (hturns turn hturn).2
  intro hold
  rcases hfollows.entries entry hentry with hmem | hlarge
  · exact hnew hmem
  · exact Nat.lt_irrefl _ (Nat.lt_of_le_of_lt hlarge (hsound.fresh _ hold))

/-- **What an event does**, whatever its observers do to the registry while it is dispatched. In a
registry that has come about by operations, an event that has a result has an account, and it has
the same result whatever the bound on nesting. -/
theorem Solo.dispatch_account {depth : Nat} {values : List Value} {world after : Solo}
    {report : Report} (hworld : Solo.Reachable world)
    (h : Solo.dispatch (depth + 1) values world = some (report, after)) :
    (∃ turns nested, Solo.Account depth values world report after turns nested) ∧
      ∀ bound, depth + 1 ≤ bound → Solo.dispatch bound values world = some (report, after) := by
  refine ⟨?_, fun bound hle => Solo.dispatch_mono hle h⟩
  have hsound := hworld.sound
  obtain ⟨turns, hturns, hcourse, hreport⟩ := (dispatch_eq_some_iff _ _ _ _).mp h
  obtain ⟨nested, hchronicle⟩ := Solo.exists_chronicled h
  have hids : turns.map Turn.id = world.registry.ids := by
    have hmap := congrArg (List.map Entry.id) hturns
    rwa [List.map_map] at hmap
  have hobservers : (turns.map fun turn => turn.entry.observer) =
      world.registry.entries.map Entry.observer := by
    have hmap := congrArg (List.map Entry.observer) hturns
    rwa [List.map_map] at hmap
  have hnodup : (turns.map Turn.id).Nodup := hids ▸ hsound.ids_nodup
  obtain ⟨-, hevents, hfailures⟩ := Solo.chronicled_counts (depth + 1) values trivial hchronicle
  simp only [List.length_append, List.length_singleton, List.length_nil,
    Report.failuresIn_append] at hevents hfailures
  have hown : Report.failuresIn [report] = report.failures.length := rfl
  have hnone : Report.failuresIn [] = 0 := rfl
  refine ⟨turns, nested, ?_⟩
  exact {
    considered := hturns
    once := ⟨hnodup, hobservers ▸ hsound.distinct⟩
    course := hcourse
    called_iff := hcourse.called_iff
    newcomers := by
      intro reached hreached entry hentry hnew
      rw [hids]
      exact Solo.newcomers_of_course hsound hcourse hreached hentry hnew
    delivered_iff := hreport ▸ Report.mem_delivered_ofTurns_iff turns
    failed_iff := hreport ▸ Report.mem_failures_ofTurns_iff turns
    together := fun turn hturn => hreport ▸ Report.called_iff_of_nodup hnodup hturn
    disjoint := by
      intro id hdelivered hfailed
      obtain ⟨complaint, hcomplaint, rfl⟩ := List.mem_map.mp hfailed
      rw [hreport, Report.mem_delivered_ofTurns_iff] at hdelivered
      rw [hreport, Report.mem_failures_ofTurns_iff] at hcomplaint
      obtain ⟨turn, hturn, hid, haccepted⟩ := hdelivered
      obtain ⟨turn', hturn', hid', hmessage⟩ := hcomplaint
      have hsame := turn_eq_of_id_eq hnodup hturn hturn' (hid.trans hid'.symm)
      rw [← hsame, haccepted] at hmessage
      cases hmessage
    ordered := by
      rw [hreport, ← hids]
      exact ⟨Report.delivered_ofTurns_sublist turns, Report.failures_ofTurns_sublist turns⟩
    chronicled := hchronicle
    events := by omega
    failures := by omega }

/-- An observer that on its first call removes the second observer and dispatches an event inside
the one it is called with, which it then refuses. -/
def meddler : Behaviour (Op Nat) Answer := fun call _ =>
  if call = 1 then .act (.unregister ⟨2⟩) fun _ => .act (.dispatch []) fun _ => .finish .accepted
  else .finish (.failed "once is enough")

/-- A registry with a meddler and an observer that accepts everything. -/
def meddledWith : Solo :=
  { registry := { entries := [⟨⟨1⟩, 0⟩, ⟨⟨2⟩, 1⟩], nextId := 3 }
    guests := #[{ behaviour := meddler }, { behaviour := fun _ _ => .finish .accepted }] }

/-- Such a registry has come about by operations. -/
theorem reachable_meddledWith : Solo.Reachable meddledWith := by
  have hmeddler := Solo.Reachable.new.invite meddler rfl
  have hguests := hmeddler.invite (fun _ _ => .finish .accepted) rfl
  have hfirst := hguests.perform 0 (.register 0) rfl
  exact hfirst.perform 0 (.register 1) rfl

/-- The event is delivered to the meddler, the second observer is passed, and the event inside is
counted with its failure. -/
theorem dispatch_account_meddledWith :
    ∃ after turns nested,
      Solo.dispatch 2 [] meddledWith = some (⟨[⟨1⟩], []⟩, after) ∧
      Solo.Account 1 [] meddledWith ⟨[⟨1⟩], []⟩ after turns nested ∧
      after.registry.events = 2 ∧ after.registry.failures = 1 := by
  have hresult : ∃ after, Solo.dispatch 2 [] meddledWith = some (⟨[⟨1⟩], []⟩, after) ∧
      after.registry.events = 2 ∧ after.registry.failures = 1 := ⟨_, rfl, rfl, rfl⟩
  obtain ⟨after, h, hevents, hfailures⟩ := hresult
  obtain ⟨⟨turns, nested, haccount⟩, -⟩ := Solo.dispatch_account reachable_meddledWith h
  exact ⟨after, turns, nested, h, haccount, hevents, hfailures⟩

end Registry

end Workbench
