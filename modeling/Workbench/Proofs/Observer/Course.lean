import Workbench.Proofs.Observer.Conduct

/-!
# The course of an event

An event gives a turn to every observer that was registered when it began, and an observer is called
if it is still registered when its turn comes. `Audience.Course` says so as a relation, turn by
turn, with the world in which each turn comes; what is reported of the event can be read off its
turns (`Report.ofTurns`). **Theorem** (`deliver_eq_some_iff`): the loop that calls the observers
does exactly this. Everything about events follows from their courses: they keep to a manner, end in
it and simulate each other if the calls of the observers do.
-/

namespace Workbench

namespace Audience

variable {σ τ η α β : Type}

/-- A turn of an event: the observer, the world in which its turn comes, and how it takes the event,
if it is called. -/
structure Turn (σ η : Type) where
  entry : Registry.Entry η
  world : σ
  verdict : Option Verdict

namespace Turn

/-- The identifier of the observer. -/
def id (turn : Turn σ η) : ObserverId := turn.entry.id

/-- The observer, if it accepts the event. -/
def accepted? (turn : Turn σ η) : Option ObserverId :=
  match turn.verdict with
  | some .accepted => some turn.id
  | _ => none

/-- What is reported of the observer, if it is called and does not accept the event. -/
def complaint? (turn : Turn σ η) : Option Complaint :=
  (turn.verdict.bind Verdict.complaint?).map (⟨turn.id, ·⟩)

end Turn

end Audience

namespace Registry.Report

/-- What is reported of an event, given its turns. -/
def ofTurns {σ η : Type} (turns : List (Audience.Turn σ η)) : Report :=
  ⟨turns.filterMap Audience.Turn.accepted?, turns.filterMap Audience.Turn.complaint?⟩

instance : Append Report where
  append first rest := ⟨first.delivered ++ rest.delivered, first.failures ++ rest.failures⟩

/-- What is reported of two stretches of turns stands one behind the other. -/
theorem append_eq (first rest : Report) :
    first ++ rest = ⟨first.delivered ++ rest.delivered, first.failures ++ rest.failures⟩ := rfl

section OfTurns

variable {σ η : Type} (turns : List (Audience.Turn σ η))

/-- Delivered to are the observers that accept the event. -/
theorem mem_delivered_ofTurns_iff (id : ObserverId) :
    id ∈ (ofTurns turns).delivered ↔
      ∃ turn ∈ turns, turn.id = id ∧ turn.verdict = some .accepted := by
  simp only [ofTurns, List.mem_filterMap]
  refine exists_congr fun turn => and_congr_right fun _ => ?_
  unfold Audience.Turn.accepted?
  split
  · rename_i hverdict
    simp [hverdict]
  · rename_i hverdict
    simp only [reduceCtorEq, false_iff, not_and]
    exact fun _ => hverdict

/-- The failures are those of the observers that are called and do not accept the event. -/
theorem mem_failures_ofTurns_iff (complaint : Complaint) :
    complaint ∈ (ofTurns turns).failures ↔
      ∃ turn ∈ turns, turn.id = complaint.observer ∧
        turn.verdict.bind Verdict.complaint? = some complaint.message := by
  simp only [ofTurns, List.mem_filterMap]
  refine exists_congr fun turn => and_congr_right fun _ => ?_
  unfold Audience.Turn.complaint?
  rw [Option.map_eq_some_iff]
  constructor
  · rintro ⟨message, hmessage, rfl⟩
    exact ⟨rfl, hmessage⟩
  · rintro ⟨hid, hmessage⟩
    exact ⟨complaint.message, hmessage, by rw [hid]⟩

/-- The observers that accept the event are in the order of their turns. -/
theorem delivered_ofTurns_sublist :
    (ofTurns turns).delivered.Sublist (turns.map Audience.Turn.id) := by
  induction turns with
  | nil => exact List.Sublist.slnil
  | cons turn rest ih =>
      simp only [ofTurns, List.filterMap_cons, List.map_cons]
      split
      · exact ih.cons _
      · rename_i id hid
        have hsame : id = turn.id := by
          unfold Audience.Turn.accepted? at hid
          split at hid
          · exact (Option.some.inj hid).symm
          · cases hid
        rw [hsame]
        exact ih.cons_cons _

/-- The observers that fail are in the order of their turns. -/
theorem failures_ofTurns_sublist :
    ((ofTurns turns).failures.map Complaint.observer).Sublist (turns.map Audience.Turn.id) := by
  induction turns with
  | nil => exact List.Sublist.slnil
  | cons turn rest ih =>
      simp only [ofTurns, List.filterMap_cons, List.map_cons]
      split
      · exact ih.cons _
      · rename_i complaint hcomplaint
        obtain ⟨message, -, rfl⟩ := Option.map_eq_some_iff.mp hcomplaint
        exact ih.cons_cons _

end OfTurns

end Registry.Report

namespace Audience

variable {σ τ η α β : Type} [HasAudience σ η α β] [HasAudience τ η α β]

/-- The registry of a world. -/
def registryOf (w : σ) : Registry η := (HasAudience.audience w).registry

/-- The world when an observer has taken an event: a failure is counted. -/
def taken (verdict : Verdict) (w : σ) : σ :=
  match verdict.complaint? with
  | none => w
  | some _ =>
      HasAudience.withAudience w
        { HasAudience.audience w with registry := (registryOf w).countFailure }

/-- The turns of an event from one world to another, where `call` says what a call of an observer
with the event does. -/
inductive Course (call : η → Act σ Verdict) : σ → List (Turn σ η) → σ → Prop where
  | finished (w : σ) : Course call w [] w
  /-- The observer is not registered any more. -/
  | passed {w w' : σ} {turns : List (Turn σ η)} (entry : Registry.Entry η)
      (hgone : entry.id ∉ (registryOf w).ids) (hrest : Course call w turns w') :
      Course call w (⟨entry, w, none⟩ :: turns) w'
  /-- The observer is called. -/
  | called {w v w' : σ} {turns : List (Turn σ η)} (entry : Registry.Entry η)
      (hhere : entry.id ∈ (registryOf w).ids) {verdict : Verdict}
      (hcall : call entry.observer w = some (verdict, v))
      (hrest : Course call (taken verdict v) turns w') :
      Course call w (⟨entry, w, some verdict⟩ :: turns) w'

/-- An identifier is in use if it is one of those registered. -/
theorem contains_iff_mem_ids {registry : Registry η} {id : ObserverId} :
    registry.contains id = true ↔ id ∈ registry.ids := by
  simp [Registry.contains, Registry.ids]

/-- The loop passes an observer that is not registered any more. -/
theorem deliver_cons_of_not_mem (call : η → Act σ Verdict) {entry : Registry.Entry η}
    (rest : List (Registry.Entry η)) (report : Registry.Report) {w : σ}
    (hgone : entry.id ∉ (registryOf w).ids) :
    deliver call (entry :: rest) report w = deliver call rest report w := by
  have hcontains : (registryOf w).contains entry.id = false := by
    rw [← Bool.not_eq_true, contains_iff_mem_ids]
    exact hgone
  change (if (registryOf w).contains entry.id then _ else deliver call rest report : Act σ _) w = _
  rw [hcontains]
  rfl

/-- The report with one more turn. -/
def heard (report : Registry.Report) (id : ObserverId) (verdict : Verdict) : Registry.Report :=
  match verdict.complaint? with
  | none => { report with delivered := report.delivered ++ [id] }
  | some message => { report with failures := report.failures ++ [⟨id, message⟩] }

/-- The loop calls an observer that is still registered. -/
theorem deliver_cons_of_mem (call : η → Act σ Verdict) {entry : Registry.Entry η}
    (rest : List (Registry.Entry η)) (report : Registry.Report) {w : σ}
    (hhere : entry.id ∈ (registryOf w).ids) :
    deliver call (entry :: rest) report w =
      (call entry.observer w).bind fun (verdict, v) =>
        deliver call rest (heard report entry.id verdict) (taken verdict v) := by
  have hcontains : (registryOf w).contains entry.id = true := contains_iff_mem_ids.mpr hhere
  have hstep : ∀ (verdict : Verdict) (v : σ), (match verdict.complaint? with
      | none => deliver call rest { report with delivered := report.delivered ++ [entry.id] }
      | some message => do
          setRegistry (← registryNow).countFailure
          deliver call rest
            { report with failures := report.failures ++ [⟨entry.id, message⟩] } : Act σ _) v =
      deliver call rest (heard report entry.id verdict) (taken verdict v) := by
    intro verdict v
    unfold heard taken
    cases verdict.complaint? <;> rfl
  change (if (registryOf w).contains entry.id then _ else deliver call rest report : Act σ _) w = _
  rw [hcontains]
  change Option.bind (call entry.observer w) (fun result => _) = _
  congr 1
  funext ⟨verdict, v⟩
  exact hstep verdict v

/-- The report of the turns from one that is called on. -/
theorem heard_append (report : Registry.Report) (entry : Registry.Entry η) (w : σ)
    (verdict : Verdict) (turns : List (Turn σ η)) :
    heard report entry.id verdict ++ Registry.Report.ofTurns turns =
      report ++ Registry.Report.ofTurns (⟨entry, w, some verdict⟩ :: turns) := by
  cases verdict <;>
    simp [Registry.Report.append_eq, heard, Verdict.complaint?, Registry.Report.ofTurns,
      Turn.accepted?, Turn.complaint?, Turn.id, List.filterMap_cons]

/-- **The loop follows the course of the event**: it has a result exactly when there is a course
over the turns of the entries it is given, and its report is the one before and that of the turns.
-/
theorem deliver_eq_some_iff (call : η → Act σ Verdict) (entries : List (Registry.Entry η))
    (report report' : Registry.Report) (w w' : σ) :
    deliver call entries report w = some (report', w') ↔
      ∃ turns, turns.map Turn.entry = entries ∧ Course call w turns w' ∧
        report' = report ++ Registry.Report.ofTurns turns := by
  induction entries generalizing report w with
  | nil =>
      constructor
      · intro h
        cases h
        refine ⟨[], rfl, .finished w', ?_⟩
        simp [Registry.Report.append_eq, Registry.Report.ofTurns]
      · rintro ⟨turns, hturns, hcourse, rfl⟩
        cases List.map_eq_nil_iff.mp hturns
        cases hcourse
        change some (report, w') = some (report ++ Registry.Report.ofTurns [], w')
        simp [Registry.Report.append_eq, Registry.Report.ofTurns]
  | cons entry rest ih =>
      by_cases hhere : entry.id ∈ (registryOf w).ids
      · rw [deliver_cons_of_mem call rest report hhere, Option.bind_eq_some_iff]
        constructor
        · rintro ⟨⟨verdict, v⟩, hcall, hrest⟩
          obtain ⟨turns, rfl, hcourse, rfl⟩ := (ih _ _).mp hrest
          exact ⟨⟨entry, w, some verdict⟩ :: turns, rfl, .called entry hhere hcall hcourse,
            heard_append report entry w verdict turns⟩
        · rintro ⟨turns, hturns, hcourse, rfl⟩
          cases hcourse with
          | finished => cases hturns
          | passed _ hgone _ =>
              cases hturns
              exact absurd hhere hgone
          | @called _ v _ turns entry' _ verdict hcall hcourse =>
              cases hturns
              exact ⟨(verdict, v), hcall, (ih _ _).mpr
                ⟨turns, rfl, hcourse, (heard_append report entry' w verdict turns).symm⟩⟩
      · rw [deliver_cons_of_not_mem call rest report hhere, ih]
        constructor
        · rintro ⟨turns, rfl, hcourse, rfl⟩
          exact ⟨⟨entry, w, none⟩ :: turns, rfl, .passed entry hhere hcourse, rfl⟩
        · rintro ⟨turns, hturns, hcourse, rfl⟩
          cases hcourse with
          | finished => cases hturns
          | @passed _ _ turns _ _ hcourse =>
              cases hturns
              exact ⟨turns, rfl, hcourse, rfl⟩
          | called _ hmem _ _ =>
              cases hturns
              exact absurd hmem hhere

/-- The world when an event begins: the event is counted. -/
def began (w : σ) : σ :=
  HasAudience.withAudience w { HasAudience.audience w with registry := (registryOf w).countEvent }

/-- An event has a result exactly when there is a course over the turns of the observers that are
registered when it begins, and what is reported of it is what its turns say. -/
theorem dispatch_eq_some_iff (call : η → Act σ Verdict) (report : Registry.Report) (w w' : σ) :
    dispatch call w = some (report, w') ↔
      ∃ turns, turns.map Turn.entry = (registryOf (began w)).entries ∧
        Course call (began w) turns w' ∧ report = Registry.Report.ofTurns turns := by
  change deliver call (registryOf (began w)).entries {} (began w) = _ ↔ _
  rw [deliver_eq_some_iff]
  rfl

/-- In the course of an event, an observer is called exactly if it is registered when its turn
comes. -/
theorem Course.called_iff {call : η → Act σ Verdict} {w w' : σ} {turns : List (Turn σ η)}
    (h : Course call w turns w') :
    ∀ turn ∈ turns, turn.verdict.isSome ↔ turn.id ∈ (registryOf turn.world).ids := by
  induction h with
  | finished w => exact fun _ hmem => absurd hmem List.not_mem_nil
  | passed entry hgone _ ih =>
      intro turn hmem
      rcases List.mem_cons.mp hmem with rfl | hmem
      · exact ⟨fun hsome => absurd hsome Bool.false_ne_true, fun hhere => absurd hhere hgone⟩
      · exact ih turn hmem
  | called entry hhere _ _ ih =>
      intro turn hmem
      rcases List.mem_cons.mp hmem with rfl | hmem
      · exact ⟨fun _ => hhere, fun _ => rfl⟩
      · exact ih turn hmem

/-! ### Events keep to a manner -/

section Keeps

variable {manner : Act.Manner σ} {call : η → Act σ Verdict}

/-- The course of an event keeps to a manner, up to each turn and to the end, if the calls of the
observers do that have a turn. -/
theorem Course.keeps
    (htaken : ∀ verdict w, manner.inv w →
      manner.inv (taken verdict w) ∧ manner.rel w (taken verdict w))
    {w w' : σ} {turns : List (Turn σ η)} (h : Course call w turns w')
    (hcall : ∀ turn ∈ turns, manner.Keeps (call turn.entry.observer)) (hw : manner.inv w) :
    (∀ turn ∈ turns, manner.inv turn.world ∧ manner.rel w turn.world) ∧
      manner.inv w' ∧ manner.rel w w' := by
  induction h with
  | finished w => exact ⟨fun _ hmem => absurd hmem List.not_mem_nil, hw, manner.refl w⟩
  | @passed w w' turns entry _ _ ih =>
      obtain ⟨hturns, hend⟩ := ih (fun turn hmem => hcall turn (List.mem_cons_of_mem _ hmem)) hw
      refine ⟨fun turn hmem => ?_, hend⟩
      rcases List.mem_cons.mp hmem with rfl | hmem
      · exact ⟨hw, manner.refl w⟩
      · exact hturns turn hmem
  | @called w v w' turns entry _ verdict hverdict _ ih =>
      obtain ⟨hv, hwv⟩ := hcall _ List.mem_cons_self hw hverdict
      obtain ⟨htakenInv, htakenRel⟩ := htaken verdict v hv
      have hreach := manner.trans hwv htakenRel
      obtain ⟨hturns, hend, hrel⟩ :=
        ih (fun turn hmem => hcall turn (List.mem_cons_of_mem _ hmem)) htakenInv
      refine ⟨fun turn hmem => ?_, hend, manner.trans hreach hrel⟩
      rcases List.mem_cons.mp hmem with rfl | hmem
      · exact ⟨hw, manner.refl w⟩
      · exact ⟨(hturns turn hmem).1, manner.trans hreach (hturns turn hmem).2⟩

/-- An event keeps to a manner if the calls of the observers do and counting does. -/
theorem dispatch_keeps (hcall : ∀ observer, manner.Keeps (call observer))
    (htaken : ∀ verdict w, manner.inv w →
      manner.inv (taken verdict w) ∧ manner.rel w (taken verdict w))
    (hbegan : ∀ w, manner.inv w → manner.inv (began w) ∧ manner.rel w (began w)) :
    manner.Keeps (dispatch call) := by
  intro w report w' hw h
  obtain ⟨turns, -, hcourse, -⟩ := (dispatch_eq_some_iff call report w w').mp h
  obtain ⟨hstart, hfirst⟩ := hbegan w hw
  obtain ⟨-, hend, hrel⟩ := hcourse.keeps htaken (fun turn _ => hcall turn.entry.observer) hstart
  exact ⟨hend, manner.trans hfirst hrel⟩

/-- Turns can be given to any observers if their calls end. -/
theorem exists_course (hcall : ∀ observer, manner.Keeps (call observer))
    (hends : ∀ observer, manner.Ends (call observer))
    (htaken : ∀ verdict w, manner.inv w → manner.inv (taken verdict w))
    (entries : List (Registry.Entry η)) {w : σ} (hw : manner.inv w) :
    ∃ turns w', turns.map Turn.entry = entries ∧ Course call w turns w' := by
  induction entries generalizing w with
  | nil => exact ⟨[], w, rfl, .finished w⟩
  | cons entry rest ih =>
      by_cases hhere : entry.id ∈ (registryOf w).ids
      · obtain ⟨verdict, v, hverdict⟩ := hends entry.observer hw
        have hv := (hcall entry.observer hw hverdict).1
        obtain ⟨turns, w', rfl, hcourse⟩ := ih (htaken verdict v hv)
        exact ⟨_, w', rfl, .called entry hhere hverdict hcourse⟩
      · obtain ⟨turns, w', rfl, hcourse⟩ := ih hw
        exact ⟨_, w', rfl, .passed entry hhere hcourse⟩

/-- An event ends if the calls of the observers do. -/
theorem dispatch_ends (hcall : ∀ observer, manner.Keeps (call observer))
    (hends : ∀ observer, manner.Ends (call observer))
    (htaken : ∀ verdict w, manner.inv w → manner.inv (taken verdict w))
    (hbegan : ∀ w, manner.inv w → manner.inv (began w)) : manner.Ends (dispatch call) := by
  intro w hw
  obtain ⟨turns, w', hturns, hcourse⟩ :=
    exists_course hcall hends htaken (registryOf (began w)).entries (hbegan w hw)
  exact ⟨_, w', (dispatch_eq_some_iff call _ w w').mpr ⟨turns, hturns, hcourse, rfl⟩⟩

end Keeps

/-! ### Events simulate each other -/

section Simulates

variable {S : σ → τ → Prop} {call : η → Act σ Verdict} {call' : η → Act τ Verdict}

/-- Related worlds stay related when an observer has taken an event. -/
theorem Matches.taken (hS : Matches S) (verdict : Verdict) {w : σ} {v : τ} (h : S w v) :
    S (taken verdict w) (taken verdict v) := by
  unfold Audience.taken registryOf
  rw [← hS.audience_eq h]
  split
  · exact h
  · exact hS.withAudience _ h

/-- The loops over the turns simulate each other if the calls of the observers do. -/
theorem Matches.deliver (hS : Matches S)
    (hcall : ∀ observer, Act.Simulates S (call observer) (call' observer))
    (entries : List (Registry.Entry η)) (report : Registry.Report) :
    Act.Simulates S (deliver call entries report) (deliver call' entries report) := by
  induction entries generalizing report with
  | nil => exact Act.simulates_pure report
  | cons entry rest ih =>
      intro w v report' w' h hw
      have hregistry : registryOf w = registryOf v := congrArg Audience.registry (hS.audience_eq h)
      by_cases hhere : entry.id ∈ (registryOf w).ids
      · rw [deliver_cons_of_mem call rest report hhere, Option.bind_eq_some_iff] at hw
        obtain ⟨⟨verdict, u⟩, hverdict, hrest⟩ := hw
        obtain ⟨u', hverdict', hu⟩ := hcall entry.observer h hverdict
        rw [hregistry] at hhere
        rw [deliver_cons_of_mem call' rest report hhere, hverdict']
        exact ih _ (hS.taken verdict hu) hrest
      · rw [deliver_cons_of_not_mem call rest report hhere] at hw
        rw [hregistry] at hhere
        rw [deliver_cons_of_not_mem call' rest report hhere]
        exact ih report h hw

/-- Events simulate each other if the calls of the observers do. -/
theorem Matches.dispatch (hS : Matches S)
    (hcall : ∀ observer, Act.Simulates S (call observer) (call' observer)) :
    Act.Simulates S (dispatch call) (dispatch call') :=
  hS.registryNow.bind fun _ => (hS.update _).bind fun _ =>
    hS.registryNow.bind fun _ => hS.deliver hcall _ _

end Simulates

end Audience

end Workbench
