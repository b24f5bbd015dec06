import Workbench.Proofs.Observer.Dispatch

/-!
# What is done with a registry, one thing after the other

Operations are performed on a registry from outside, and observers perform operations on it while an
event is dispatched, which may itself be dispatched by an observer. The *deeds* of a history are all
of these operations with their answers, in the order in which they were done; those of the observers
are what they are credited with. There is a history (`Solo.History`) at every moment, also inside of
an event and of the events inside it; every registry that can come about has one
(`Solo.Reachable.exists_history`).

**Theorem** (`Solo.History.serial`): the table of a registry is the one that its deeds make when
they are done one after the other, without any event, and each of them is answered as it was
(`Registry.Serial`). So whatever is true of the tables that operations lead to one after the other
is true at every moment of every history, inside events too. What the counters say is left out here
(`Registry.table`).
-/

namespace Workbench

open Audience

namespace Registry

section Serial

variable {η : Type}

/-- The registry without its counts. -/
def table (registry : Registry η) : Registry η :=
  { entries := registry.entries, nextId := registry.nextId }

variable [DecidableEq η]

/-- What an operation does to the table. An event does nothing to it: what its observers do, they do
by operations of their own. -/
def Op.tabulate : Op η → Registry η → Registry η
  | .register observer, registry => (registry.register observer).2
  | .unregister id, registry => (registry.unregister id).2
  | .unregisterObserver observer, registry => (registry.unregisterObserver observer).2
  | .clear, registry => registry.clear.2
  | .contains _, registry => registry
  | .dispatch _, registry => registry
  | .print _, registry => registry
  | .debug, registry => registry

/-- The answer is the one that the table gives, where the table has a say in it. The text of a
registry shows its counts besides. -/
def Op.Answers (registry : Registry η) : Op η → Answer → Prop
  | .register observer, answer => answer = .id (registry.register observer).1
  | .unregister id, answer => answer = .flag (registry.unregister id).1
  | .unregisterObserver observer, answer => answer = .flag (registry.unregisterObserver observer).1
  | .clear, answer => answer = .count registry.clear.1
  | .contains id, answer => answer = .flag (registry.contains id)
  | .dispatch _, _ => True
  | .print _, _ => True
  | .debug, answer => ∃ events failures,
      answer = .text { registry with events := events, failures := failures }.debug

/-- Operations lead from one table to another, one after the other, and are answered by the tables
that they find. -/
inductive Serial : Registry η → List (Op η × Answer) → Registry η → Prop where
  | done (registry : Registry η) : Serial registry [] registry
  | step {registry after : Registry η} {op : Op η} {answer : Answer} {deeds : List (Op η × Answer)}
      (hanswer : op.Answers registry answer) (hrest : Serial (op.tabulate registry) deeds after) :
      Serial registry ((op, answer) :: deeds) after

/-- What is done first, and what is done then. -/
theorem serial_append_iff {before after : Registry η} {deeds deeds' : List (Op η × Answer)} :
    Serial before (deeds ++ deeds') after ↔
      ∃ middle, Serial before deeds middle ∧ Serial middle deeds' after := by
  induction deeds generalizing before with
  | nil =>
      constructor
      · intro h
        exact ⟨before, .done before, h⟩
      · rintro ⟨middle, h, h'⟩
        cases h
        exact h'
  | cons deed deeds ih =>
      constructor
      · intro h
        cases h with
        | step hanswer hrest =>
            obtain ⟨middle, h, h'⟩ := ih.mp hrest
            exact ⟨middle, .step hanswer h, h'⟩
      · rintro ⟨middle, h, h'⟩
        cases h with
        | step hanswer hrest => exact .step hanswer (ih.mpr ⟨middle, hrest, h'⟩)

/-- One deed. -/
theorem serial_singleton {before : Registry η} {op : Op η} {answer : Answer}
    (hanswer : op.Answers before answer) : Serial before [(op, answer)] (op.tabulate before) :=
  .step hanswer (.done _)

/-- Deeds lead from a table to one table only. -/
theorem Serial.unique {before after after' : Registry η} {deeds : List (Op η × Answer)}
    (h : Serial before deeds after) (h' : Serial before deeds after') : after = after' := by
  induction h with
  | done registry =>
      cases h'
      rfl
  | step _ _ ih =>
      cases h' with
      | step _ hrest => exact ih hrest

/-- The counts have no part in finding an observer. -/
theorem find?_table (registry : Registry η) (observer : η) :
    registry.table.find? observer = registry.find? observer := rfl

/-- The counts have no part in what an operation does to the table. -/
theorem Op.table_tabulate (op : Op η) (registry : Registry η) :
    (op.tabulate registry).table = op.tabulate registry.table := by
  cases op with
  | register observer =>
      simp only [Op.tabulate, Registry.register, find?_table]
      split <;> rfl
  | unregisterObserver observer =>
      simp only [Op.tabulate, Registry.unregisterObserver, find?_table]
      split <;> rfl
  | unregister | clear | contains | dispatch | print | debug => rfl

/-- The counts have no part in the answer of an operation. -/
theorem Op.answers_table_iff {op : Op η} {registry : Registry η} {answer : Answer} :
    op.Answers registry.table answer ↔ op.Answers registry answer := by
  cases op with
  | register observer =>
      simp only [Op.Answers, Registry.register, find?_table]
      split <;> rfl
  | unregisterObserver observer =>
      simp only [Op.Answers, Registry.unregisterObserver, find?_table]
      split <;> rfl
  | unregister | clear | contains | dispatch | print | debug => rfl

end Serial

end Registry

/-! ### What observers do while an event is dispatched -/

/-- The action of a feat with its answer, if there is one. -/
def Audience.Feat.deed? {α β : Type} : Feat α β → Option (α × β)
  | .noted _ => none
  | .acted action answer => some (action, answer)

namespace Registry

/-- What observers have done, in the order in which it was done. -/
def Solo.deeds (world : Solo) : List (Op Nat × Answer) :=
  world.credits.toList.filterMap fun credit => credit.feat.deed?

/-- What a guest is credited with comes last. -/
theorem Solo.deeds_push (world : Solo) (credit : Credit (Op Nat) Answer) :
    Solo.deeds { world with credits := world.credits.push credit } =
      world.deeds ++ credit.feat.deed?.toList := by
  rw [Solo.deeds, Array.toList_push, List.filterMap_append]
  cases h : credit.feat.deed? <;> simp [Solo.deeds, h]

/-- From one world to another, observers have done these things, one after the other, and nothing
else has been done to the table. -/
structure Solo.Doing (world : Solo) (deeds : List (Op Nat × Answer)) (world' : Solo) : Prop where
  deeds_eq : world'.deeds = world.deeds ++ deeds
  serial : Serial world.registry.table deeds world'.registry.table

/-- Observers have done nothing. -/
theorem Solo.Doing.none {world world' : Solo} (hdeeds : world'.deeds = world.deeds)
    (htable : world'.registry.table = world.registry.table) : Solo.Doing world [] world' := by
  refine ⟨?_, ?_⟩
  · rw [hdeeds, List.append_nil]
  · rw [htable]
    exact .done _

/-- What is done first and what is done then are done one after the other. -/
theorem Solo.Doing.trans {world middle world' : Solo} {deeds deeds' : List (Op Nat × Answer)}
    (h : Solo.Doing world deeds middle) (h' : Solo.Doing middle deeds' world') :
    Solo.Doing world (deeds ++ deeds') world' := by
  refine ⟨?_, serial_append_iff.mpr ⟨_, h.serial, h'.serial⟩⟩
  rw [h'.deeds_eq, h.deeds_eq, List.append_assoc]

/-- The manner in which observers act on a registry: what they do to the table is what they are
credited with. -/
def Solo.serially : Act.Manner Solo where
  inv _ := True
  rel world world' := ∃ deeds, Solo.Doing world deeds world'
  refl _ := ⟨[], .none rfl rfl⟩
  trans := by
    rintro u v w ⟨deeds, h⟩ ⟨deeds', h'⟩
    exact ⟨deeds ++ deeds', h.trans h'⟩

/-- What performing an operation comes to: an event is dispatched, if it is one, and then the
operation is done to the table that there is. -/
theorem Op.perform_eq_some {dispatch : List Value → Act Solo Report} {op : Op Nat}
    {world world' : Solo} {answer : Answer}
    (h : op.perform dispatch world = some (answer, world')) :
    ∃ middle, (middle = world ∨ ∃ values report, dispatch values world = some (report, middle)) ∧
      op.Answers middle.registry answer ∧
      world' = { middle with registry := op.tabulate middle.registry } := by
  cases op with
  | register observer =>
      cases h
      exact ⟨world, .inl rfl, rfl, rfl⟩
  | unregister id =>
      cases h
      exact ⟨world, .inl rfl, rfl, rfl⟩
  | unregisterObserver observer =>
      cases h
      exact ⟨world, .inl rfl, rfl, rfl⟩
  | contains id =>
      cases h
      exact ⟨world, .inl rfl, rfl, rfl⟩
  | clear =>
      cases h
      exact ⟨world, .inl rfl, rfl, rfl⟩
  | debug =>
      cases h
      exact ⟨world, .inl rfl, ⟨_, _, rfl⟩, rfl⟩
  | dispatch values =>
      obtain ⟨report, _, hevent, hanswer⟩ := Act.bind_eq_some_iff.mp h
      cases hanswer
      exact ⟨world', .inr ⟨values, report, hevent⟩, trivial, rfl⟩
  | print values =>
      obtain ⟨report, _, hevent, hanswer⟩ := Act.bind_eq_some_iff.mp h
      cases hanswer
      exact ⟨world', .inr ⟨values, report, hevent⟩, trivial, rfl⟩

section Serially

variable {dispatch : List Value → Act Solo Report}
  (hdispatch : ∀ values, Solo.serially.Keeps (dispatch values))

include hdispatch

/-- An operation comes after what observers do while it is performed. -/
theorem Op.perform_serial {op : Op Nat} {world world' : Solo} {answer : Answer}
    (h : op.perform dispatch world = some (answer, world')) :
    ∃ deeds, world'.deeds = world.deeds ++ deeds ∧
      Serial world.registry.table (deeds ++ [(op, answer)]) world'.registry.table := by
  obtain ⟨middle, hmiddle, hanswer, rfl⟩ := op.perform_eq_some h
  have hdoing : ∃ deeds, Solo.Doing world deeds middle := by
    rcases hmiddle with rfl | ⟨values, report, hevent⟩
    · exact Solo.serially.refl middle
    · exact (hdispatch values trivial hevent).2
  obtain ⟨deeds, hdeeds, hserial⟩ := hdoing
  refine ⟨deeds, hdeeds, serial_append_iff.mpr ⟨_, hserial, ?_⟩⟩
  rw [op.table_tabulate]
  exact serial_singleton (Op.answers_table_iff.mpr hanswer)

/-- A reaction of a guest does things one after the other. -/
theorem Solo.react_serially (guest call : Nat) (reaction : Reaction (Op Nat) Answer) :
    Solo.serially.Keeps (react (Op.perform dispatch) guest call reaction) := by
  induction reaction with
  | finish verdict => exact Act.Manner.keeps_pure verdict
  | note text next ih =>
      refine Act.Manner.Keeps.bind ?_ fun _ => ih
      refine Act.Manner.keeps_of_apply (fun _ => rfl) fun world _ => ⟨trivial, [], .none ?_ rfl⟩
      exact (world.deeds_push _).trans (List.append_nil _)
  | act op next ih =>
      -- An operation is done first and credited then, and keeps to the manner only with its credit.
      intro world verdict world' _ h
      obtain ⟨answer, middle, hop, hrest⟩ := Act.bind_eq_some_iff.mp h
      obtain ⟨_, credited, hcredit, hnext⟩ := Act.bind_eq_some_iff.mp hrest
      cases hcredit
      obtain ⟨deeds, hdeeds, hserial⟩ := Op.perform_serial hdispatch hop
      obtain ⟨-, later, hlater⟩ := ih answer trivial hnext
      have hdone : Solo.Doing world (deeds ++ [(op, answer)])
          { middle with credits := middle.credits.push ⟨guest, call, .acted op answer⟩ } := by
        refine ⟨?_, hserial⟩
        rw [Solo.deeds_push, hdeeds, List.append_assoc]
        rfl
      exact ⟨trivial, _, hdone.trans hlater⟩

/-- So does a call of a guest. -/
theorem Solo.callGuest_serially (values : List Value) (number : Nat) :
    Solo.serially.Keeps (callGuest (Op.perform dispatch) values number) := by
  intro world verdict world' _ h
  rcases hguest : (HasAudience.audience world).guests[number]? with _ | guest
  · rw [callGuest_of_none _ values hguest] at h
    cases h
    exact ⟨trivial, Solo.serially.refl world⟩
  · rw [callGuest_of_some _ values hguest] at h
    obtain ⟨-, deeds, hdoing⟩ := Solo.react_serially hdispatch number _ _ trivial h
    exact ⟨trivial, deeds, hdoing.deeds_eq, hdoing.serial⟩

end Serially

/-- Failures are not counted in the table. -/
theorem Solo.taken_serially (verdict : Verdict) (world : Solo) (_ : Solo.serially.inv world) :
    Solo.serially.inv (taken verdict world) ∧ Solo.serially.rel world (taken verdict world) := by
  unfold taken
  cases verdict.complaint? <;> exact ⟨trivial, [], .none rfl rfl⟩

/-- Events change the table by what observers are credited with, however deeply they are nested. -/
theorem Solo.dispatch_serially (depth : Nat) (values : List Value) :
    Solo.serially.Keeps (Solo.dispatch depth values) := by
  induction depth generalizing values with
  | zero =>
      intro world report world' _ h
      cases h
  | succ depth ih =>
      exact dispatch_keeps (Solo.callGuest_serially ih values) Solo.taken_serially
        fun world _ => ⟨trivial, [], .none rfl rfl⟩

/-! ### Histories -/

/-- The moments of a registry by itself, with everything that was done to it until then. Guests
arrive and operations are performed. Besides there are the moments inside of events, whether or not
these ever end: some observers have had their turns, a guest is called, and it notes something or
performs an operation. What observers do meanwhile comes before the operation that they do it in. -/
inductive Solo.History : List (Op Nat × Answer) → Solo → Prop where
  | new : History [] {}
  | invite {history : List (Op Nat × Answer)} {world world' : Solo} {number : Nat}
      (h : History history world) (behaviour : Behaviour (Op Nat) Answer)
      (hstep : Audience.invite behaviour world = some (number, world')) : History history world'
  | perform {history : List (Op Nat × Answer)} {world world' : Solo} {answer : Answer}
      (h : History history world) (depth : Nat) (op : Op Nat)
      (hstep : Solo.perform depth op world = some (answer, world')) :
      History (history ++ (world'.deeds.drop world.deeds.length ++ [(op, answer)])) world'
  | turn {history : List (Op Nat × Answer)} {world world' : Solo} {turns : List (Turn Solo Nat)}
      (h : History history world) (depth : Nat) (values : List Value)
      (hturns : turns.map Turn.entry <+: world.registry.entries)
      (hcourse : Course (callGuest (Op.perform (Solo.dispatch depth)) values) (began world) turns
        world') :
      History (history ++ world'.deeds.drop world.deeds.length) world'
  | called {history : List (Op Nat × Answer)} {world : Solo} {number : Nat}
      {guest : Guest (Op Nat) Answer} (h : History history world)
      (hguest : world.guests[number]? = some guest) : History history (world.called number guest)
  | noted {history : List (Op Nat × Answer)} {world world' : Solo} (h : History history world)
      (guest call : Nat) (text : String)
      (hstep : credit guest call (.noted text) world = some ((), world')) : History history world'
  | acted {history : List (Op Nat × Answer)} {world middle world' : Solo} {answer : Answer}
      (h : History history world) (depth guest call : Nat) (op : Op Nat)
      (hstep : Solo.perform depth op world = some (answer, middle))
      (hcredit : credit guest call (.acted op answer) middle = some ((), world')) :
      History (history ++ (middle.deeds.drop world.deeds.length ++ [(op, answer)])) world'

/-- Every registry that can come about has a history. -/
theorem Solo.Reachable.exists_history {world : Solo} (h : Solo.Reachable world) :
    ∃ history, Solo.History history world := by
  induction h with
  | new => exact ⟨[], .new⟩
  | invite _ behaviour hstep ih =>
      obtain ⟨history, h⟩ := ih
      exact ⟨history, h.invite behaviour hstep⟩
  | perform _ depth op hstep ih =>
      obtain ⟨history, h⟩ := ih
      exact ⟨_, h.perform depth op hstep⟩

/-- What comes after a history when an operation is performed. -/
theorem Solo.serial_perform {history : List (Op Nat × Answer)} {world world' : Solo} {depth : Nat}
    {op : Op Nat} {answer : Answer} (h : Serial {} history world.registry.table)
    (hstep : Solo.perform depth op world = some (answer, world')) :
    Serial {} (history ++ (world'.deeds.drop world.deeds.length ++ [(op, answer)]))
      world'.registry.table := by
  obtain ⟨deeds, hdeeds, hserial⟩ := Op.perform_serial (Solo.dispatch_serially depth) hstep
  rw [hdeeds, List.drop_left]
  exact serial_append_iff.mpr ⟨_, h, hserial⟩

/-- **A history is serial**: one after the other, the things that were done make the table that
there is, and each of them is answered as it was. -/
theorem Solo.History.serial {history : List (Op Nat × Answer)} {world : Solo}
    (h : Solo.History history world) : Serial {} history world.registry.table := by
  induction h with
  | new => exact .done _
  | invite _ behaviour hstep ih =>
      cases hstep
      exact ih
  | perform _ depth op hstep ih => exact Solo.serial_perform ih hstep
  | @turn history world world' turns _ depth values _ hcourse ih =>
      obtain ⟨-, -, deeds, hdoing⟩ := hcourse.keeps Solo.taken_serially
        (fun _ _ => Solo.callGuest_serially (Solo.dispatch_serially depth) values _) trivial
      have hdeeds : world'.deeds = world.deeds ++ deeds := hdoing.deeds_eq
      rw [hdeeds, List.drop_left]
      exact serial_append_iff.mpr ⟨_, ih, hdoing.serial⟩
  | called _ hguest ih => exact ih
  | noted _ guest call text hstep ih =>
      cases hstep
      exact ih
  | acted _ depth guest call op hstep hcredit ih =>
      cases hcredit
      exact Solo.serial_perform ih hstep

end Registry

end Workbench
