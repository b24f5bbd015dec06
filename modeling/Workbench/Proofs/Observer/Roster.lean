import Mathlib.Data.List.Nodup
import Workbench.Proofs.Observer.Ledger

/-!
# A registry as an ordered set

Against every history of a registry stands a *roster*, which is nothing but observers in order: to
register an observer puts it last unless it is there, and to remove one takes it out, be it by
itself or by the identifier that it was last given (`Registry.Roster.of`).

**Theorem** (`Solo.History.wellKept`): at every moment of every history, inside events as well as
between them, the table of the registry is the roster of what was done up to then, identifiers grow
along it and are new when they are given out (`Registry.WellKept`); and an identifier that was given
out and is not in use is never in use again.

Since a history is serial, this is a fact about operations that are done one after the other. What
an operation can do to a table is said once (`Op.Outcome`); what is true of a table and of the deeds
that have made it (`Registry.Traced`) is kept by each outcome, and so by each run of operations
(`Serial.traced`). Identifiers are not bounded here. They are smaller than the next one, which grows
by one at most when an observer is registered (`WellKept.bounded`); so all that are given out fit a
word of 64 bits as long as observers are registered less often than there are words.
-/

namespace Workbench

open Audience

namespace Registry

variable {η : Type}

/-! ### Identifiers that were given out -/

/-- The identifiers that were answered to those who registered an observer. -/
def issued (deeds : List (Op η × Answer)) : List ObserverId :=
  deeds.filterMap fun
    | (.register _, .id id) => some id
    | _ => none

/-- Identifiers are given out in the order in which things are done. -/
theorem issued_append (deeds deeds' : List (Op η × Answer)) :
    issued (deeds ++ deeds') = issued deeds ++ issued deeds' :=
  List.filterMap_append

/-- An identifier was given out if it was the answer to somebody who registered an observer. -/
theorem mem_issued_iff {deeds : List (Op η × Answer)} {id : ObserverId} :
    id ∈ issued deeds ↔ ∃ observer, (Op.register observer, Answer.id id) ∈ deeds := by
  simp only [issued, List.mem_filterMap]
  constructor
  · rintro ⟨deed, hdeed, hid⟩
    split at hid
    · cases hid
      exact ⟨_, hdeed⟩
    · cases hid
  · rintro ⟨observer, hdeed⟩
    exact ⟨_, hdeed, rfl⟩

/-- Only registering gives out identifiers. -/
theorem issued_singleton_of_ne {op : Op η} (hop : ∀ observer, op ≠ .register observer)
    (answer : Answer) : issued [(op, answer)] = [] := by
  cases op with
  | register observer => exact absurd rfl (hop observer)
  | _ => rfl

/-! ### What operations can do to a table -/

section Tables

variable {table : Registry η}

/-- To remove an identifier that is not in use changes nothing. -/
theorem unregister_of_not_mem {id : ObserverId} (hid : id ∉ table.ids) :
    table.unregister id = (false, table) := by
  have hcontains : table.contains id = false := by
    rw [Bool.eq_false_iff]
    exact fun hcontains => hid (contains_iff_mem_ids.mp hcontains)
  have hfilter : (table.entries.filter fun entry => entry.id ≠ id) = table.entries := by
    refine List.filter_eq_self.mpr fun entry hentry => decide_eq_true fun hsame => hid ?_
    exact List.mem_map.mpr ⟨entry, hentry, hsame⟩
  rw [Registry.unregister, hcontains, hfilter]

/-- An identifier that was removed is not in use. -/
theorem not_mem_ids_unregister (table : Registry η) (id : ObserverId) :
    id ∉ (table.unregister id).2.ids := by
  intro hid
  obtain ⟨entry, hentry, hsame⟩ := List.mem_map.mp hid
  exact of_decide_eq_true (List.mem_filter.mp hentry).2 hsame

variable [DecidableEq η]

/-- An observer that is not in the table has no entry to be found. -/
theorem find?_eq_none_of_not_mem {observer : η}
    (hnew : observer ∉ table.entries.map Entry.observer) : table.find? observer = none := by
  refine List.find?_eq_none.mpr fun entry hentry hsame => hnew ?_
  exact List.mem_map.mpr ⟨entry, hentry, of_decide_eq_true hsame⟩

/-- A new observer is put last, under the next identifier. -/
theorem register_of_not_mem {observer : η} (hnew : observer ∉ table.entries.map Entry.observer) :
    table.register observer = (⟨table.nextId⟩, { table with
      entries := table.entries ++ [⟨⟨table.nextId⟩, observer⟩], nextId := table.nextId + 1 }) := by
  rw [Registry.register, find?_eq_none_of_not_mem hnew]

/-- The entry of a registered observer is found, since it has no other. -/
theorem Sound.find?_of_mem (h : table.Sound) {entry : Entry η} (hentry : entry ∈ table.entries) :
    table.find? entry.observer = some entry := by
  rcases hfind : table.find? entry.observer with _ | found
  · exact absurd (List.mem_map_of_mem hentry) (not_mem_of_find?_eq_none hfind)
  · have hsame : found.observer = entry.observer := by simpa using List.find?_some hfind
    rw [List.inj_on_of_nodup_map h.distinct (List.mem_of_find?_eq_some hfind) hentry hsame]

/-- An observer that is present keeps its identifier. -/
theorem Sound.register_of_mem (h : table.Sound) {entry : Entry η} (hentry : entry ∈ table.entries) :
    table.register entry.observer = (entry.id, table) := by
  rw [Registry.register, h.find?_of_mem hentry]

/-- Whichever identifier it has, an observer is removed by itself. -/
theorem Sound.unregisterObserver_eq (h : table.Sound) (observer : η) :
    (table.unregisterObserver observer).2 =
      { table with entries := table.entries.filter fun entry => entry.observer ≠ observer } := by
  by_cases hmem : observer ∈ table.entries.map Entry.observer
  · obtain ⟨own, hown, rfl⟩ := List.mem_map.mp hmem
    rw [Registry.unregisterObserver, h.find?_of_mem hown]
    have hsame : ∀ entry ∈ table.entries, entry.id = own.id ↔ entry.observer = own.observer := by
      intro entry hentry
      constructor
      · intro hid
        rw [List.inj_on_of_nodup_map h.ids_nodup hentry hown hid]
      · intro hobserver
        rw [List.inj_on_of_nodup_map h.distinct hentry hown hobserver]
    have hfilter : (table.entries.filter fun entry => entry.id ≠ own.id) =
        table.entries.filter fun entry => entry.observer ≠ own.observer :=
      List.filter_congr fun entry hentry => by simp only [ne_eq, hsame entry hentry]
    simp only [Registry.unregister, hfilter]
  · have hfilter : (table.entries.filter fun entry => entry.observer ≠ observer) =
        table.entries := by
      refine List.filter_eq_self.mpr fun entry hentry => decide_eq_true fun hsame => hmem ?_
      exact List.mem_map.mpr ⟨entry, hentry, hsame⟩
    rw [Registry.unregisterObserver, find?_eq_none_of_not_mem hmem, hfilter]

/-- What an operation can do to a table, and what it answers if it registers an observer. -/
inductive Op.Outcome (table : Registry η) : Op η → Answer → Registry η → Prop where
  | known (entry : Entry η) (hentry : entry ∈ table.entries) :
      Outcome table (.register entry.observer) (.id entry.id) table
  | added (observer : η) (hnew : observer ∉ table.entries.map Entry.observer) :
      Outcome table (.register observer) (.id ⟨table.nextId⟩) { table with
        entries := table.entries ++ [⟨⟨table.nextId⟩, observer⟩], nextId := table.nextId + 1 }
  | removed (op : Op η) (hop : ∀ observer, op ≠ .register observer) (answer : Answer)
      (entries : List (Entry η)) (hsub : entries.Sublist table.entries) :
      Outcome table op answer { table with entries := entries }

/-- **Every operation** on a sound table does one of these things. -/
theorem Sound.outcome (h : table.Sound) {op : Op η} {answer : Answer}
    (hanswer : op.Answers table answer) : op.Outcome table answer (op.tabulate table) := by
  cases op with
  | register observer =>
      cases hanswer
      by_cases hmem : observer ∈ table.entries.map Entry.observer
      · obtain ⟨entry, hentry, rfl⟩ := List.mem_map.mp hmem
        rw [Op.tabulate, h.register_of_mem hentry]
        exact .known entry hentry
      · rw [Op.tabulate, register_of_not_mem hmem]
        exact .added observer hmem
  | unregister id => exact .removed _ (by simp) _ _ List.filter_sublist
  | unregisterObserver observer =>
      rw [Op.tabulate, h.unregisterObserver_eq observer]
      exact .removed _ (by simp) _ _ List.filter_sublist
  | clear => exact .removed _ (by simp) _ _ (List.nil_sublist _)
  | contains id => exact .removed _ (by simp) _ _ (.refl _)
  | dispatch values => exact .removed _ (by simp) _ _ (.refl _)
  | print values => exact .removed _ (by simp) _ _ (.refl _)
  | debug => exact .removed _ (by simp) _ _ (.refl _)

/-- An operation keeps tables sound, and what becomes of them follows. -/
theorem Sound.tabulate (h : table.Sound) (op : Op η) :
    (op.tabulate table).Sound ∧ table.Follows (op.tabulate table) := by
  cases op with
  | register observer => exact h.register observer
  | unregister id => exact h.unregister id
  | unregisterObserver observer => exact h.unregisterObserver observer
  | clear => exact h.clear
  | contains id => exact ⟨h, .refl table⟩
  | dispatch values => exact ⟨h, .refl table⟩
  | print values => exact ⟨h, .refl table⟩
  | debug => exact ⟨h, .refl table⟩

end Tables

variable [DecidableEq η]

/-! ### Rosters -/

/-- Observers in order, and the identifier that each was last given. -/
structure Roster (η : Type) where
  members : List η := []
  given : η → Option ObserverId := fun _ => none

namespace Roster

/-- What a deed makes of a roster. -/
def after (roster : Roster η) : Op η × Answer → Roster η
  | (.register observer, .id id) =>
      if observer ∈ roster.members then roster
      else
        { members := roster.members ++ [observer]
          given := Function.update roster.given observer (some id) }
  | (.unregister id, _) =>
      { roster with
        members := roster.members.filter fun observer => roster.given observer ≠ some id }
  | (.unregisterObserver observer, _) =>
      { roster with members := roster.members.filter fun other => other ≠ observer }
  | (.clear, _) => { roster with members := [] }
  | _ => roster

/-- The roster that deeds lead to. -/
def of (deeds : List (Op η × Answer)) : Roster η := deeds.foldl after {}

/-- A roster goes on with the last thing that was done. -/
theorem of_concat (deeds : List (Op η × Answer)) (deed : Op η × Answer) :
    of (deeds ++ [deed]) = (of deeds).after deed := by
  rw [of, of, List.foldl_append]
  rfl

/-- A table is the one of a roster: it has the members in order, each under the identifier that it
was last given. -/
structure Describes (roster : Roster η) (table : Registry η) : Prop where
  members : table.entries.map Entry.observer = roster.members
  given : ∀ entry ∈ table.entries, roster.given entry.observer = some entry.id

variable {roster : Roster η} {table : Registry η}

/-- A roster that describes a table describes it after an observer was registered, known or new. -/
theorem Describes.register (h : roster.Describes table) (hsound : table.Sound) (observer : η) :
    (roster.after (.register observer, .id (table.register observer).1)).Describes
      (table.register observer).2 := by
  by_cases hmem : observer ∈ roster.members
  · rw [after, if_pos hmem]
    obtain ⟨entry, hentry, rfl⟩ := List.mem_map.mp (h.members ▸ hmem)
    rwa [hsound.register_of_mem hentry]
  · have hnew : observer ∉ table.entries.map Entry.observer := h.members ▸ hmem
    rw [after, if_neg hmem, register_of_not_mem hnew]
    refine ⟨?_, fun entry hentry => ?_⟩
    · rw [List.map_append, h.members]
      rfl
    · rcases List.mem_append.mp hentry with hold | hlast
      · have hother : entry.observer ≠ observer := fun hsame =>
          hnew (hsame ▸ List.mem_map_of_mem hold)
        exact (Function.update_of_ne hother _ _).trans (h.given entry hold)
      · rw [List.mem_singleton.mp hlast]
        exact Function.update_self _ _ _

/-- It does so after an identifier was removed. -/
theorem Describes.unregister (h : roster.Describes table) (id : ObserverId) (answer : Answer) :
    (roster.after (.unregister id, answer)).Describes (table.unregister id).2 := by
  refine ⟨?_, fun entry hentry => h.given entry (List.mem_of_mem_filter hentry)⟩
  change (table.entries.filter _).map Entry.observer = roster.members.filter _
  rw [← h.members, List.filter_map]
  congr 1
  refine List.filter_congr fun entry hentry => ?_
  simp only [Function.comp_apply, h.given entry hentry, ne_eq, Option.some.injEq]

/-- And it does so after an observer was removed, under whichever identifier. -/
theorem Describes.unregisterObserver (h : roster.Describes table) (hsound : table.Sound)
    (observer : η) (answer : Answer) :
    (roster.after (.unregisterObserver observer, answer)).Describes
      (table.unregisterObserver observer).2 := by
  rw [hsound.unregisterObserver_eq observer]
  refine ⟨?_, fun entry hentry => h.given entry (List.mem_of_mem_filter hentry)⟩
  change (table.entries.filter _).map Entry.observer = roster.members.filter _
  rw [← h.members, List.filter_map]
  rfl

/-- A deed makes of the roster of a table the roster of what it makes of the table. -/
theorem Describes.after (h : roster.Describes table) (hsound : table.Sound) {op : Op η}
    {answer : Answer} (hanswer : op.Answers table answer) :
    (roster.after (op, answer)).Describes (op.tabulate table) := by
  cases op with
  | register observer =>
      cases hanswer
      exact h.register hsound observer
  | unregister id => exact h.unregister id answer
  | unregisterObserver observer => exact h.unregisterObserver hsound observer answer
  | clear => exact ⟨rfl, fun entry hentry => absurd hentry List.not_mem_nil⟩
  | contains id => exact h
  | dispatch values => exact h
  | print values => exact h
  | debug => exact h

end Roster

/-! ### Tables and the deeds that have made them -/

/-- What is true of a table and of the deeds that have made it. -/
structure Traced (past : List (Op η × Answer)) (table : Registry η) : Prop where
  sound : table.Sound
  /-- Every identifier that was given out is smaller than the next one. -/
  issued_lt : ∀ id ∈ issued past, id.number < table.nextId
  /-- Identifiers are given out only to those who register an observer. -/
  nextId_le : table.nextId ≤ (issued past).length + 1
  /-- Every observer in the table was registered under its identifier. -/
  holder : ∀ entry ∈ table.entries, (Op.register entry.observer, Answer.id entry.id) ∈ past
  /-- No identifier was given to two observers. -/
  single : ∀ {observer observer' : η} {id : ObserverId},
    (Op.register observer, Answer.id id) ∈ past →
      (Op.register observer', Answer.id id) ∈ past → observer = observer'
  described : (Roster.of past).Describes table

/-- Nothing has been done to a new table. -/
theorem traced_new : Traced ([] : List (Op η × Answer)) {} where
  sound := sound_new
  issued_lt := fun _ hid => absurd hid List.not_mem_nil
  nextId_le := Nat.le_refl _
  holder := fun _ hentry => absurd hentry List.not_mem_nil
  single := fun hdeed _ => absurd hdeed List.not_mem_nil
  described := ⟨rfl, fun _ hentry => absurd hentry List.not_mem_nil⟩

section Traced

variable {past : List (Op η × Answer)} {table after : Registry η} {op : Op η} {answer : Answer}

/-- The next identifier stays above all that were given out. -/
theorem Traced.issued_lt_outcome (h : Traced past table)
    (houtcome : op.Outcome table answer after) :
    ∀ id ∈ issued (past ++ [(op, answer)]), id.number < after.nextId := by
  intro id hid
  rw [issued_append, List.mem_append] at hid
  cases houtcome with
  | known entry hentry =>
      rcases hid with hold | hlast
      · exact h.issued_lt id hold
      · rw [List.mem_singleton.mp hlast]
        exact h.sound.fresh entry.id (List.mem_map_of_mem hentry)
  | added observer hnew =>
      rcases hid with hold | hlast
      · exact Nat.lt_succ_of_lt (h.issued_lt id hold)
      · rw [List.mem_singleton.mp hlast]
        exact Nat.lt_succ_self _
  | removed _ hop _ entries hsub =>
      rw [issued_singleton_of_ne hop] at hid
      rcases hid with hold | hnone
      · exact h.issued_lt id hold
      · exact absurd hnone List.not_mem_nil

/-- It grows only when an identifier is given out. -/
theorem Traced.nextId_le_outcome (h : Traced past table)
    (houtcome : op.Outcome table answer after) :
    after.nextId ≤ (issued (past ++ [(op, answer)])).length + 1 := by
  rw [issued_append, List.length_append]
  have hle := h.nextId_le
  cases houtcome with
  | known entry hentry => omega
  | added observer hnew => exact Nat.succ_le_succ hle
  | removed _ hop _ entries hsub =>
      change table.nextId ≤ _
      omega

/-- The entries of a table go back to those who registered them. -/
theorem Traced.holder_outcome (h : Traced past table) (houtcome : op.Outcome table answer after) :
    ∀ entry ∈ after.entries,
      (Op.register entry.observer, Answer.id entry.id) ∈ past ++ [(op, answer)] := by
  intro entry hentry
  cases houtcome with
  | known _ _ => exact List.mem_append_left _ (h.holder entry hentry)
  | added observer hnew =>
      rcases List.mem_append.mp hentry with hold | hlast
      · exact List.mem_append_left _ (h.holder entry hold)
      · rw [List.mem_singleton.mp hlast]
        exact List.mem_append_right _ (List.mem_singleton.mpr rfl)
  | removed _ hop _ entries hsub =>
      exact List.mem_append_left _ (h.holder entry (hsub.subset hentry))

/-- An observer that is registered now is the only one that was registered under the answer. -/
theorem Traced.registered_now (h : Traced past table) {observer observer' : η} {id : ObserverId}
    (houtcome : (Op.register observer).Outcome table (.id id) after)
    (hdeed : (Op.register observer', Answer.id id) ∈ past) : observer' = observer := by
  cases houtcome with
  | known entry hentry => exact h.single hdeed (h.holder entry hentry)
  | added _ hnew =>
      exact absurd (h.issued_lt _ (mem_issued_iff.mpr ⟨observer', hdeed⟩)) (Nat.lt_irrefl _)
  | removed _ hop _ entries hsub => exact absurd rfl (hop observer)

/-- An identifier that is given out is new or goes to the observer that has it already. -/
theorem Traced.single_outcome (h : Traced past table) (houtcome : op.Outcome table answer after)
    {observer observer' : η} {id : ObserverId}
    (hdeed : (Op.register observer, Answer.id id) ∈ past ++ [(op, answer)])
    (hdeed' : (Op.register observer', Answer.id id) ∈ past ++ [(op, answer)]) :
    observer = observer' := by
  rw [List.mem_append, List.mem_singleton] at hdeed hdeed'
  rcases hdeed with hold | hlast <;> rcases hdeed' with hold' | hlast'
  · exact h.single hold hold'
  · cases hlast'
    exact h.registered_now houtcome hold
  · cases hlast
    exact (h.registered_now houtcome hold').symm
  · cases hlast
    cases hlast'
    rfl

/-- One more deed. -/
theorem Traced.step (h : Traced past table) (hanswer : op.Answers table answer) :
    Traced (past ++ [(op, answer)]) (op.tabulate table) where
  sound := (h.sound.tabulate op).1
  issued_lt := h.issued_lt_outcome (h.sound.outcome hanswer)
  nextId_le := h.nextId_le_outcome (h.sound.outcome hanswer)
  holder := h.holder_outcome (h.sound.outcome hanswer)
  single := h.single_outcome (h.sound.outcome hanswer)
  described := by
    rw [Roster.of_concat]
    exact h.described.after h.sound hanswer

/-- Deeds that are done one after the other, after others. -/
theorem Serial.traced {deeds : List (Op η × Answer)} (h : Serial table deeds after)
    (hpast : Traced past table) : Traced (past ++ deeds) after := by
  induction h generalizing past with
  | done table => rwa [List.append_nil]
  | step hanswer _ ih => simpa using ih (hpast.step hanswer)

/-- However much is done to a sound table, what comes later has a larger identifier. -/
theorem Serial.follows {deeds : List (Op η × Answer)} (h : Serial table deeds after)
    (hsound : table.Sound) : table.Follows after := by
  induction h with
  | done table => exact .refl table
  | step _ _ ih =>
      obtain ⟨hnext, hstep⟩ := hsound.tabulate _
      exact hstep.trans (ih hnext)

/-- **An identifier that was given out and is not in use is never in use again.** -/
theorem Traced.not_mem_ids_of_serial (h : Traced past table) {deeds : List (Op η × Answer)}
    (hserial : Serial table deeds after) {id : ObserverId} (hissued : id ∈ issued past)
    (hgone : id ∉ table.ids) : id ∉ after.ids := by
  intro hback
  obtain ⟨entry, hentry, rfl⟩ := List.mem_map.mp hback
  rcases (hserial.follows h.sound).entries entry hentry with hold | hlarge
  · exact hgone (List.mem_map_of_mem hold)
  · exact Nat.lt_irrefl _ (Nat.lt_of_le_of_lt hlarge (h.issued_lt _ hissued))

end Traced

/-! ### Every moment of a history -/

/-- A table is as it should be after what was done. -/
structure WellKept (past : List (Op η × Answer)) (table : Registry η) : Prop where
  /-- No two entries have one identifier, and no two have one observer. -/
  distinct : table.ids.Nodup ∧ (table.entries.map Entry.observer).Nodup
  /-- Identifiers grow in the order in which events reach the observers. -/
  increasing : table.ids.Pairwise fun first later => first.number < later.number
  /-- Every identifier is smaller than the next one. -/
  fresh : ∀ id ∈ table.ids, id.number < table.nextId
  /-- The next identifier is bounded by how often observers were registered. -/
  bounded : table.nextId ≤ (issued past).length + 1
  /-- Every identifier in use was given out to its observer. -/
  holder : ∀ entry ∈ table.entries, (Op.register entry.observer, Answer.id entry.id) ∈ past
  /-- To register an observer that is present changes nothing and answers its identifier. -/
  register_present : ∀ entry ∈ table.entries, table.register entry.observer = (entry.id, table)
  /-- An observer that is absent is put last, under an identifier larger than any that was ever
  given out. -/
  register_absent : ∀ observer, observer ∉ table.entries.map Entry.observer →
    ∃ id : ObserverId, (∀ old ∈ issued past, old.number < id.number) ∧
      table.register observer = (id, { table with
        entries := table.entries ++ [⟨id, observer⟩], nextId := id.number + 1 })
  /-- To remove an identifier that is not in use changes nothing. -/
  unregister_stale : ∀ id, id ∉ table.ids → table.unregister id = (false, table)
  /-- To remove an identifier removes no other observer than the one it was given to. -/
  unregister_own : ∀ observer id, (Op.register observer, Answer.id id) ∈ past →
    ∀ entry ∈ table.entries, entry ∉ (table.unregister id).2.entries → entry.observer = observer
  /-- To remove an identifier twice is to remove it once. -/
  unregister_twice : ∀ id, (table.unregister id).2.unregister id = (false, (table.unregister id).2)
  /-- The table is the one of the roster of what was done. -/
  described : (Roster.of past).Describes table

/-- A table that goes back to what was done is as it should be. -/
theorem wellKept_of_traced {past : List (Op η × Answer)} {table : Registry η}
    (h : Traced past table) : WellKept past table where
  distinct := ⟨h.sound.ids_nodup, h.sound.distinct⟩
  increasing := h.sound.increasing
  fresh := h.sound.fresh
  bounded := h.nextId_le
  holder := h.holder
  register_present := fun entry hentry => h.sound.register_of_mem hentry
  register_absent := fun observer hnew => ⟨⟨table.nextId⟩, h.issued_lt, register_of_not_mem hnew⟩
  unregister_stale := fun id hid => unregister_of_not_mem hid
  unregister_own := by
    intro observer id hdeed entry hentry hremoved
    have hid : entry.id = id := by
      by_contra hother
      exact hremoved (List.mem_filter.mpr ⟨hentry, decide_eq_true hother⟩)
    exact h.single (h.holder entry hentry) (hid ▸ hdeed)
  unregister_twice := fun id => unregister_of_not_mem (table.not_mem_ids_unregister id)
  described := h.described

/-- The counts have no part in it. -/
theorem traced_of_table {past : List (Op η × Answer)} {registry : Registry η}
    (h : Traced past registry.table) : Traced past registry where
  sound := h.sound.congr rfl rfl
  issued_lt := h.issued_lt
  nextId_le := h.nextId_le
  holder := h.holder
  single := h.single
  described := ⟨h.described.members, h.described.given⟩

/-- **The table at every moment.** The registry is as it should be after its history; and however
the history is cut in three, the first part leads from the empty table to one that is as it should
be, the second on to another one, where nothing is in use that was given out before the first cut
and was not in use then, and the third to the table that there is. -/
theorem Solo.History.wellKept {history : List (Op Nat × Answer)} {world : Solo}
    (h : Solo.History history world) :
    WellKept history world.registry ∧
      ∀ earlier between later, history = earlier ++ between ++ later →
        ∃ before after, Serial {} earlier before ∧ Serial before between after ∧
          Serial after later world.registry.table ∧
          WellKept earlier before ∧ WellKept (earlier ++ between) after ∧
          ∀ id ∈ issued earlier, id ∉ before.ids → id ∉ after.ids := by
  have hserial := h.serial
  refine ⟨wellKept_of_traced (traced_of_table (hserial.traced traced_new)), ?_⟩
  intro earlier between later hcut
  rw [hcut, serial_append_iff] at hserial
  obtain ⟨after, hfirst, hlater⟩ := hserial
  obtain ⟨before, hearlier, hbetween⟩ := serial_append_iff.mp hfirst
  have hbefore : Traced earlier before := hearlier.traced traced_new
  have hafter : Traced (earlier ++ between) after := hbetween.traced hbefore
  refine ⟨before, after, hearlier, hbetween, hlater, wellKept_of_traced hbefore,
    wellKept_of_traced hafter, ?_⟩
  intro id hissued hgone
  exact hbefore.not_mem_ids_of_serial hbetween hissued hgone

/-- An observer that on its first call removes the second observer and registers it again, and then
asks for the identifier that it had. -/
def reviver : Behaviour (Op Nat) Answer := fun call _ =>
  if call = 1 then
    .act (.unregister ⟨2⟩) fun _ => .act (.register 1) fun _ =>
      .act (.contains ⟨2⟩) fun _ => .finish .accepted
  else .finish .accepted

/-- A registry with such an observer and one that accepts everything. -/
def revivable : Solo :=
  { registry := { entries := [⟨⟨1⟩, 0⟩, ⟨⟨2⟩, 1⟩], nextId := 3 }
    guests := #[{ behaviour := reviver }, { behaviour := fun _ _ => .finish .accepted }] }

/-- Such a registry has come about by registering the two. -/
theorem history_revivable :
    Solo.History [(.register 0, .id ⟨1⟩), (.register 1, .id ⟨2⟩)] revivable := by
  have hreviver := Solo.History.new.invite reviver rfl
  have hguests := hreviver.invite (fun _ _ => .finish .accepted) rfl
  have hfirst := hguests.perform 0 (.register 0) rfl
  exact hfirst.perform 0 (.register 1) rfl

/-- What is done before the second observer is registered again, in the midst of an event. -/
def beforeRevival : List (Op Nat × Answer) :=
  [(.register 0, .id ⟨1⟩), (.register 1, .id ⟨2⟩), (.unregister ⟨2⟩, .flag true)]

/-- What is done from then on. -/
def sinceRevival : List (Op Nat × Answer) :=
  [(.register 1, .id ⟨3⟩), (.contains ⟨2⟩, .flag false), (.dispatch [], .report ⟨[⟨1⟩], []⟩)]

/-- The event in which the second observer comes back has a history. -/
theorem history_revival : ∃ world, Solo.History (beforeRevival ++ sinceRevival) world :=
  ⟨_, history_revivable.perform 1 (.dispatch []) rfl⟩

/-- Before that, the table has the first observer only. -/
theorem serial_beforeRevival :
    Serial {} beforeRevival { entries := [⟨⟨1⟩, 0⟩], nextId := 3 } :=
  .step rfl (.step rfl (.step rfl (.done _)))

/-- Inside the event the second observer comes back, under an identifier of its own. -/
theorem wellKept_revival :
    ∃ world after, Solo.History (beforeRevival ++ sinceRevival) world ∧
      WellKept (beforeRevival ++ sinceRevival) world.registry ∧
      WellKept beforeRevival { entries := [⟨⟨1⟩, 0⟩], nextId := 3 } ∧
      Serial { entries := [⟨⟨1⟩, 0⟩], nextId := 3 } [(.register 1, .id ⟨3⟩)] after ∧
      ⟨2⟩ ∉ after.ids := by
  obtain ⟨world, h⟩ := history_revival
  obtain ⟨hnow, hcuts⟩ := Solo.History.wellKept h
  obtain ⟨before, after, hbefore, hafter, -, hkept, -, hgone⟩ :=
    hcuts beforeRevival [(.register 1, .id ⟨3⟩)] (sinceRevival.drop 1) rfl
  obtain rfl := hbefore.unique serial_beforeRevival
  exact ⟨world, after, h, hnow, hkept, hafter, hgone ⟨2⟩ (by decide) (by decide)⟩

end Registry

end Workbench
