import Workbench.Proofs.Observer.Course

/-!
# The table of a registry

`Registry.Sound` is what is true of the table of a registry at all times: identifiers grow along it,
all are smaller than the next one, and no observer is in it twice. `Registry.Follows` is what can
become of a table: identifiers that come later are new. Every operation on a registry keeps the
first and is an instance of the second, so that steps which change the table by operations only keep
to the manner `Audience.growth`.

The counters of a registry are numbers without a bound. `eventWord` and `failureWord` are what words
of sixty-four bits hold of them, and `CountersFit` is the bound below which these are the same.
-/

namespace Workbench

namespace Registry

variable {η : Type}

/-- What is true of the table of a registry at all times. -/
structure Sound (registry : Registry η) : Prop where
  /-- Identifiers grow along the table. -/
  increasing : registry.ids.Pairwise fun first later => first.number < later.number
  /-- Every identifier is smaller than the next one. -/
  fresh : ∀ id ∈ registry.ids, id.number < registry.nextId
  /-- No observer is registered twice. -/
  distinct : (registry.entries.map Entry.observer).Nodup

/-- What can become of a table: an entry that was not there before has an identifier that was not
given out before. -/
structure Follows (before after : Registry η) : Prop where
  nextId_le : before.nextId ≤ after.nextId
  entries : ∀ entry ∈ after.entries, entry ∈ before.entries ∨ before.nextId ≤ entry.id.number

/-- A table can become itself. -/
theorem Follows.refl (registry : Registry η) : registry.Follows registry :=
  ⟨Nat.le_refl _, fun _ hmem => Or.inl hmem⟩

/-- What can become of a table later can become of it. -/
theorem Follows.trans {first second third : Registry η} (h : first.Follows second)
    (h' : second.Follows third) : first.Follows third := by
  refine ⟨Nat.le_trans h.nextId_le h'.nextId_le, fun entry hmem => ?_⟩
  rcases h'.entries entry hmem with hold | hnew
  · exact h.entries entry hold
  · exact Or.inr (Nat.le_trans h.nextId_le hnew)

/-- No two entries have one identifier. -/
theorem Sound.ids_nodup {registry : Registry η} (h : registry.Sound) : registry.ids.Nodup := by
  refine h.increasing.imp ?_
  intro first later hlt heq
  rw [heq] at hlt
  exact Nat.lt_irrefl _ hlt

/-- A new registry is sound. -/
theorem sound_new : ({} : Registry η).Sound :=
  ⟨List.Pairwise.nil, fun _ hmem => absurd hmem List.not_mem_nil, List.nodup_nil⟩

/-- Only the table and the next identifier matter. -/
theorem Sound.congr {registry registry' : Registry η} (h : registry.Sound)
    (hentries : registry'.entries = registry.entries) (hnext : registry'.nextId = registry.nextId) :
    registry'.Sound := by
  have hids : registry'.ids = registry.ids := congrArg (List.map Entry.id) hentries
  refine ⟨hids ▸ h.increasing, ?_, hentries ▸ h.distinct⟩
  rw [hids, hnext]
  exact h.fresh

/-- A table without some of its entries. -/
theorem Sound.sublist {registry : Registry η} (h : registry.Sound) {entries : List (Entry η)}
    (hsub : entries.Sublist registry.entries) : { registry with entries := entries }.Sound where
  increasing := h.increasing.sublist (hsub.map Entry.id)
  fresh := fun id hmem => h.fresh id ((hsub.map Entry.id).subset hmem)
  distinct := h.distinct.sublist (hsub.map Entry.observer)

/-- A table without some of its entries follows the one before. -/
theorem follows_sublist {registry : Registry η} {entries : List (Entry η)}
    (hsub : entries.Sublist registry.entries) :
    registry.Follows { registry with entries := entries } :=
  ⟨Nat.le_refl _, fun _ hmem => Or.inl (hsub.subset hmem)⟩

/-! ### Counters in words of sixty-four bits -/

/-- The number of dispatched events in a word of sixty-four bits. -/
def eventWord (registry : Registry η) : UInt64 := .ofNat registry.events

/-- The number of failures in a word of sixty-four bits. -/
def failureWord (registry : Registry η) : UInt64 := .ofNat registry.failures

/-- The bound up to which words of sixty-four bits count exactly. -/
structure CountersFit (registry : Registry η) : Prop where
  events_lt : registry.events < UInt64.size
  failures_lt : registry.failures < UInt64.size

/-- To count an event is to add one to the word, which starts again from zero after its greatest
value. -/
theorem eventWord_countEvent (registry : Registry η) :
    registry.countEvent.eventWord = registry.eventWord + 1 :=
  UInt64.ofNat_add registry.events 1

/-- To count a failure is to add one to the word. -/
theorem failureWord_countFailure (registry : Registry η) :
    registry.countFailure.failureWord = registry.failureWord + 1 :=
  UInt64.ofNat_add registry.failures 1

/-- Below the bound the words are the counters. -/
theorem CountersFit.toNat_words {registry : Registry η} (h : registry.CountersFit) :
    registry.eventWord.toNat = registry.events ∧ registry.failureWord.toNat = registry.failures :=
  ⟨UInt64.toNat_ofNat_of_lt' h.events_lt, UInt64.toNat_ofNat_of_lt' h.failures_lt⟩

/-! ### Operations -/

/-- To remove an identifier keeps the table sound. -/
theorem Sound.unregister {registry : Registry η} (h : registry.Sound) (id : ObserverId) :
    (registry.unregister id).2.Sound ∧ registry.Follows (registry.unregister id).2 :=
  ⟨h.sublist List.filter_sublist, follows_sublist List.filter_sublist⟩

/-- So does removing everything. -/
theorem Sound.clear {registry : Registry η} (h : registry.Sound) :
    registry.clear.2.Sound ∧ registry.Follows registry.clear.2 :=
  ⟨h.sublist (List.nil_sublist _), follows_sublist (List.nil_sublist _)⟩

variable [DecidableEq η]

/-- An observer that is not found is not in the table. -/
theorem not_mem_of_find?_eq_none {registry : Registry η} {observer : η}
    (hfind : registry.find? observer = none) :
    observer ∉ registry.entries.map Entry.observer := by
  intro hmem
  obtain ⟨entry, hentry, hobserver⟩ := List.mem_map.mp hmem
  have hnone := List.find?_eq_none.mp hfind entry hentry
  simp [hobserver] at hnone

/-- So does registering an observer, known or new. -/
theorem Sound.register {registry : Registry η} (h : registry.Sound) (observer : η) :
    (registry.register observer).2.Sound ∧ registry.Follows (registry.register observer).2 := by
  unfold Registry.register
  split
  · exact ⟨h, .refl registry⟩
  · rename_i hfind
    refine ⟨⟨?_, ?_, ?_⟩, Nat.le_succ _, ?_⟩
    · change (List.map Entry.id (registry.entries ++ [_])).Pairwise _
      rw [List.map_append, List.pairwise_append]
      refine ⟨h.increasing, List.pairwise_singleton _ _, ?_⟩
      intro id hmem later hlater
      rw [List.mem_singleton.mp hlater]
      exact h.fresh id hmem
    · intro id hmem
      change id ∈ List.map Entry.id (registry.entries ++ [_]) at hmem
      rw [List.map_append, List.mem_append] at hmem
      rcases hmem with hold | hnew
      · exact Nat.lt_succ_of_lt (h.fresh id hold)
      · rw [List.mem_singleton.mp hnew]
        exact Nat.lt_succ_self _
    · rw [List.map_append, List.nodup_append]
      refine ⟨h.distinct, List.pairwise_singleton _ _, ?_⟩
      intro known hknown new hnew heq
      have hnewcomer : known = observer := heq.trans (List.mem_singleton.mp hnew)
      rw [hnewcomer] at hknown
      exact not_mem_of_find?_eq_none hfind hknown
    · intro entry hmem
      rcases List.mem_append.mp hmem with hold | hnew
      · exact Or.inl hold
      · rw [List.mem_singleton.mp hnew]
        exact Or.inr (Nat.le_refl _)

/-- And so does removing an observer, registered or not. -/
theorem Sound.unregisterObserver {registry : Registry η} (h : registry.Sound) (observer : η) :
    (registry.unregisterObserver observer).2.Sound ∧
      registry.Follows (registry.unregisterObserver observer).2 := by
  unfold Registry.unregisterObserver
  split
  · exact h.unregister _
  · exact ⟨h, .refl registry⟩

/-- Registering is not counted. -/
theorem register_counters (registry : Registry η) (observer : η) :
    (registry.register observer).2.events = registry.events ∧
      (registry.register observer).2.failures = registry.failures := by
  unfold Registry.register
  split <;> exact ⟨rfl, rfl⟩

/-- Removing an observer is not counted. -/
theorem unregisterObserver_counters (registry : Registry η) (observer : η) :
    (registry.unregisterObserver observer).2.events = registry.events ∧
      (registry.unregisterObserver observer).2.failures = registry.failures := by
  unfold Registry.unregisterObserver
  split <;> exact ⟨rfl, rfl⟩

end Registry

/-! ### Worlds -/

/-- The audience of a world is what it was last made. -/
class LawfulHasAudience (σ : Type) {η α β : Type} [HasAudience σ η α β] : Prop where
  audience_withAudience (w : σ) (audience : Audience η α β) :
    HasAudience.audience (HasAudience.withAudience w audience) = audience

namespace Audience

variable {σ η α β : Type} [HasAudience σ η α β] [LawfulHasAudience σ]

/-- The manner in which tables are changed by operations: they stay sound, and identifiers that come
later are new. -/
def growth (σ : Type) {η α β : Type} [HasAudience σ η α β] : Act.Manner σ where
  inv w := (registryOf w).Sound
  rel w w' := (registryOf w).Follows (registryOf w')
  refl w := .refl (registryOf w)
  trans h h' := h.trans h'

/-- The registry of a world whose audience was changed. -/
theorem registryOf_withAudience (w : σ) (audience : Audience η α β) :
    registryOf (HasAudience.withAudience w audience) = audience.registry :=
  congrArg registry (LawfulHasAudience.audience_withAudience w audience)

/-- A change of the audience that leaves the registry as it is. -/
theorem growth_of_registry_eq {w : σ} (hw : (growth σ).inv w) {audience : Audience η α β}
    (hregistry : audience.registry = registryOf w) :
    (growth σ).inv (HasAudience.withAudience w audience) ∧
      (growth σ).rel w (HasAudience.withAudience w audience) := by
  simp only [growth, registryOf_withAudience, hregistry]
  exact ⟨hw, .refl _⟩

/-- Counting changes no table. -/
theorem growth_of_counted {w : σ} (hw : (growth σ).inv w) {registry : Registry η}
    (hentries : registry.entries = (registryOf w).entries)
    (hnext : registry.nextId = (registryOf w).nextId) :
    (growth σ).inv
        (HasAudience.withAudience w { HasAudience.audience w with registry := registry }) ∧
      (growth σ).rel w
        (HasAudience.withAudience w { HasAudience.audience w with registry := registry }) := by
  simp only [growth, registryOf_withAudience]
  exact ⟨Registry.Sound.congr hw hentries hnext,
    ⟨Nat.le_of_eq hnext.symm, fun entry hmem => Or.inl (hentries ▸ hmem)⟩⟩

/-- A verdict is counted, and the table stays as it is. -/
theorem growth_taken (verdict : Verdict) (w : σ) (hw : (growth σ).inv w) :
    (growth σ).inv (taken verdict w) ∧ (growth σ).rel w (taken verdict w) := by
  unfold taken
  split
  · exact ⟨hw, (growth σ).refl w⟩
  · exact growth_of_counted hw rfl rfl

/-- An event is counted, and the table stays as it is. -/
theorem growth_began (w : σ) (hw : (growth σ).inv w) :
    (growth σ).inv (began w) ∧ (growth σ).rel w (began w) :=
  growth_of_counted hw rfl rfl

/-- A guest that is credited leaves the table as it is. -/
theorem growth_credit (guest call : Nat) (feat : Feat α β) :
    (growth σ).Keeps (credit guest call feat : Act σ Unit) := by
  refine Act.Manner.keeps_of_apply (fun w => rfl) fun w hw => ?_
  exact growth_of_registry_eq hw rfl

/-- An operation that keeps tables sound and follows the one before. -/
theorem growth_onRegistry {γ : Type} {f : Registry η → γ × Registry η}
    (hf : ∀ registry, registry.Sound → (f registry).2.Sound ∧ registry.Follows (f registry).2) :
    (growth σ).Keeps (onRegistry f : Act σ γ) := by
  refine Act.Manner.keeps_of_apply (fun w => rfl) fun w hw => ?_
  change (growth σ).inv (HasAudience.withAudience w
      { HasAudience.audience w with registry := (f (registryOf w)).2 }) ∧ (growth σ).rel w _
  simp only [growth, registryOf_withAudience]
  exact hf (registryOf w) hw

end Audience

namespace Registry

variable {σ η α β : Type} [DecidableEq η] [HasAudience σ η α β]

/-- Operations keep to a manner if dispatching an event does, and changes of the registry do. -/
theorem Op.perform_keeps {manner : Act.Manner σ} {dispatch : List Value → Act σ Report}
    (hdispatch : ∀ values, manner.Keeps (dispatch values))
    (hregister : ∀ observer : η,
      manner.Keeps (Audience.onRegistry fun registry => registry.register observer : Act σ _))
    (hunregister : ∀ id, manner.Keeps
      (Audience.onRegistry fun registry : Registry η => registry.unregister id : Act σ _))
    (hunregisterObserver : ∀ observer : η, manner.Keeps
      (Audience.onRegistry fun registry => registry.unregisterObserver observer : Act σ _))
    (hclear : manner.Keeps (Audience.onRegistry (Registry.clear : Registry η → _) : Act σ _))
    (op : Op η) : manner.Keeps (op.perform dispatch) := by
  have hlook : manner.Keeps (Audience.registryNow : Act σ (Registry η)) :=
    Act.Manner.keeps_of_apply (fun w => rfl) fun w hw => ⟨hw, manner.refl w⟩
  cases op with
  | register observer => exact (hregister observer).bind fun _ => Act.Manner.keeps_pure _
  | unregister id => exact (hunregister id).bind fun _ => Act.Manner.keeps_pure _
  | unregisterObserver observer =>
      exact (hunregisterObserver observer).bind fun _ => Act.Manner.keeps_pure _
  | contains id => exact hlook.bind fun _ => Act.Manner.keeps_pure _
  | clear => exact hclear.bind fun _ => Act.Manner.keeps_pure _
  | dispatch values => exact (hdispatch values).bind fun _ => Act.Manner.keeps_pure _
  | print values => exact (hdispatch values).bind fun _ => Act.Manner.keeps_pure _
  | debug => exact hlook.bind fun _ => Act.Manner.keeps_pure _

/-- Operations change tables as they should if dispatching an event does. -/
theorem Op.perform_growth [LawfulHasAudience σ] {dispatch : List Value → Act σ Report}
    (hdispatch : ∀ values, (Audience.growth σ).Keeps (dispatch values)) (op : Op η) :
    (Audience.growth σ).Keeps (op.perform dispatch) :=
  op.perform_keeps hdispatch
    (fun observer => Audience.growth_onRegistry fun _ h => h.register observer)
    (fun id => Audience.growth_onRegistry fun _ h => h.unregister id)
    (fun observer => Audience.growth_onRegistry fun _ h => h.unregisterObserver observer)
    (Audience.growth_onRegistry fun _ h => h.clear)

end Registry

end Workbench
