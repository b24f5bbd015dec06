import Workbench.Observer.Audience

/-!
# How steps behave in a world with an audience

Steps may lack a result, and what an observer does is any tree of actions; so facts about them are
carried through by induction over reactions and over the turns of an event, once and for all here.

* `Act.Manner` is an invariant together with a relation between the worlds before and after. A step
  *keeps to* a manner if, whenever it has a result, the invariant holds again and the worlds are
  related (`Manner.Keeps`); it *ends* in it if it has a result in every world that meets the
  invariant (`Manner.Ends`).
* `Act.Simulates` compares steps in two worlds: what the first answers, the second answers too, and
  related worlds stay related.
* Reactions, calls of guests and operations on a registry keep to a manner, end in it and simulate
  each other when the actions do (`react_keeps`, `callGuest_keeps`, `Op.perform_keeps`, and so on).
  Events are treated in `Workbench.Proofs.Observer.Course`.
-/

namespace Workbench

namespace Act

variable {σ τ α β : Type}

/-- Two steps, one after the other. -/
theorem bind_apply (step : Act σ α) (next : α → Act σ β) (w : σ) :
    (step >>= next) w = (step w).bind fun result => next result.1 result.2 := rfl

/-- A look at the world. -/
theorem get_apply (w : σ) : (get : Act σ σ) w = some (w, w) := rfl

/-- A result of two steps, one after the other. -/
theorem bind_eq_some_iff {step : Act σ α} {next : α → Act σ β} {w w' : σ} {b : β} :
    (step >>= next) w = some (b, w') ↔
      ∃ a v, step w = some (a, v) ∧ next a v = some (b, w') := by
  rw [bind_apply, Option.bind_eq_some_iff]
  exact ⟨fun ⟨⟨a, v⟩, h⟩ => ⟨a, v, h⟩, fun ⟨a, v, h⟩ => ⟨(a, v), h⟩⟩

/-! ### Manners -/

/-- An invariant of worlds, and a relation between the worlds before and after a step. -/
structure Manner (σ : Type) where
  inv : σ → Prop
  rel : σ → σ → Prop
  refl : ∀ w, rel w w
  trans : ∀ {u v w}, rel u v → rel v w → rel u w

namespace Manner

variable {manner : Manner σ}

/-- Whenever the step has a result, the invariant holds again and the worlds are related. -/
def Keeps (manner : Manner σ) (step : Act σ α) : Prop :=
  ∀ ⦃w a w'⦄, manner.inv w → step w = some (a, w') → manner.inv w' ∧ manner.rel w w'

/-- The step has a result in every world that meets the invariant. -/
def Ends (manner : Manner σ) (step : Act σ α) : Prop :=
  ∀ ⦃w⦄, manner.inv w → ∃ a w', step w = some (a, w')

/-- An answer alone changes nothing. -/
theorem keeps_pure (a : α) : manner.Keeps (pure a) := by
  intro w b w' hw h
  cases h
  exact ⟨hw, manner.refl w⟩

/-- Two steps that keep to a manner do so one after the other. -/
theorem Keeps.bind {step : Act σ α} {next : α → Act σ β} (hstep : manner.Keeps step)
    (hnext : ∀ a, manner.Keeps (next a)) : manner.Keeps (step >>= next) := by
  intro w b w' hw h
  obtain ⟨a, v, hfirst, hsecond⟩ := bind_eq_some_iff.mp h
  obtain ⟨hv, hwv⟩ := hstep hw hfirst
  obtain ⟨hw', hvw'⟩ := hnext a hv hsecond
  exact ⟨hw', manner.trans hwv hvw'⟩

/-- A step that acts by a function. -/
theorem keeps_of_apply {step : Act σ α} {f : σ → α × σ} (hstep : ∀ w, step w = some (f w))
    (hf : ∀ w, manner.inv w → manner.inv (f w).2 ∧ manner.rel w (f w).2) :
    manner.Keeps step := by
  intro w a w' hw h
  rw [hstep w] at h
  have hresult : f w = (a, w') := Option.some.inj h
  have hafter := hf w hw
  rwa [hresult] at hafter

/-- An answer alone is always there. -/
theorem ends_pure (a : α) : manner.Ends (pure a) :=
  fun w _ => ⟨a, w, rfl⟩

/-- Two steps end one after the other if the first one leaves a world in which the second one ends.
-/
theorem Ends.bind {step : Act σ α} {next : α → Act σ β} (hends : manner.Ends step)
    (hkeeps : manner.Keeps step) (hnext : ∀ a, manner.Ends (next a)) :
    manner.Ends (step >>= next) := by
  intro w hw
  obtain ⟨a, v, hfirst⟩ := hends hw
  obtain ⟨b, w', hsecond⟩ := hnext a (hkeeps hw hfirst).1
  exact ⟨b, w', bind_eq_some_iff.mpr ⟨a, v, hfirst, hsecond⟩⟩

/-- A step that acts by a function always ends. -/
theorem ends_of_apply {step : Act σ α} {f : σ → α × σ} (hstep : ∀ w, step w = some (f w)) :
    manner.Ends step :=
  fun w _ => ⟨(f w).1, (f w).2, hstep w⟩

end Manner

/-! ### Simulation -/

/-- What the first step answers in a world, the second answers in every related world, and the
worlds are related again. -/
def Simulates (S : σ → τ → Prop) (step : Act σ α) (step' : Act τ α) : Prop :=
  ∀ ⦃w v a w'⦄, S w v → step w = some (a, w') → ∃ v', step' v = some (a, v') ∧ S w' v'

/-- An answer alone is the same in related worlds. -/
theorem simulates_pure {S : σ → τ → Prop} (a : α) : Simulates S (pure a) (pure a) := by
  intro w v b w' hS h
  cases h
  exact ⟨v, rfl, hS⟩

/-- Two steps are simulated one after the other. -/
theorem Simulates.bind {S : σ → τ → Prop} {step : Act σ α} {step' : Act τ α}
    {next : α → Act σ β} {next' : α → Act τ β} (hstep : Simulates S step step')
    (hnext : ∀ a, Simulates S (next a) (next' a)) :
    Simulates S (step >>= next) (step' >>= next') := by
  intro w v b w' hS h
  obtain ⟨a, u, hfirst, hsecond⟩ := bind_eq_some_iff.mp h
  obtain ⟨u', hfirst', hu⟩ := hstep hS hfirst
  obtain ⟨v', hsecond', hv'⟩ := hnext a hu hsecond
  exact ⟨v', bind_eq_some_iff.mpr ⟨a, u', hfirst', hsecond'⟩, hv'⟩

end Act

/-! ### Reactions -/

/-- Every action that a reaction can come to is of a kind. -/
def Reaction.Forall {α β : Type} (P : α → Prop) : Reaction α β → Prop
  | .finish _ => True
  | .note _ next => next.Forall P
  | .act action next => P action ∧ ∀ answer, (next answer).Forall P

/-- A kind that includes another. -/
theorem Reaction.Forall.imp {α β : Type} {P Q : α → Prop} (hPQ : ∀ action, P action → Q action)
    {reaction : Reaction α β} (h : reaction.Forall P) : reaction.Forall Q := by
  induction reaction with
  | finish verdict => trivial
  | note text next ih => exact ih h
  | act action next ih => exact ⟨hPQ action h.1, fun answer => ih answer (h.2 answer)⟩

/-- Every action is of some kind. -/
theorem Reaction.forall_true {α β : Type} (reaction : Reaction α β) :
    reaction.Forall fun _ => True := by
  induction reaction with
  | finish verdict => trivial
  | note text next ih => exact ih
  | act action next ih => exact ⟨trivial, ih⟩

namespace Audience

variable {σ τ η α β : Type}

/-- Every action that a guest can come to in its calls from now on is of a kind. -/
def Guest.Obeys (P : α → Prop) (guest : Guest α β) : Prop :=
  ∀ call, guest.calls < call → ∀ values, (guest.behaviour call values).Forall P

/-- Every action that any guest can come to from now on is of a kind. -/
def Obeys (P : α → Prop) (audience : Audience η α β) : Prop :=
  ∀ (number : Nat) (guest : Guest α β), audience.guests[number]? = some guest → guest.Obeys P

/-- Guests may do anything. -/
theorem obeys_true (audience : Audience η α β) : audience.Obeys fun _ => True :=
  fun _ _ _ _ _ _ => Reaction.forall_true _

/-- A kind that includes another. -/
theorem Obeys.imp {P Q : α → Prop} (hPQ : ∀ action, P action → Q action)
    {audience : Audience η α β} (h : audience.Obeys P) : audience.Obeys Q :=
  fun number guest hguest call hcall values => (h number guest hguest call hcall values).imp hPQ

/-- The audience when a guest is called: the call is counted. -/
def called (audience : Audience η α β) (number : Nat) (guest : Guest α β) : Audience η α β :=
  { audience with
    guests := audience.guests.setIfInBounds number { guest with calls := guest.calls + 1 } }

/-- Guests obey as long as nobody but them is called. -/
theorem Obeys.called {P : α → Prop} {audience : Audience η α β} (h : audience.Obeys P)
    {number : Nat} {guest : Guest α β} (hguest : audience.guests[number]? = some guest) :
    (audience.called number guest).Obeys P := by
  intro other guest' hother
  change (audience.guests.setIfInBounds number _)[other]? = some guest' at hother
  rw [Array.getElem?_setIfInBounds] at hother
  split at hother
  · split at hother
    · cases hother
      intro call hcall values
      exact h number guest hguest call (Nat.lt_of_succ_lt hcall) values
    · cases hother
  · exact h other guest' hother

/-- One more guest that obeys. -/
theorem Obeys.push {P : α → Prop} {audience : Audience η α β} (h : audience.Obeys P)
    {behaviour : Behaviour α β} (hbehaviour : ∀ call values, (behaviour call values).Forall P) :
    { audience with guests := audience.guests.push { behaviour := behaviour } }.Obeys P := by
  intro number guest hguest
  change (audience.guests.push _)[number]? = some guest at hguest
  rw [Array.getElem?_push] at hguest
  split at hguest
  · cases hguest
    exact fun call _ values => hbehaviour call values
  · exact h number guest hguest

variable [HasAudience σ η α β] [HasAudience τ η α β]

/-- A call of a guest that there is not. -/
theorem callGuest_of_none (perform : α → Act σ β) (values : List Value) {number : Nat} {w : σ}
    (hguest : (HasAudience.audience w).guests[number]? = none) :
    callGuest perform values number w = some (.accepted, w) := by
  unfold callGuest
  simp only [Act.bind_apply, Act.get_apply, Option.bind_some, hguest]
  rfl

/-- A call of a guest: it is counted, and then the guest reacts. -/
theorem callGuest_of_some (perform : α → Act σ β) (values : List Value) {number : Nat} {w : σ}
    {guest : Guest α β} (hguest : (HasAudience.audience w).guests[number]? = some guest) :
    callGuest perform values number w =
      react perform number (guest.calls + 1) (guest.behaviour (guest.calls + 1) values)
        (HasAudience.withAudience w ((HasAudience.audience w).called number guest)) := by
  unfold callGuest
  simp only [Act.bind_apply, Act.get_apply, Option.bind_some, hguest]
  rfl

/-! ### Reactions and calls keep to a manner -/

section Keeps

variable {manner : Act.Manner σ} {P : α → Prop} {perform : α → Act σ β}

/-- A reaction keeps to a manner if its actions do and taking credit does. -/
theorem react_keeps (hperform : ∀ action, P action → manner.Keeps (perform action))
    (hcredit : ∀ guest call feat, manner.Keeps (credit guest call feat : Act σ Unit))
    (guest call : Nat) (reaction : Reaction α β) (hreaction : reaction.Forall P) :
    manner.Keeps (react perform guest call reaction) := by
  induction reaction with
  | finish verdict => exact Act.Manner.keeps_pure verdict
  | note text next ih => exact (hcredit guest call _).bind fun _ => ih hreaction
  | act action next ih =>
      refine (hperform action hreaction.1).bind fun answer => ?_
      exact (hcredit guest call _).bind fun _ => ih answer (hreaction.2 answer)

/-- A call of a guest keeps to a manner if the actions do that guests can come to. -/
theorem callGuest_keeps (hperform : ∀ action, P action → manner.Keeps (perform action))
    (hcredit : ∀ guest call feat, manner.Keeps (credit guest call feat : Act σ Unit))
    (hobeys : ∀ w, manner.inv w → (HasAudience.audience w).Obeys P)
    (hcalled : ∀ w number guest, manner.inv w →
      (HasAudience.audience w).guests[number]? = some guest →
      manner.inv (HasAudience.withAudience w ((HasAudience.audience w).called number guest)) ∧
        manner.rel w (HasAudience.withAudience w ((HasAudience.audience w).called number guest)))
    (values : List Value) (number : Nat) : manner.Keeps (callGuest perform values number) := by
  intro w verdict w' hw h
  rcases hguest : (HasAudience.audience w).guests[number]? with _ | guest
  · rw [callGuest_of_none perform values hguest] at h
    cases h
    exact ⟨hw, manner.refl w⟩
  · rw [callGuest_of_some perform values hguest] at h
    obtain ⟨hv, hwv⟩ := hcalled w number guest hw hguest
    have hforall := hobeys w hw number guest hguest (guest.calls + 1) (Nat.lt_succ_self _) values
    obtain ⟨hw', hvw'⟩ := react_keeps hperform hcredit number _ _ hforall hv h
    exact ⟨hw', manner.trans hwv hvw'⟩

/-- A reaction ends if its actions do. -/
theorem react_ends (hperform : ∀ action, P action → manner.Keeps (perform action))
    (hends : ∀ action, P action → manner.Ends (perform action))
    (hcredit : ∀ guest call feat, manner.Keeps (credit guest call feat : Act σ Unit))
    (guest call : Nat) (reaction : Reaction α β) (hreaction : reaction.Forall P) :
    manner.Ends (react perform guest call reaction) := by
  have hcreditEnds : ∀ feat, manner.Ends (credit guest call feat : Act σ Unit) :=
    fun feat => Act.Manner.ends_of_apply fun w => rfl
  induction reaction with
  | finish verdict => exact Act.Manner.ends_pure verdict
  | note text next ih => exact (hcreditEnds _).bind (hcredit guest call _) fun _ => ih hreaction
  | act action next ih =>
      refine (hends action hreaction.1).bind (hperform action hreaction.1) fun answer => ?_
      exact (hcreditEnds _).bind (hcredit guest call _) fun _ => ih answer (hreaction.2 answer)

/-- A call of a guest ends if the actions do that guests can come to. -/
theorem callGuest_ends (hperform : ∀ action, P action → manner.Keeps (perform action))
    (hends : ∀ action, P action → manner.Ends (perform action))
    (hcredit : ∀ guest call feat, manner.Keeps (credit guest call feat : Act σ Unit))
    (hobeys : ∀ w, manner.inv w → (HasAudience.audience w).Obeys P)
    (hcalled : ∀ w number guest, manner.inv w →
      (HasAudience.audience w).guests[number]? = some guest →
      manner.inv (HasAudience.withAudience w ((HasAudience.audience w).called number guest)))
    (values : List Value) (number : Nat) : manner.Ends (callGuest perform values number) := by
  intro w hw
  rcases hguest : (HasAudience.audience w).guests[number]? with _ | guest
  · exact ⟨_, _, callGuest_of_none perform values hguest⟩
  · rw [callGuest_of_some perform values hguest]
    have hforall := hobeys w hw number guest hguest (guest.calls + 1) (Nat.lt_succ_self _) values
    exact react_ends hperform hends hcredit number _ _ hforall (hcalled w number guest hw hguest)

end Keeps

/-! ### Reactions and calls simulate each other -/

/-- Related worlds have the same audience, and stay related when it is changed in both. -/
structure Matches (S : σ → τ → Prop) : Prop where
  audience_eq : ∀ {w v}, S w v → HasAudience.audience w = HasAudience.audience v
  withAudience : ∀ {w v} (audience : Audience η α β), S w v →
    S (HasAudience.withAudience w audience) (HasAudience.withAudience v audience)

section Simulates

variable {S : σ → τ → Prop} {perform : α → Act σ β} {perform' : α → Act τ β}

/-- A change of the audience. -/
theorem Matches.update (hS : Matches S) (f : Audience η α β → Audience η α β) :
    Act.Simulates S (update f : Act σ Unit) (update f : Act τ Unit) := by
  intro w v u w' h hw
  cases hw
  refine ⟨HasAudience.withAudience v (f (HasAudience.audience v)), rfl, ?_⟩
  change S (HasAudience.withAudience w (f (HasAudience.audience w))) _
  rw [hS.audience_eq h]
  exact hS.withAudience _ h

/-- A look at the registry. -/
theorem Matches.registryNow (hS : Matches S) :
    Act.Simulates S (registryNow : Act σ (Registry η)) (registryNow : Act τ (Registry η)) := by
  intro w v registry w' h hw
  cases hw
  refine ⟨v, ?_, h⟩
  change some ((HasAudience.audience v).registry, v) = some ((HasAudience.audience w).registry, v)
  rw [hS.audience_eq h]

/-- An operation of the registry that has an answer. -/
theorem Matches.onRegistry {γ : Type} (hS : Matches S) (f : Registry η → γ × Registry η) :
    Act.Simulates S (onRegistry f : Act σ γ) (onRegistry f : Act τ γ) :=
  hS.registryNow.bind fun _ => (hS.update _).bind fun _ => Act.simulates_pure _

/-- Reactions simulate each other if their actions do. -/
theorem Matches.react (hS : Matches S)
    (hperform : ∀ action, Act.Simulates S (perform action) (perform' action))
    (guest call : Nat) (reaction : Reaction α β) :
    Act.Simulates S (react perform guest call reaction) (react perform' guest call reaction) := by
  induction reaction with
  | finish verdict => exact Act.simulates_pure verdict
  | note text next ih => exact (hS.update _).bind fun _ => ih
  | act action next ih =>
      exact (hperform action).bind fun answer => (hS.update _).bind fun _ => ih answer

/-- Calls of guests simulate each other if the actions do. -/
theorem Matches.callGuest (hS : Matches S)
    (hperform : ∀ action, Act.Simulates S (perform action) (perform' action))
    (values : List Value) (number : Nat) :
    Act.Simulates S (callGuest perform values number) (callGuest perform' values number) := by
  intro w v verdict w' h hw
  have haudience := hS.audience_eq h
  rcases hguest : (HasAudience.audience w).guests[number]? with _ | guest
  · rw [callGuest_of_none perform values hguest] at hw
    rw [haudience] at hguest
    cases hw
    exact ⟨v, callGuest_of_none perform' values hguest, h⟩
  · rw [callGuest_of_some perform values hguest, haudience] at hw
    rw [haudience] at hguest
    rw [callGuest_of_some perform' values hguest]
    exact hS.react hperform number _ _ (hS.withAudience _ h) hw

end Simulates

end Audience

/-! ### Operations on a registry -/

namespace Registry

variable {σ τ η α β : Type} [DecidableEq η] [HasAudience σ η α β] [HasAudience τ η α β]

/-- Operations simulate each other if dispatching an event does. -/
theorem Op.perform_simulates {S : σ → τ → Prop} (hS : Audience.Matches S)
    {dispatch : List Value → Act σ Report} {dispatch' : List Value → Act τ Report}
    (hdispatch : ∀ values, Act.Simulates S (dispatch values) (dispatch' values)) (op : Op η) :
    Act.Simulates S (op.perform dispatch) (op.perform dispatch') := by
  cases op with
  | register observer => exact (hS.onRegistry _).bind fun _ => Act.simulates_pure _
  | unregister id => exact (hS.onRegistry _).bind fun _ => Act.simulates_pure _
  | unregisterObserver observer => exact (hS.onRegistry _).bind fun _ => Act.simulates_pure _
  | contains id => exact hS.registryNow.bind fun _ => Act.simulates_pure _
  | clear => exact (hS.onRegistry _).bind fun _ => Act.simulates_pure _
  | dispatch values => exact (hdispatch values).bind fun _ => Act.simulates_pure _
  | print values => exact (hdispatch values).bind fun _ => Act.simulates_pure _
  | debug => exact hS.registryNow.bind fun _ => Act.simulates_pure _

end Registry

end Workbench
