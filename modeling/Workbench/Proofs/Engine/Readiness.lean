import Workbench.Engine.Host

/-!
# The readiness of an engine, over every interleaving of requests

A *move* is whatever can happen to a host: a request is made, any request is looked at, any request
is dropped, or the host is shut down (`Host.Move`). A run is any list of moves from a new host, for
any engine, so that a setup may stay pending as long as it likes and then succeed, fail or crash.

The status is written by whoever settles an attempt, who looks at nothing but whether the host was
shut down. What makes this safe is a fact about all requests together: at most one of them owns an
attempt. `Host.Orderly` is that fact, with what it needs to be kept by every move; it relates a host
to the list of the endings of its attempts so far (`Host.Ending`), which is a record of the run and
not part of the host. What a look at a request and the end of a request come to is said once
(`lookCase`, `dropCase`); `Orderly.move` is the step and `orderly_run` the run.

**Theorem** (`run_readiness`): the invariant of the status, that no status is left which should not
be, and how often a setup is started.
-/

namespace Workbench.Engine

/-- Whether a request owns an attempt. -/
def Request.isOwner : Request → Bool
  | .owner _ => true
  | .asked | .waiting | .closed => false

namespace Host

/-! ### Moves and runs -/

/-- What can happen to a host. -/
inductive Move where
  /-- One more request. -/
  | ask
  | look (number : Nat)
  | drop (number : Nat)
  | shutDown

/-- The host after a move. -/
def move (engine : Engine) (host : Host) : Move → Host
  | .ask => host.ask.2
  | .look number => (host.look engine number).2
  | .drop number => (host.drop number).2
  | .shutDown => host.shutDown

/-- A new host after some moves. -/
def run (engine : Engine) (moves : List Move) : Host :=
  moves.foldl (move engine) {}

/-- How many requests own an attempt. -/
def owners (host : Host) : Nat := host.requests.countP Request.isOwner

/-- How an attempt can end. -/
inductive Ending where
  | succeeded
  /-- The setup failed or crashed. -/
  | failed (error : InitError)
  /-- The request that owned it was dropped. -/
  | dropped
  deriving DecidableEq

/-- How a setup ends an attempt, when it is looked at. -/
def Ending.ofSetup? : Setup → Option Ending
  | ⟨0, .ok ()⟩ => some .succeeded
  | ⟨0, .error error⟩ => some (.failed error)
  | ⟨_ + 1, _⟩ => none

/-- The ending of an attempt that a move brings about, if it brings one about. A look at a request
moves the attempt along that the request owns, or starts and owns from then on. -/
def ending? (engine : Engine) (host : Host) : Move → Option Ending
  | .look number =>
      match host.requests[number]? with
      | some (.owner setup) => Ending.ofSetup? setup
      | some .asked =>
          if mayStart host.status then Ending.ofSetup? (engine.setup host.attempts) else none
      | _ => none
  | .drop number =>
      match host.requests[number]? with
      | some (.owner _) => some .dropped
      | _ => none
  | .ask | .shutDown => none

/-- The endings of attempts in a run from a host, in order. -/
def endingsFrom (engine : Engine) (host : Host) : List Move → List Ending
  | [] => []
  | next :: rest =>
      (host.ending? engine next).toList ++ endingsFrom engine (host.move engine next) rest

/-- The endings of attempts in a run of a new host, in order. -/
def endings (engine : Engine) (moves : List Move) : List Ending := endingsFrom engine {} moves

/-! ### The invariant -/

/-- What is true of a host between any two moves, given how its attempts have ended so far. -/
structure Orderly (host : Host) (endings : List Ending) : Prop where
  /-- An attempt that is in progress has an owner. -/
  owned : host.status = .initializing → host.owners = 1
  /-- An owner's attempt is in progress, unless the host was shut down. -/
  owner : 0 < host.owners → host.status = .initializing ∨ host.status = .shutDown
  /-- Every attempt that was started has ended or has an owner. -/
  attempts : host.attempts = endings.length + host.owners
  /-- No attempt is started after one that has succeeded, nor is there a second owner. -/
  once : endings.count .succeeded + host.owners ≤ 1
  ready : host.status = .ready → .succeeded ∈ endings
  succeeded : .succeeded ∈ endings → host.status = .ready ∨ host.status = .shutDown

/-- A new host is orderly. -/
theorem orderly_new : Orderly {} [] where
  owned h := by cases h
  owner h := by cases h
  attempts := rfl
  once := Nat.zero_le 1
  ready h := by cases h
  succeeded h := by cases h

/-- Only the status, the number of attempts and the number of owners matter. -/
theorem Orderly.congr {host host' : Host} {endings : List Ending} (h : Orderly host endings)
    (hstatus : host'.status = host.status) (hattempts : host'.attempts = host.attempts)
    (howners : host'.owners = host.owners) : Orderly host' endings := by
  constructor
  · rw [hstatus, howners]; exact h.owned
  · rw [hstatus, howners]; exact h.owner
  · rw [hattempts, howners]; exact h.attempts
  · rw [howners]; exact h.once
  · rw [hstatus]; exact h.ready
  · rw [hstatus]; exact h.succeeded

/-- The owners when the state of one request changes. -/
theorem owners_withRequest {host : Host} {number : Nat} {old : Request} (new : Request)
    (h : host.requests[number]? = some old) :
    (host.withRequest number new).owners + old.isOwner.toNat = host.owners + new.isOwner.toNat := by
  obtain ⟨hlt, hget⟩ := List.getElem?_eq_some_iff.mp h
  have hpos : old.isOwner = true → 0 < host.owners := by
    intro hold
    exact List.countP_pos_iff.mpr ⟨old, List.mem_of_getElem? h, hold⟩
  have hset := List.countP_set (p := Request.isOwner) (a := new) hlt
  rw [hget] at hset
  unfold owners withRequest
  unfold owners at hpos
  rw [hset]
  cases hold : old.isOwner <;> cases hnew : new.isOwner <;> simp_all

/-- The owners when one request changes that owns nothing before or after. -/
theorem owners_withRequest_of_not_owner {host : Host} {number : Nat} {old new : Request}
    (h : host.requests[number]? = some old) (hold : old.isOwner = false)
    (hnew : new.isOwner = false) : (host.withRequest number new).owners = host.owners := by
  have howners := owners_withRequest new h
  rw [hold, hnew] at howners
  exact howners

/-! ### What can be done with a request -/

/-- Whether a look at a request is an owner's: the request owns an attempt, or starts one. -/
def owns (host : Host) (number : Nat) : Bool :=
  match host.requests[number]? with
  | some (.owner _) => true
  | some .asked => mayStart host.status
  | _ => false

/-- Whether a look at a request is a look at the status: the request waits, or begins to. -/
def waits (host : Host) (number : Nat) : Bool :=
  match host.requests[number]? with
  | some .waiting => true
  | some .asked => !mayStart host.status
  | _ => false

/-- The host with one more attempt, which is in progress. -/
def started (host : Host) : Host :=
  { host with status := .initializing, attempts := host.attempts + 1 }

/-- The host in which a request owns the attempt that a look at it starts, if it starts one. -/
def claimed (engine : Engine) (host : Host) (number : Nat) : Host :=
  match host.requests[number]? with
  | some .asked =>
      if mayStart host.status then
        host.started.withRequest number (.owner (engine.setup host.attempts))
      else host
  | _ => host

/-- A request that is there has the state that it is given. -/
theorem getElem?_withRequest (host : Host) {number : Nat} {old : Request} (new : Request)
    (h : host.requests[number]? = some old) :
    (host.withRequest number new).requests[number]? = some new := by
  obtain ⟨hlt, -⟩ := List.getElem?_eq_some_iff.mp h
  exact List.getElem?_set_self hlt

/-- The owner's look does not depend on what the request was before. -/
theorem lookOwner_withRequest (host : Host) (number : Nat) (request : Request) (setup : Setup) :
    (host.withRequest number request).lookOwner number setup = host.lookOwner number setup := by
  unfold Host.lookOwner withRequest
  split <;> simp only [List.set_set]

/-- A look at a request that starts an attempt is a look at its owner. -/
theorem look_of_mayStart (engine : Engine) {host : Host} {number : Nat}
    (hrequest : host.requests[number]? = some .asked) (hstart : mayStart host.status = true) :
    host.look engine number = host.started.lookOwner number (engine.setup host.attempts) := by
  simp only [look, hrequest, hstart, if_true]
  rfl

/-- What a look at a request comes to. -/
inductive LookCase (engine : Engine) (host : Host) (number : Nat) : Prop where
  | owner (setup : Setup) (howns : host.owns number = true)
      (hrequest : (host.claimed engine number).requests[number]? = some (.owner setup))
      (hending : host.ending? engine (.look number) = Ending.ofSetup? setup)
      (hlook : host.look engine number = (host.claimed engine number).lookOwner number setup)
  | waits (howns : host.owns number = false) (hwaits : host.waits number = true)
      (hending : host.ending? engine (.look number) = none)
      (hlook : host.look engine number = host.lookWaiting number)
  | closed (hending : host.ending? engine (.look number) = none)
      (hlook : host.look engine number = (.closed, host))

/-- **Every look** is one at an owner's request, at one that waits or at one that is closed. -/
theorem lookCase (engine : Engine) (host : Host) (number : Nat) : LookCase engine host number := by
  rcases hrequest : host.requests[number]? with _ | request
  · exact .closed (by simp only [ending?, hrequest]) (by simp only [look, hrequest])
  · cases request with
    | asked =>
        cases hstart : mayStart host.status with
        | true =>
            have hclaimed : host.claimed engine number =
                host.started.withRequest number (.owner (engine.setup host.attempts)) := by
              simp only [claimed, hrequest, hstart, if_true]
            refine .owner (engine.setup host.attempts) ?_ ?_ ?_ ?_
            · simp only [owns, hrequest, hstart]
            · rw [hclaimed]
              exact host.started.getElem?_withRequest _ hrequest
            · simp only [ending?, hrequest, hstart, if_true]
            · rw [hclaimed, lookOwner_withRequest, look_of_mayStart engine hrequest hstart]
        | false =>
            refine .waits ?_ ?_ ?_ ?_
            · simp only [owns, hrequest, hstart]
            · simp only [waits, hrequest, hstart, Bool.not_false]
            · simp only [ending?, hrequest, hstart, Bool.false_eq_true, if_false]
            · simp only [look, hrequest, hstart, Bool.false_eq_true, if_false]
    | owner setup =>
        have hclaimed : host.claimed engine number = host := by simp only [claimed, hrequest]
        refine .owner setup ?_ ?_ ?_ ?_
        · simp only [owns, hrequest]
        · rw [hclaimed, hrequest]
        · simp only [ending?, hrequest]
        · rw [hclaimed]
          simp only [look, hrequest]
    | waiting =>
        refine .waits ?_ ?_ ?_ ?_
        · simp only [owns, hrequest]
        · simp only [waits, hrequest]
        · simp only [ending?, hrequest]
        · simp only [look, hrequest]
    | closed => exact .closed (by simp only [ending?, hrequest]) (by simp only [look, hrequest])

/-- An attempt is claimed only for a request that is looked at for the first time, and only where one
may be started. -/
theorem claimed_cases (engine : Engine) (host : Host) (number : Nat) :
    host.claimed engine number = host ∨
      host.requests[number]? = some .asked ∧ mayStart host.status = true ∧
        host.claimed engine number =
          host.started.withRequest number (.owner (engine.setup host.attempts)) := by
  unfold claimed
  split
  · rename_i hrequest
    split
    · rename_i hstart
      exact Or.inr ⟨hrequest, hstart, rfl⟩
    · exact Or.inl rfl
  · exact Or.inl rfl

/-- A request that waits is there and owns nothing. -/
theorem exists_of_waits {host : Host} {number : Nat} (h : host.waits number = true) :
    ∃ request, host.requests[number]? = some request ∧ request.isOwner = false := by
  unfold waits at h
  split at h
  · exact ⟨.waiting, by assumption, rfl⟩
  · exact ⟨.asked, by assumption, rfl⟩
  · cases h

/-- What the end of a request comes to. -/
inductive DropCase (engine : Engine) (host : Host) (number : Nat) : Prop where
  | owner (setup : Setup) (hrequest : host.requests[number]? = some (.owner setup))
      (hending : host.ending? engine (.drop number) = some .dropped)
      (hdrop : (host.drop number).2 =
        { host with status := settled host.status (.failed "initialization cancelled") }.withRequest
          number .closed)
  | idle (request : Request) (hrequest : host.requests[number]? = some request)
      (hnot : request.isOwner = false) (hending : host.ending? engine (.drop number) = none)
      (hdrop : (host.drop number).2 = host.withRequest number .closed)
  | closed (hending : host.ending? engine (.drop number) = none)
      (hdrop : (host.drop number).2 = host)

/-- **Every end of a request** ends the attempt that it owns, or closes it, or finds it closed. -/
theorem dropCase (engine : Engine) (host : Host) (number : Nat) : DropCase engine host number := by
  rcases hrequest : host.requests[number]? with _ | request
  · exact .closed (by simp only [ending?, hrequest]) (by simp only [drop, hrequest])
  · cases request with
    | owner setup =>
        exact .owner setup hrequest (by simp only [ending?, hrequest])
          (by simp only [drop, hrequest])
    | asked =>
        exact .idle .asked hrequest rfl (by simp only [ending?, hrequest])
          (by simp only [drop, hrequest])
    | waiting =>
        exact .idle .waiting hrequest rfl (by simp only [ending?, hrequest])
          (by simp only [drop, hrequest])
    | closed => exact .closed (by simp only [ending?, hrequest]) (by simp only [drop, hrequest])

/-! ### What a move keeps -/

/-- An attempt that settles leaves its outcome, or a host that was shut down. -/
theorem settled_cases (status outcome : Status) :
    settled status outcome = outcome ∨ settled status outcome = .shutDown := by
  unfold settled
  split
  · exact Or.inr rfl
  · exact Or.inl rfl

/-- The end of an attempt: its owner is done, and the status is settled as the ending says. -/
theorem Orderly.settle {host : Host} {endings : List Ending} (h : Orderly host endings)
    {number : Nat} {setup : Setup} (hrequest : host.requests[number]? = some (.owner setup))
    {outcome : Status} {ending : Ending}
    (houtcome : (outcome = .ready ∧ ending = .succeeded) ∨
      ((∃ reason, outcome = .failed reason) ∧ ending ≠ .succeeded)) :
    Orderly ({ host with status := settled host.status outcome }.withRequest number .closed)
      (endings ++ [ending]) := by
  have howners : (host.withRequest number .closed).owners + 1 = host.owners :=
    owners_withRequest .closed hrequest
  have hone : host.owners = 1 := by
    have := h.once
    omega
  have hnone : (host.withRequest number .closed).owners = 0 := by omega
  have hfresh : .succeeded ∉ endings := by
    intro hmem
    have := List.count_pos_iff.mpr hmem
    have := h.once
    omega
  have hattempts := h.attempts
  constructor
  · intro hstatus
    exfalso
    change settled host.status outcome = .initializing at hstatus
    rcases settled_cases host.status outcome with hsettled | hsettled <;> rw [hsettled] at hstatus
    · rcases houtcome with ⟨rfl, -⟩ | ⟨⟨reason, rfl⟩, -⟩ <;> cases hstatus
    · cases hstatus
  · intro hpos
    exact absurd hnone (Nat.ne_of_gt hpos)
  · change host.attempts = (endings ++ [ending]).length + (host.withRequest number .closed).owners
    rw [hnone, List.length_append, List.length_singleton]
    omega
  · change (endings ++ [ending]).count .succeeded + (host.withRequest number .closed).owners ≤ 1
    rw [hnone, List.count_append, List.count_eq_zero_of_not_mem hfresh]
    have := List.count_le_length (a := Ending.succeeded) (l := [ending])
    simpa using this
  · intro hstatus
    change settled host.status outcome = .ready at hstatus
    rcases settled_cases host.status outcome with hsettled | hsettled <;> rw [hsettled] at hstatus
    · rcases houtcome with ⟨-, rfl⟩ | ⟨⟨reason, rfl⟩, -⟩
      · exact List.mem_append_right _ (List.mem_singleton.mpr rfl)
      · cases hstatus
    · cases hstatus
  · intro hmem
    have hlast : ending = .succeeded := by
      rcases List.mem_append.mp hmem with hold | hnew
      · exact absurd hold hfresh
      · exact (List.mem_singleton.mp hnew).symm
    rcases houtcome with ⟨rfl, -⟩ | ⟨-, hne⟩
    · exact settled_cases host.status .ready
    · exact absurd hlast hne

/-- A look at the request that owns the attempt. -/
theorem Orderly.lookOwner {host : Host} {endings : List Ending} (h : Orderly host endings)
    {number : Nat} {setup : Setup} (hrequest : host.requests[number]? = some (.owner setup)) :
    Orderly (host.lookOwner number setup).2 (endings ++ (Ending.ofSetup? setup).toList) := by
  obtain ⟨delay, result⟩ := setup
  cases delay with
  | succ delay =>
      have howners := owners_withRequest (.owner ⟨delay, result⟩) hrequest
      simp only [Ending.ofSetup?, Option.toList_none, List.append_nil]
      exact h.congr rfl rfl (Nat.add_right_cancel howners)
  | zero =>
      cases result with
      | ok done => exact h.settle hrequest (Or.inl ⟨rfl, rfl⟩)
      | error error =>
          exact h.settle hrequest (Or.inr ⟨⟨error.message, rfl⟩, fun heq => by cases heq⟩)

/-- A request that starts an attempt owns it. -/
theorem Orderly.start {host : Host} {endings : List Ending} (h : Orderly host endings)
    {number : Nat} (hrequest : host.requests[number]? = some .asked)
    (hstart : mayStart host.status = true) (setup : Setup) :
    Orderly (host.started.withRequest number (.owner setup)) endings := by
  have hfree : host.owners = 0 := by
    rcases Nat.eq_zero_or_pos host.owners with hzero | hpos
    · exact hzero
    · rcases h.owner hpos with hstatus | hstatus <;> rw [hstatus] at hstart <;> cases hstart
  have howners : (host.withRequest number (.owner setup)).owners = host.owners + 1 :=
    owners_withRequest (.owner setup) hrequest
  have hfresh : .succeeded ∉ endings := by
    intro hmem
    rcases h.succeeded hmem with hstatus | hstatus <;> rw [hstatus] at hstart <;> cases hstart
  have hattempts := h.attempts
  constructor
  · intro _
    change (host.withRequest number (.owner setup)).owners = 1
    omega
  · intro _
    exact Or.inl rfl
  · change host.attempts + 1 = endings.length + (host.withRequest number (.owner setup)).owners
    omega
  · change endings.count .succeeded + (host.withRequest number (.owner setup)).owners ≤ 1
    rw [List.count_eq_zero_of_not_mem hfresh]
    omega
  · intro hstatus
    cases hstatus
  · intro hmem
    exact absurd hmem hfresh

/-- A look at a request that waits changes neither the status nor the owners. -/
theorem Orderly.lookWaiting {host : Host} {endings : List Ending} (h : Orderly host endings)
    {number : Nat} {request : Request} (hrequest : host.requests[number]? = some request)
    (hnot : request.isOwner = false) : Orderly (host.lookWaiting number).2 endings := by
  unfold Host.lookWaiting
  split
  · exact h.congr rfl rfl (owners_withRequest_of_not_owner hrequest hnot rfl)
  · exact h.congr rfl rfl (owners_withRequest_of_not_owner hrequest hnot rfl)

/-- A host in which an attempt is claimed is orderly. -/
theorem Orderly.claimed {host : Host} {endings : List Ending} (h : Orderly host endings)
    (engine : Engine) (number : Nat) : Orderly (host.claimed engine number) endings := by
  rcases host.claimed_cases engine number with hsame | ⟨hrequest, hstart, hclaimed⟩
  · rw [hsame]
    exact h
  · rw [hclaimed]
    exact h.start hrequest hstart _

/-- A look at any request. -/
theorem Orderly.look {host : Host} {endings : List Ending} (h : Orderly host endings)
    (engine : Engine) (number : Nat) :
    Orderly (host.look engine number).2
      (endings ++ (host.ending? engine (.look number)).toList) := by
  cases host.lookCase engine number with
  | owner setup _ hrequest hending hlook =>
      rw [hending, hlook]
      exact (h.claimed engine number).lookOwner hrequest
  | waits _ hwaits hending hlook =>
      rw [hending, hlook, Option.toList_none, List.append_nil]
      obtain ⟨request, hrequest, hnot⟩ := exists_of_waits hwaits
      exact h.lookWaiting hrequest hnot
  | closed hending hlook =>
      rw [hending, hlook, Option.toList_none, List.append_nil]
      exact h

/-- The end of any request. -/
theorem Orderly.drop {host : Host} {endings : List Ending} (h : Orderly host endings)
    (engine : Engine) (number : Nat) :
    Orderly (host.drop number).2 (endings ++ (host.ending? engine (.drop number)).toList) := by
  cases host.dropCase engine number with
  | owner setup hrequest hending hdrop =>
      rw [hending, hdrop]
      exact h.settle hrequest (Or.inr ⟨⟨_, rfl⟩, nofun⟩)
  | idle request hrequest hnot hending hdrop =>
      rw [hending, hdrop, Option.toList_none, List.append_nil]
      exact h.congr rfl rfl (owners_withRequest_of_not_owner hrequest hnot rfl)
  | closed hending hdrop =>
      rw [hending, hdrop, Option.toList_none, List.append_nil]
      exact h

/-- **What a move keeps**: a host stays orderly, with the ending that the move brings about. -/
theorem Orderly.move {host : Host} {endings : List Ending} (h : Orderly host endings)
    (engine : Engine) (next : Move) :
    Orderly (host.move engine next) (endings ++ (host.ending? engine next).toList) := by
  cases next with
  | ask =>
      have howners : host.ask.2.owners = host.owners := by simp [ask, owners, Request.isOwner]
      simp only [ending?, Option.toList_none, List.append_nil]
      exact h.congr rfl rfl howners
  | look number => exact h.look engine number
  | drop number => exact h.drop engine number
  | shutDown =>
      simp only [ending?, Option.toList_none, List.append_nil]
      constructor
      · intro hstatus
        cases hstatus
      · intro _
        exact Or.inr rfl
      · exact h.attempts
      · exact h.once
      · intro hstatus
        cases hstatus
      · intro _
        exact Or.inr rfl

/-- **What a run keeps.** -/
theorem Orderly.moves {host : Host} {endings : List Ending} (h : Orderly host endings)
    (engine : Engine) (moves : List Move) :
    Orderly (moves.foldl (Host.move engine) host) (endings ++ endingsFrom engine host moves) := by
  induction moves generalizing host endings with
  | nil =>
      rw [endingsFrom, List.append_nil]
      exact h
  | cons next rest ih =>
      have hrest := ih (h.move engine next)
      rwa [List.append_assoc] at hrest

/-- A new host is orderly after every run. -/
theorem orderly_run (engine : Engine) (moves : List Move) :
    Orderly (run engine moves) (endings engine moves) :=
  orderly_new.moves engine moves

/-! ### How the status moves -/

/-- A status that an attempt can end in. -/
def IsOutcome (status : Status) : Prop := status = .ready ∨ ∃ reason, status = .failed reason

/-- Where an attempt settles: an outcome, unless the host was shut down. -/
theorem settled_initializing (outcome : Status) : settled .initializing outcome = outcome := rfl

/-- Shutting down wins. -/
theorem settled_shutDown (outcome : Status) : settled .shutDown outcome = .shutDown := rfl

/-- What a look at an owner's request does to the status: nothing, or the attempt settles. -/
theorem status_lookOwner (host : Host) (number : Nat) (setup : Setup) :
    (host.lookOwner number setup).2.status = host.status ∨
      ∃ outcome, IsOutcome outcome ∧
        (host.lookOwner number setup).2.status = settled host.status outcome := by
  obtain ⟨delay, result⟩ := setup
  cases delay with
  | succ delay => exact Or.inl rfl
  | zero =>
      cases result with
      | ok done => exact Or.inr ⟨.ready, Or.inl rfl, rfl⟩
      | error error => exact Or.inr ⟨.failed error.message, Or.inr ⟨_, rfl⟩, rfl⟩

/-- Waiting leaves the status as it is. -/
theorem status_lookWaiting (host : Host) (number : Nat) :
    (host.lookWaiting number).2.status = host.status := by
  unfold Host.lookWaiting
  split <;> rfl

/-- What a move can do to the status: nothing, start an attempt (which may settle at once), settle
the attempt in progress, or shut the host down. -/
inductive StatusMove (next : Move) : Status → Status → Prop where
  | stays (status : Status) : StatusMove next status status
  | starts {status status' : Status} (hstart : mayStart status = true)
      (hafter : status' = .initializing ∨ IsOutcome status') : StatusMove next status status'
  | settles {status' : Status} (hafter : IsOutcome status') :
      StatusMove next .initializing status'
  | shutsDown (status : Status) (hnext : next = .shutDown) : StatusMove next status .shutDown

/-- An owner that is done settles the attempt in progress, if the host was not shut down. -/
theorem Orderly.statusMove_settled {host : Host} {endings : List Ending} (h : Orderly host endings)
    {number : Nat} {setup : Setup} (hrequest : host.requests[number]? = some (.owner setup))
    (next : Move) {outcome : Status} (houtcome : IsOutcome outcome) :
    StatusMove next host.status (settled host.status outcome) := by
  have hpos : 0 < host.owners :=
    List.countP_pos_iff.mpr ⟨.owner setup, List.mem_of_getElem? hrequest, rfl⟩
  rcases h.owner hpos with hstatus | hstatus
  · rw [hstatus, settled_initializing]
    exact .settles houtcome
  · rw [hstatus, settled_shutDown]
    exact .stays _

/-- **What a move does to the status** of an orderly host. -/
theorem Orderly.statusMove {host : Host} {endings : List Ending} (h : Orderly host endings)
    (engine : Engine) (next : Move) :
    StatusMove next host.status (host.move engine next).status := by
  cases next with
  | ask => exact .stays _
  | look number =>
      change StatusMove _ host.status (host.look engine number).2.status
      cases host.lookCase engine number with
      | owner setup _ hrequest _ hlook =>
          rw [hlook]
          rcases host.claimed_cases engine number with hsame | ⟨-, hstart, hclaimed⟩
          · rw [hsame] at hrequest ⊢
            rcases host.status_lookOwner number setup with hkept | ⟨outcome, houtcome, hsettled⟩
            · rw [hkept]
              exact .stays _
            · rw [hsettled]
              exact h.statusMove_settled hrequest _ houtcome
          · rw [hclaimed, lookOwner_withRequest]
            rcases host.started.status_lookOwner number setup with
              hkept | ⟨outcome, houtcome, hsettled⟩
            · exact .starts hstart (Or.inl hkept)
            · refine .starts hstart (Or.inr ?_)
              rw [hsettled]
              exact houtcome
      | waits _ _ _ hlook =>
          rw [hlook, status_lookWaiting]
          exact .stays _
      | closed _ hlook =>
          rw [hlook]
          exact .stays _
  | drop number =>
      change StatusMove _ host.status (host.drop number).2.status
      cases host.dropCase engine number with
      | owner setup hrequest _ hdrop =>
          rw [hdrop]
          exact h.statusMove_settled hrequest _ (Or.inr ⟨_, rfl⟩)
      | idle request _ _ _ hdrop =>
          rw [hdrop]
          exact .stays _
      | closed _ hdrop =>
          rw [hdrop]
          exact .stays _
  | shutDown => exact .shutsDown _ rfl

namespace StatusMove

variable {next : Move} {status status' : Status}

/-- Nothing leads back to the first status. -/
theorem eq_of_uninitialized (h : StatusMove next status .uninitialized) :
    status = .uninitialized := by
  cases h with
  | stays => rfl
  | starts _ hafter => rcases hafter with hafter | hafter | ⟨reason, hafter⟩ <;> cases hafter
  | settles hafter => rcases hafter with hafter | ⟨reason, hafter⟩ <;> cases hafter

/-- Ready is left by shutting down only. -/
theorem of_ready (h : StatusMove next .ready status') :
    status' = .ready ∨ (next = .shutDown ∧ status' = .shutDown) := by
  cases h with
  | stays => exact Or.inl rfl
  | starts hstart _ => cases hstart
  | shutsDown _ hnext => exact Or.inr ⟨hnext, rfl⟩

/-- Shutting down is final. -/
theorem of_shutDown (h : StatusMove next .shutDown status') : status' = .shutDown := by
  cases h with
  | stays => rfl
  | starts hstart _ => cases hstart
  | shutsDown _ _ => rfl

/-- Only shutting down leads to the last status. -/
theorem eq_of_ne_shutDown (h : StatusMove next status .shutDown) (hne : status ≠ .shutDown) :
    next = .shutDown := by
  cases h with
  | stays => exact absurd rfl hne
  | starts _ hafter => rcases hafter with hafter | hafter | ⟨reason, hafter⟩ <;> cases hafter
  | settles hafter => rcases hafter with hafter | ⟨reason, hafter⟩ <;> cases hafter
  | shutsDown _ hnext => exact hnext

end StatusMove

/-- A host is shut down exactly when it was before a run or the run does it. -/
theorem Orderly.shutDown_iff {host : Host} {endings : List Ending} (h : Orderly host endings)
    (engine : Engine) (moves : List Move) :
    (moves.foldl (Host.move engine) host).status = .shutDown ↔
      host.status = .shutDown ∨ .shutDown ∈ moves := by
  induction moves generalizing host endings with
  | nil => simp
  | cons next rest ih =>
      have hmove := h.statusMove engine next
      rw [List.foldl_cons, ih (h.move engine next), List.mem_cons]
      constructor
      · rintro (hnow | hlater)
        · rw [hnow] at hmove
          by_cases hbefore : host.status = .shutDown
          · exact Or.inl hbefore
          · exact Or.inr (Or.inl (hmove.eq_of_ne_shutDown hbefore).symm)
        · exact Or.inr (Or.inr hlater)
      · rintro (hbefore | hnow | hlater)
        · rw [hbefore] at hmove
          exact Or.inl hmove.of_shutDown
        · rw [← hnow]
          exact Or.inl rfl
        · exact Or.inr hlater

/-! ### How often a setup is started -/

/-- A look at the request that owns the attempt starts none. -/
theorem attempts_lookOwner (host : Host) (number : Nat) (setup : Setup) :
    (host.lookOwner number setup).2.attempts = host.attempts := by
  unfold Host.lookOwner
  split <;> rfl

/-- A look at a request that waits starts no attempt. -/
theorem attempts_lookWaiting (host : Host) (number : Nat) :
    (host.lookWaiting number).2.attempts = host.attempts := by
  unfold Host.lookWaiting
  split <;> rfl

/-- A move starts one setup, where the status allows it, or none. -/
theorem attempts_move (engine : Engine) (host : Host) (next : Move) :
    (host.move engine next).attempts = host.attempts ∨
      mayStart host.status = true ∧ (host.move engine next).attempts = host.attempts + 1 := by
  cases next with
  | ask => exact Or.inl rfl
  | look number =>
      change (host.look engine number).2.attempts = _ ∨
        _ ∧ (host.look engine number).2.attempts = _
      cases host.lookCase engine number with
      | owner setup _ _ _ hlook =>
          rw [hlook, attempts_lookOwner]
          rcases host.claimed_cases engine number with hsame | ⟨-, hstart, hclaimed⟩
          · rw [hsame]
            exact Or.inl rfl
          · rw [hclaimed]
            exact Or.inr ⟨hstart, rfl⟩
      | waits _ _ _ hlook =>
          rw [hlook, attempts_lookWaiting]
          exact Or.inl rfl
      | closed _ hlook =>
          rw [hlook]
          exact Or.inl rfl
  | drop number =>
      change (host.drop number).2.attempts = _ ∨ _
      cases host.dropCase engine number with
      | owner _ _ _ hdrop | idle _ _ _ _ hdrop | closed _ hdrop =>
          rw [hdrop]
          exact Or.inl rfl
  | shutDown => exact Or.inl rfl

/-- No move starts a setup unless the status allows it. -/
theorem attempts_move_of_not_mayStart {host : Host} (hstart : mayStart host.status = false)
    (engine : Engine) (next : Move) : (host.move engine next).attempts = host.attempts := by
  rcases host.attempts_move engine next with hsame | ⟨hmay, -⟩
  · exact hsame
  · rw [hstart] at hmay
    cases hmay

/-- Once the engine is ready or shut down, no setup is started any more. -/
theorem Orderly.attempts_final {host : Host} {endings : List Ending} (h : Orderly host endings)
    (hfinal : host.status = .ready ∨ host.status = .shutDown) (engine : Engine)
    (moves : List Move) : (moves.foldl (Host.move engine) host).attempts = host.attempts := by
  induction moves generalizing host endings with
  | nil => rfl
  | cons next rest ih =>
      have hmove := h.statusMove engine next
      have hstart : mayStart host.status = false := by
        rcases hfinal with hstatus | hstatus <;> rw [hstatus] <;> rfl
      have hstays : (host.move engine next).status = .ready ∨
          (host.move engine next).status = .shutDown := by
        rcases hfinal with hstatus | hstatus <;> rw [hstatus] at hmove
        · exact hmove.of_ready.imp_right And.right
        · exact Or.inr hmove.of_shutDown
      rw [List.foldl_cons, ih (h.move engine next) hstays,
        attempts_move_of_not_mayStart hstart engine next]

/-- The attempts that ended without success are all but at most one of those that were started. -/
theorem Orderly.attempts_le {host : Host} {endings : List Ending} (h : Orderly host endings) :
    host.attempts ≤ endings.countP (· ≠ .succeeded) + 1 := by
  have hlength : endings.length = endings.count .succeeded + endings.countP (· ≠ .succeeded) := by
    rw [List.length_eq_countP_add_countP (· == Ending.succeeded), List.count]
    congr 2
    funext ending
    simp
  have hattempts := h.attempts
  have honce := h.once
  omega

/-! ### The readiness of an engine -/

/-- A run and one more move. -/
theorem run_concat (engine : Engine) (moves : List Move) (next : Move) :
    run engine (moves ++ [next]) = (run engine moves).move engine next := by
  unfold run
  rw [List.foldl_append]
  rfl

/-- There is an owner exactly when owners can be counted. -/
theorem owners_pos_iff {host : Host} :
    0 < host.owners ↔ ∃ setup, .owner setup ∈ host.requests := by
  unfold owners
  rw [List.countP_pos_iff]
  constructor
  · rintro ⟨request, hmem, howner⟩
    cases request with
    | owner setup => exact ⟨setup, hmem⟩
    | asked | waiting | closed => cases howner
  · rintro ⟨setup, hmem⟩
    exact ⟨.owner setup, hmem, rfl⟩

/-- **The readiness of an engine**, after any run of a new host. At most one request owns an
attempt. An attempt is in progress exactly when it has an owner and the host was not shut down. The
engine is ready exactly when an attempt has succeeded and the host was not shut down. No move leads
back to the first status, ready is left by shutting down only, and shutting down is final. So setups
are started at most once more than attempts have ended without success, and never again after an
attempt has succeeded or the host was shut down. -/
theorem run_readiness (engine : Engine) (moves : List Move) :
    (run engine moves).owners ≤ 1 ∧
    ((run engine moves).status = .initializing ↔
      (∃ setup, .owner setup ∈ (run engine moves).requests) ∧ .shutDown ∉ moves) ∧
    ((run engine moves).status = .ready ↔
      .succeeded ∈ endings engine moves ∧ .shutDown ∉ moves) ∧
    (∀ next,
      ((run engine (moves ++ [next])).status = .uninitialized →
        (run engine moves).status = .uninitialized) ∧
      ((run engine moves).status = .ready → (run engine (moves ++ [next])).status = .ready ∨
        (next = .shutDown ∧ (run engine (moves ++ [next])).status = .shutDown)) ∧
      ((run engine moves).status = .shutDown →
        (run engine (moves ++ [next])).status = .shutDown)) ∧
    (run engine moves).attempts ≤ (endings engine moves).countP (· ≠ .succeeded) + 1 ∧
    (.succeeded ∈ endings engine moves ∨ .shutDown ∈ moves →
      ∀ later, (run engine (moves ++ later)).attempts = (run engine moves).attempts) := by
  have h := orderly_run engine moves
  have hshut : (run engine moves).status = .shutDown ↔ .shutDown ∈ moves := by
    have hiff := orderly_new.shutDown_iff engine moves
    simpa [run] using hiff
  refine ⟨Nat.le_trans (Nat.le_add_left _ _) h.once, ?_, ?_, ?_, h.attempts_le, ?_⟩
  · rw [← owners_pos_iff, ← hshut]
    constructor
    · intro hstatus
      refine ⟨Nat.lt_of_lt_of_eq Nat.zero_lt_one (h.owned hstatus).symm, ?_⟩
      rw [hstatus]
      intro heq
      cases heq
    · rintro ⟨hpos, hnot⟩
      exact (h.owner hpos).resolve_right hnot
  · rw [← hshut]
    constructor
    · intro hstatus
      refine ⟨h.ready hstatus, ?_⟩
      rw [hstatus]
      intro heq
      cases heq
    · rintro ⟨hmem, hnot⟩
      exact (h.succeeded hmem).resolve_right hnot
  · intro next
    have hmove := h.statusMove engine next
    rw [run_concat]
    refine ⟨?_, ?_, ?_⟩
    · intro hstatus
      rw [hstatus] at hmove
      exact hmove.eq_of_uninitialized
    · intro hstatus
      rw [hstatus] at hmove
      exact hmove.of_ready
    · intro hstatus
      rw [hstatus] at hmove
      exact hmove.of_shutDown
  · intro hfinal later
    have hstatus : (run engine moves).status = .ready ∨ (run engine moves).status = .shutDown := by
      rcases hfinal with hmem | hmem
      · exact h.succeeded hmem
      · exact Or.inr (hshut.mpr hmem)
    have hattempts := h.attempts_final hstatus engine later
    simpa only [run, List.foldl_append] using hattempts

end Host

end Workbench.Engine
