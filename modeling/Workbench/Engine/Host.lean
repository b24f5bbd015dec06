import Workbench.Engine.Basic

/-!
Hosts: an engine is set up through a host, which makes one attempt at a time. Anyone may ask for
the engine to be initialized, and each request is looked at from time to time. The first look at a
request decides its part: it owns a new attempt if the engine has not been initialized or the last
attempt failed, and otherwise it waits. The owner's looks move the setup along; a waiting request
looks at the status and is done when no attempt is in progress. A request can be dropped at any
time, and an attempt that loses its owner has failed. Shutting the host down is final.
-/

namespace Workbench.Engine

/-- A request for initialization. -/
inductive Request where
  /-- Nobody has looked at it. -/
  | asked
  /-- It owns the attempt, whose setup is the one given. -/
  | owner (setup : Setup)
  /-- It waits for an attempt that another request owns. -/
  | waiting
  /-- It has been answered, or dropped. -/
  | closed

/-- What a look at a request finds. -/
inductive Look where
  | pending
  | answered (result : Except InitError Unit)
  /-- The request had been answered or dropped before. -/
  | closed

/-- The readiness of an engine, and the requests to initialize it. -/
structure Host where
  status : Status := .uninitialized
  /-- How many setups have been started. -/
  attempts : Nat := 0
  /-- The requests, by number. -/
  requests : List Request := []

namespace Host

/-- The status after an attempt has ended: shutting down wins. -/
def settled (status outcome : Status) : Status :=
  if status = .shutDown then .shutDown else outcome

/-- The status that an attempt ends in. -/
def outcomeStatus : Except InitError Unit → Status
  | .ok () => .ready
  | .error error => .failed error.message

/-- Whether a new attempt may start. -/
def mayStart : Status → Bool
  | .uninitialized => true
  | .failed _ => true
  | .initializing | .ready | .shutDown => false

/-- The answer to a request that waits, if there is one yet. -/
def shared : Status → Look
  | .initializing => .pending
  | .ready => .answered (.ok ())
  | .failed reason => .answered (.error (.setup reason))
  | .shutDown => .answered (.error .shutDown)
  | .uninitialized => .answered (.error (.setup ("unexpected status: "
      ++ Status.uninitialized.render)))

/-- The host with another state of a request. -/
def withRequest (host : Host) (number : Nat) (request : Request) : Host :=
  { host with requests := host.requests.set number request }

/-- One more request, and its number. -/
def ask (host : Host) : Nat × Host :=
  (host.requests.length, { host with requests := host.requests ++ [.asked] })

/-- A look at the request that owns the attempt. -/
def lookOwner (host : Host) (number : Nat) (setup : Setup) : Look × Host :=
  match setup.delay with
  | delay + 1 => (.pending, host.withRequest number (.owner { setup with delay := delay }))
  | 0 =>
      let status := settled host.status (outcomeStatus setup.result)
      let result := if status = .shutDown then .error .shutDown else setup.result
      (.answered result, { host with status := status }.withRequest number .closed)

/-- A look at a request that waits. -/
def lookWaiting (host : Host) (number : Nat) : Look × Host :=
  match shared host.status with
  | .pending => (.pending, host.withRequest number .waiting)
  | look => (look, host.withRequest number .closed)

/-- A look at a request. -/
def look (engine : Engine) (host : Host) (number : Nat) : Look × Host :=
  match host.requests[number]? with
  | some .asked =>
      if mayStart host.status then
        { host with status := .initializing, attempts := host.attempts + 1 }.lookOwner number
          (engine.setup host.attempts)
      else host.lookWaiting number
  | some (.owner setup) => host.lookOwner number setup
  | some .waiting => host.lookWaiting number
  | some .closed => (.closed, host)
  | none => (.closed, host)

/-- Drops a request; answers whether it was still open. -/
def drop (host : Host) (number : Nat) : Bool × Host :=
  match host.requests[number]? with
  | some (.owner _) =>
      let status := settled host.status (.failed "initialization cancelled")
      (true, { host with status := status }.withRequest number .closed)
  | some .asked => (true, host.withRequest number .closed)
  | some .waiting => (true, host.withRequest number .closed)
  | some .closed => (false, host)
  | none => (false, host)

/-- Shuts the host down. -/
def shutDown (host : Host) : Host := { host with status := .shutDown }

/-- The text of a host for programmers. -/
def debug (host : Host) : String :=
  "EngineHost \x7b status: " ++ host.status.debug ++ ", .. \x7d"

/-! ### Requests that are looked at until they are answered -/

/-- Requests with the answers they have so far. -/
abbrev Answers := List (Nat × Option (Except InitError Unit))

/-- A look at each request that has no answer yet, in order. -/
def lookAll (engine : Engine) (host : Host) : Answers → Answers × Host
  | [] => ([], host)
  | (number, some answer) :: rest =>
      let (answers, host) := lookAll engine host rest
      ((number, some answer) :: answers, host)
  | (number, none) :: rest =>
      let (found, host) := host.look engine number
      let answer := match found with
        | .answered result => some result
        | .pending => none
        | .closed => none
      let (answers, host) := lookAll engine host rest
      ((number, answer) :: answers, host)

/-- So many rounds of looks. -/
def lookRounds (engine : Engine) : Nat → Answers → Host → Answers × Host
  | 0, answers, host => (answers, host)
  | rounds + 1, answers, host =>
      let (answers, host) := lookAll engine host answers
      lookRounds engine rounds answers host

/-- So many requests at once, looked at in turn until all are answered. Each request starts at most
one attempt, so that as many rounds as their setups can take are enough. -/
def prepareAll (engine : Engine) (host : Host) (count : Nat) :
    List (Except InitError Unit) × Host :=
  let numbers := (List.range count).map (host.requests.length + ·)
  let asked := { host with requests := host.requests ++ List.replicate count .asked }
  let delays := (List.range count).map fun n => (engine.setup (host.attempts + n)).delay
  let (answers, host) := lookRounds engine (delays.foldr (· + ·) 1) (numbers.map (·, none)) asked
  (answers.filterMap Prod.snd, host)

end Host

end Workbench.Engine
