/-!
Feeds: events for subscribers that read at their own pace. A feed keeps the newest events, as many as
its capacity; a subscriber that is further behind is told how many events it has lost and goes on
with the oldest one that is kept. Each subscriber gets the events sent after it subscribed, in the
order in which they were sent.
-/

namespace Workbench.Board

/-- What a subscriber receives. -/
inductive Notice (ε : Type) where
  | event (event : ε)
  /-- So many events are lost. -/
  | lagged (count : Nat)
  deriving DecidableEq

/-- A feed of events. -/
structure Feed (ε : Type) where
  /-- How many events are kept. -/
  capacity : Nat
  /-- How many events have been sent and are no longer kept. -/
  lost : Nat := 0
  /-- The events that are kept, the oldest first. -/
  kept : List ε := []
  /-- For each subscriber, how many events had been sent when it had received all of them. -/
  cursors : List Nat := []

namespace Feed

variable {ε : Type}

/-- The greatest capacity that can be had: `2 ^ 57`. An event that is kept takes 48 bytes, and no more
than `2 ^ 63 - 1` bytes can be addressed, so that the next power of two is out of reach. -/
def maxCapacity : Nat := 144115188075855872

/-- A feed without events. The capacity asked for is rounded up to a power of two, so that it is at
least one; more than the greatest capacity cannot be had. -/
def ofCapacity? (asked : Nat) : Option (Feed ε) :=
  if asked ≤ maxCapacity then some { capacity := asked.nextPowerOfTwo } else none

/-- How many events have been sent. -/
def sent (feed : Feed ε) : Nat := feed.lost + feed.kept.length

/-- One more event. -/
def send (feed : Feed ε) (event : ε) : Feed ε :=
  if feed.kept.length < feed.capacity then { feed with kept := feed.kept ++ [event] }
  else { feed with lost := feed.lost + 1, kept := (feed.kept ++ [event]).tail }

/-- One more subscriber, and its number. -/
def subscribe (feed : Feed ε) : Nat × Feed ε :=
  (feed.cursors.length, { feed with cursors := feed.cursors ++ [feed.sent] })

/-- What waits for a subscriber that has received the first events up to the given number. -/
def waiting (feed : Feed ε) (cursor : Nat) : List (Notice ε) :=
  if cursor < feed.lost then .lagged (feed.lost - cursor) :: feed.kept.map .event
  else (feed.kept.drop (cursor - feed.lost)).map .event

/-- Everything that waits for a subscriber. Afterwards nothing does. -/
def drain (feed : Feed ε) (subscriber : Nat) : List (Notice ε) × Feed ε :=
  match feed.cursors[subscriber]? with
  | some cursor =>
      (feed.waiting cursor, { feed with cursors := feed.cursors.set subscriber feed.sent })
  | none => ([], feed)

/-- Every event that is sent is counted. -/
theorem sent_send (feed : Feed ε) (event : ε) : (feed.send event).sent = feed.sent + 1 := by
  rw [send]
  split
  · simp only [sent, List.length_append, List.length_singleton, Nat.add_assoc]
  · simp only [sent, List.length_tail, List.length_append, List.length_singleton]
    omega

end Feed

end Workbench.Board
