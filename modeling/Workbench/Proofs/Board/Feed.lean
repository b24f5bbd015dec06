import Workbench.Board.Feed

/-!
# What a feed tells a subscriber

A feed forgets: it keeps the newest events only, and each subscriber has a cursor of its own.
Against the list of all events that were ever sent (`Feed.Holds`) this is simple: what is kept is
the end of that list, and what waits for a subscriber is what `told` makes of the part behind its
cursor, namely these events, or one lag and as many of them as are kept.

Notices *account for* events (`Accounts`) when they are these events in order, but that a lag may
stand in the place of some of them, as many as it counts. So nothing is passed over in silence.
-/

namespace Workbench.Board

variable {ε : Type}

namespace Notice

/-- How many events a notice stands for. -/
def weight : Notice ε → Nat
  | .event _ => 1
  | .lagged count => count

/-- The event of a notice, if it is not a lag. -/
def event? : Notice ε → Option ε
  | .event change => some change
  | .lagged _ => none

end Notice

/-- How many events notices stand for together. -/
def weightOf : List (Notice ε) → Nat
  | [] => 0
  | notice :: rest => notice.weight + weightOf rest

/-- The events among notices. -/
def eventsIn (notices : List (Notice ε)) : List ε := notices.filterMap Notice.event?

/-- Notices stand for the events of both parts. -/
theorem weightOf_append (notices notices' : List (Notice ε)) :
    weightOf (notices ++ notices') = weightOf notices + weightOf notices' := by
  induction notices with
  | nil => exact (Nat.zero_add _).symm
  | cons notice rest ih =>
      change notice.weight + weightOf (rest ++ notices') = _
      rw [ih, ← Nat.add_assoc]
      rfl

/-! ### Notices that account for events -/

/-- The notices are the events in order, but that a lag stands for as many of them as it counts. -/
inductive Accounts : List (Notice ε) → List ε → Prop where
  | nil : Accounts [] []
  | event {notices : List (Notice ε)} {events : List ε} (event : ε) (h : Accounts notices events) :
      Accounts (.event event :: notices) (event :: events)
  | lagged {notices : List (Notice ε)} {events : List ε} (lost : List ε)
      (h : Accounts notices events) :
      Accounts (.lagged lost.length :: notices) (lost ++ events)

namespace Accounts

variable {notices notices' : List (Notice ε)} {events events' : List ε}

/-- Notices that account for some events, and others for those after them, account for all. -/
theorem append (h : Accounts notices events) (h' : Accounts notices' events') :
    Accounts (notices ++ notices') (events ++ events') := by
  induction h with
  | nil => exact h'
  | event event _ ih => exact .event event ih
  | lagged lost _ ih =>
      rw [List.append_assoc]
      exact .lagged lost ih

/-- No event is left out of the count. -/
theorem weightOf_eq (h : Accounts notices events) : weightOf notices = events.length := by
  induction h with
  | nil => rfl
  | @event notices events event _ ih =>
      change 1 + weightOf notices = events.length + 1
      rw [ih, Nat.add_comm]
  | @lagged notices events lost _ ih =>
      change lost.length + weightOf notices = (lost ++ events).length
      rw [ih, List.length_append]

/-- The events among the notices come in order. -/
theorem sublist (h : Accounts notices events) : (eventsIn notices).Sublist events := by
  induction h with
  | nil => exact .slnil
  | event event _ ih => exact ih.cons_cons event
  | lagged lost _ ih => exact ih.trans (List.sublist_append_right lost _)

/-- Without a lag, the notices are the events. -/
theorem eventsIn_eq (h : Accounts notices events)
    (hnone : ∀ count, Notice.lagged count ∉ notices) : eventsIn notices = events := by
  induction h with
  | nil => rfl
  | event event _ ih =>
      have hrest := ih fun count hmem => hnone count (List.mem_cons_of_mem _ hmem)
      exact congrArg (event :: ·) hrest
  | lagged lost _ _ => exact absurd List.mem_cons_self (hnone lost.length)

end Accounts

/-- Events account for themselves. -/
theorem accounts_map_event (events : List ε) : Accounts (events.map .event) events := by
  induction events with
  | nil => exact .nil
  | cons event rest ih => exact .event event ih

/-! ### What a subscriber is told -/

/-- What a subscriber is told of the events that it has not received, the newest of which are kept,
so many at most. -/
def told (kept : Nat) (unread : List ε) : List (Notice ε) :=
  if unread.length ≤ kept then unread.map .event
  else .lagged (unread.length - kept) :: (unread.drop (unread.length - kept)).map .event

/-- **What a subscriber is told accounts for what it has not received.** -/
theorem accounts_told (kept : Nat) (unread : List ε) : Accounts (told kept unread) unread := by
  unfold told
  split
  · exact accounts_map_event unread
  · have hlost : (unread.take (unread.length - kept)).length = unread.length - kept := by
      rw [List.length_take]
      omega
    have haccounts := Accounts.lagged (unread.take (unread.length - kept))
      (accounts_map_event (unread.drop (unread.length - kept)))
    rwa [hlost, List.take_append_drop] at haccounts

/-- Nothing is told when there is nothing to tell. -/
theorem told_eq_nil_iff {kept : Nat} {unread : List ε} : told kept unread = [] ↔ unread = [] := by
  unfold told
  split
  · exact List.map_eq_nil_iff
  · rename_i hmore
    refine ⟨nofun, fun hnil => ?_⟩
    rw [hnil] at hmore
    exact absurd (Nat.zero_le kept) hmore

namespace Feed

/-- The feed to which the events of a list have been sent. -/
structure Holds (feed : Feed ε) (history : List ε) : Prop where
  lost : feed.lost = history.length - feed.capacity
  kept : feed.kept = history.drop feed.lost

variable {feed : Feed ε} {history : List ε}

/-- A new feed holds no event and has room for as many as the power of two that is next. -/
theorem holds_of_ofCapacity? {asked : Nat} (h : ofCapacity? asked = some feed) :
    feed.Holds [] ∧ feed.capacity = asked.nextPowerOfTwo := by
  unfold ofCapacity? at h
  split at h
  · cases h
    exact ⟨⟨(Nat.zero_sub _).symm, rfl⟩, rfl⟩
  · cases h

/-- Sending does not change how many events are kept. -/
@[simp]
theorem capacity_send (feed : Feed ε) (event : ε) : (feed.send event).capacity = feed.capacity := by
  unfold send
  split <;> rfl

/-- Sending moves no subscriber. -/
@[simp]
theorem cursors_send (feed : Feed ε) (event : ε) : (feed.send event).cursors = feed.cursors := by
  unfold send
  split <;> rfl

namespace Holds

/-- What is kept is what has not been lost. -/
theorem length_kept (h : feed.Holds history) :
    feed.kept.length = history.length - feed.lost := by
  rw [h.kept, List.length_drop]

/-- Every event has been counted when it was sent. -/
theorem sent_eq (h : feed.Holds history) : feed.sent = history.length := by
  have hlost := h.lost
  have hkept := h.length_kept
  unfold sent
  omega

/-- Sending an event adds it to the list. -/
theorem send (h : feed.Holds history) (event : ε) :
    (feed.send event).Holds (history ++ [event]) := by
  have hlost := h.lost
  have hlength := h.length_kept
  have hle : feed.lost ≤ history.length := by omega
  unfold Feed.send
  split
  · -- nothing has been lost so far
    refine ⟨?_, ?_⟩
    · change feed.lost = (history ++ [event]).length - feed.capacity
      rw [List.length_append, List.length_singleton]
      omega
    · change feed.kept ++ [event] = (history ++ [event]).drop feed.lost
      rw [List.drop_append_of_le_length hle, ← h.kept]
  · -- the oldest event that was kept makes room
    refine ⟨?_, ?_⟩
    · change feed.lost + 1 = (history ++ [event]).length - feed.capacity
      rw [List.length_append, List.length_singleton]
      omega
    · change (feed.kept ++ [event]).tail = (history ++ [event]).drop (feed.lost + 1)
      rw [h.kept, ← List.drop_append_of_le_length hle, List.tail_drop]

/-- **What waits for a subscriber** is what it is told of the events behind its cursor. -/
theorem waiting_eq (h : feed.Holds history) (cursor : Nat) :
    feed.waiting cursor = told feed.capacity (history.drop cursor) := by
  have hlost := h.lost
  unfold waiting told
  rw [List.length_drop]
  split
  · rename_i hbehind
    rw [if_neg (by omega), List.drop_drop, h.kept]
    have hcount : history.length - cursor - feed.capacity = feed.lost - cursor := by omega
    rw [hcount, Nat.add_sub_of_le (Nat.le_of_lt hbehind)]
  · rename_i hwithin
    rw [if_pos (by omega), h.kept, List.drop_drop, Nat.add_sub_of_le (Nat.le_of_not_lt hwithin)]

end Holds

end Feed

end Workbench.Board
