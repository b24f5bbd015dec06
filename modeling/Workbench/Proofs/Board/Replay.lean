import Workbench.Board.Basic
import Workbench.Proofs.Board.Feed

/-!
# The changes of a board can be replayed

A board tells its subscribers of changes, not of its contents. **Theorem** (`informed_of_history`):
whatever happens to a board, before and after somebody subscribes, and however often that subscriber
and others read what waits for them,

* all changes since then are accounted for, in order, by what the subscriber has received and what
  still waits for it, where a lag stands for the changes that it counts (`Informed.complete`,
  `Informed.ordered`, `Informed.accounts`);
* what waits for it has one lag at most, and only if more changes are unread than the capacity,
  rounded up to a power of two (`Informed.waiting`);
* if there was no lag and nothing waits, then the shape of the board (`Shape`) comes about from the
  one at the time of the subscription by replaying what was received (`Replays`).

A board is compared with the list of its changes (`changes`), and a subscriber with the part of that
list that it has not read (`Awaits`). A move takes both one step further (`Awaits.move`).
-/

namespace Workbench.Board

variable {ρ : Type}

/-! ### Histories -/

/-- What can happen to a board. -/
inductive Move (ρ : Type) where
  | append (text : String)
  | clear
  | fail (run : ρ) (message : String)
  | replace (artifacts : Artifacts ρ)
  /-- From now on messages belong to the given run, if there is one. -/
  | turnTo (run : Option ρ)
  | subscribe
  | drain (subscriber : Nat)

/-- Whether subscribers are told of the move. -/
def Move.isChange : Move ρ → Bool
  | .append _ => true
  | .clear => true
  | .fail .. => true
  | .replace _ => true
  | .turnTo _ => false
  | .subscribe => false
  | .drain _ => false

/-- The board after a move. -/
def move (board : Board ρ) : Move ρ → Board ρ
  | .append text => board.append text
  | .clear => board.clearMessages
  | .fail run message => board.recordFailure run message
  | .replace artifacts => board.replaceArtifacts artifacts
  | .turnTo run => { board with currentRun := run }
  | .subscribe => board.subscribe.2
  | .drain subscriber => (board.drain subscriber).2

/-- The board after moves. -/
def play (board : Board ρ) (moves : List (Move ρ)) : Board ρ := moves.foldl move board

/-- The change that a move is, if it is one. -/
def change? (board : Board ρ) : Move ρ → Option (Event ρ)
  | .append _ => some (.messageAppended board.messages.size)
  | .clear => some .messagesCleared
  | .fail run _ => some (.runFailed run)
  | .replace artifacts => some (.artifactsReplaced artifacts.run)
  | .turnTo _ => none
  | .subscribe => none
  | .drain _ => none

/-- The changes among moves, in order. -/
def changes (board : Board ρ) : List (Move ρ) → List (Event ρ)
  | [] => []
  | next :: rest => (board.change? next).toList ++ changes (board.move next) rest

/-- What a subscriber receives by a move. -/
def receivedBy (board : Board ρ) (subscriber : Nat) : Move ρ → List (Notice (Event ρ))
  | .drain reader => if reader = subscriber then (board.drain reader).1 else []
  | _ => []

/-- What a subscriber receives by moves, in order. -/
def received (board : Board ρ) (subscriber : Nat) : List (Move ρ) → List (Notice (Event ρ))
  | [] => []
  | next :: rest => board.receivedBy subscriber next ++ received (board.move next) subscriber rest

/-- What waits for a subscriber. -/
def waiting (board : Board ρ) (subscriber : Nat) : List (Notice (Event ρ)) :=
  (board.drain subscriber).1

/-- There are as many changes as moves that are changes. -/
theorem length_changes (board : Board ρ) (moves : List (Move ρ)) :
    (board.changes moves).length = moves.countP Move.isChange := by
  induction moves generalizing board with
  | nil => rfl
  | cons next rest ih =>
      unfold changes
      rw [List.length_append, ih, List.countP_cons, Nat.add_comm]
      cases next <;> rfl

/-! ### Subscribers -/

/-- A move sends the change that it is, and nothing else. -/
theorem holds_move {board : Board ρ} {history : List (Event ρ)} (h : board.feed.Holds history)
    (next : Move ρ) : (board.move next).feed.Holds (history ++ (board.change? next).toList) := by
  cases next with
  | append | clear | fail | replace => exact h.send _
  | turnTo | subscribe =>
      rw [change?, Option.toList_none, List.append_nil]
      exact ⟨h.lost, h.kept⟩
  | drain subscriber =>
      rw [change?, Option.toList_none, List.append_nil]
      simp only [move, drain, Feed.drain]
      split
      · exact ⟨h.lost, h.kept⟩
      · exact h

/-- The feed has the changes of all moves, in order. -/
theorem holds_play {board : Board ρ} {history : List (Event ρ)} (h : board.feed.Holds history)
    (moves : List (Move ρ)) : (board.play moves).feed.Holds (history ++ board.changes moves) := by
  induction moves generalizing board history with
  | nil => exact (List.append_nil history).symm ▸ h
  | cons next rest ih =>
      unfold changes
      rw [← List.append_assoc]
      exact ih (holds_move h next)

/-- No move changes how many changes are kept. -/
theorem capacity_move (board : Board ρ) (next : Move ρ) :
    (board.move next).feed.capacity = board.feed.capacity := by
  cases next with
  | append | clear | fail | replace => exact Feed.capacity_send _ _
  | turnTo | subscribe => rfl
  | drain subscriber =>
      simp only [move, drain, Feed.drain]
      split <;> rfl

/-- Nor do many moves. -/
theorem capacity_play (board : Board ρ) (moves : List (Move ρ)) :
    (board.play moves).feed.capacity = board.feed.capacity := by
  induction moves generalizing board with
  | nil => rfl
  | cons next rest ih => exact (ih (board.move next)).trans (board.capacity_move next)

/-- Only its own drains move the cursor of a subscriber. -/
theorem cursors_move {board : Board ρ} {subscriber cursor : Nat} {next : Move ρ}
    (hnext : next ≠ .drain subscriber) (h : board.feed.cursors[subscriber]? = some cursor) :
    (board.move next).feed.cursors[subscriber]? = some cursor := by
  cases next with
  | append | clear | fail | replace =>
      change (Feed.send _ _).cursors[subscriber]? = some cursor
      rw [Feed.cursors_send]
      exact h
  | turnTo => exact h
  | subscribe =>
      have hlt := (List.getElem?_eq_some_iff.mp h).1
      exact (List.getElem?_append_left hlt).trans h
  | drain reader =>
      have hne : reader ≠ subscriber := fun heq => hnext (congrArg _ heq)
      simp only [move, drain, Feed.drain]
      split
      · exact (List.getElem?_set_ne hne).trans h
      · exact h

/-- The subscriber has received all changes but these, the latest ones. -/
def Awaits (board : Board ρ) (subscriber : Nat) (unread : List (Event ρ)) : Prop :=
  ∃ history, board.feed.Holds (history ++ unread) ∧
    board.feed.cursors[subscriber]? = some history.length

/-- A new subscriber awaits nothing. -/
theorem awaits_subscribe {board : Board ρ} {history : List (Event ρ)}
    (h : board.feed.Holds history) : board.subscribe.2.Awaits board.subscribe.1 [] := by
  refine ⟨history, ?_, ?_⟩
  · rw [List.append_nil]
    exact ⟨h.lost, h.kept⟩
  · change (board.feed.cursors ++ [board.feed.sent])[board.feed.cursors.length]? = _
    rw [List.getElem?_concat_length, h.sent_eq]

namespace Awaits

variable {board : Board ρ} {subscriber : Nat} {unread : List (Event ρ)}

/-- A subscriber that drains is told of the changes that it awaits. -/
theorem waiting_eq (h : board.Awaits subscriber unread) :
    board.waiting subscriber = told board.feed.capacity unread := by
  obtain ⟨history, hholds, hcursor⟩ := h
  change (board.feed.drain subscriber).1 = _
  unfold Feed.drain
  rw [hcursor]
  change board.feed.waiting history.length = _
  rw [hholds.waiting_eq, List.drop_left]

/-- Having read, a subscriber awaits nothing. -/
theorem drain (h : board.Awaits subscriber unread) :
    (board.drain subscriber).2.Awaits subscriber [] := by
  obtain ⟨history, hholds, hcursor⟩ := h
  have hlt := (List.getElem?_eq_some_iff.mp hcursor).1
  simp only [Board.drain, Feed.drain, hcursor]
  refine ⟨history ++ unread, ?_, ?_⟩
  · rw [List.append_nil]
    exact ⟨hholds.lost, hholds.kept⟩
  · change (board.feed.cursors.set subscriber board.feed.sent)[subscriber]? = _
    rw [List.getElem?_set_self hlt, hholds.sent_eq]

/-- **One move.** What the subscriber awaited, and the change that the move is, is in part accounted
for by what it receives, and awaited from now on in part. -/
theorem move (h : board.Awaits subscriber unread) (next : Move ρ) : ∃ read unread',
    unread ++ (board.change? next).toList = read ++ unread' ∧
      Accounts (board.receivedBy subscriber next) read ∧
      (board.move next).Awaits subscriber unread' := by
  by_cases hdrain : next = .drain subscriber
  · subst hdrain
    refine ⟨unread, [], rfl, ?_, h.drain⟩
    change Accounts (if subscriber = subscriber then board.waiting subscriber else []) unread
    rw [if_pos rfl, h.waiting_eq]
    exact accounts_told _ unread
  · obtain ⟨history, hholds, hcursor⟩ := h
    have hnothing : board.receivedBy subscriber next = [] := by
      cases next with
      | drain reader => exact if_neg fun heq => hdrain (congrArg _ heq)
      | append | clear | fail | replace | turnTo | subscribe => rfl
    refine ⟨[], unread ++ (board.change? next).toList, rfl, ?_, history, ?_, ?_⟩
    · rw [hnothing]
      exact .nil
    · rw [← List.append_assoc]
      exact holds_move hholds next
    · exact cursors_move hdrain hcursor

/-- **All moves.** -/
theorem play (h : board.Awaits subscriber unread) (moves : List (Move ρ)) : ∃ read unread',
    unread ++ board.changes moves = read ++ unread' ∧
      Accounts (board.received subscriber moves) read ∧
      (board.play moves).Awaits subscriber unread' := by
  induction moves generalizing board unread with
  | nil => exact ⟨[], unread, List.append_nil unread, .nil, h⟩
  | cons next rest ih =>
      obtain ⟨read, unread', hchanges, hread, hawaits⟩ := h.move next
      obtain ⟨read', unread'', hchanges', hread', hawaits'⟩ := ih hawaits
      refine ⟨read ++ read', unread'', ?_, hread.append hread', hawaits'⟩
      unfold changes
      rw [← List.append_assoc, hchanges, List.append_assoc, hchanges', List.append_assoc]

end Awaits

/-! ### Shapes -/

/-- What can be known of a board from its changes: how many messages there are, and which runs the
artifacts and the latest failure are of. -/
structure Shape (ρ : Type) where
  size : Nat
  artifacts : Option ρ
  failure : Option ρ

/-- The shape of a board. -/
def shape (board : Board ρ) : Shape ρ :=
  ⟨board.messages.size, board.artifacts.map Artifacts.run, board.lastError.map Diagnostic.run⟩

namespace Shape

/-- The shape after a change. -/
def after (shape : Shape ρ) : Event ρ → Shape ρ
  | .messageAppended _ => { shape with size := shape.size + 1 }
  | .messagesCleared => { shape with size := 0 }
  | .runFailed run => { shape with failure := some run }
  | .artifactsReplaced run => { shape with artifacts := some run, failure := none }

/-- The shape after changes. -/
def replay (shape : Shape ρ) (events : List (Event ρ)) : Shape ρ := events.foldl after shape

variable {events : List (Event ρ)}

/-- The artifacts stay until others replace them. -/
theorem artifacts_replay (h : ∀ run, .artifactsReplaced run ∉ events) (shape : Shape ρ) :
    (shape.replay events).artifacts = shape.artifacts := by
  induction events generalizing shape with
  | nil => rfl
  | cons event rest ih =>
      have hrest := ih (fun run hmem => h run (List.mem_cons_of_mem _ hmem)) (shape.after event)
      refine hrest.trans ?_
      cases event with
      | artifactsReplaced run => exact absurd List.mem_cons_self (h run)
      | messageAppended | messagesCleared | runFailed => rfl

/-- While no run fails, there is a failure exactly if there was one and no artifacts have come
since. -/
theorem failure_replay (h : ∀ run, .runFailed run ∉ events) (shape : Shape ρ) (run : ρ) :
    (shape.replay events).failure = some run ↔
      shape.failure = some run ∧ ∀ run, .artifactsReplaced run ∉ events := by
  induction events generalizing shape with
  | nil => simp [replay]
  | cons event rest ih =>
      have hrest := ih (fun run hmem => h run (List.mem_cons_of_mem _ hmem)) (shape.after event)
      refine hrest.trans ?_
      cases event with
      | runFailed run => exact absurd List.mem_cons_self (h run)
      | artifactsReplaced replaced =>
          refine ⟨fun hfailure => ?_, fun hboth => absurd List.mem_cons_self (hboth.2 replaced)⟩
          cases hfailure.1
      | messageAppended | messagesCleared => simp [after]

end Shape

/-- A move changes the shape as the change says that it is. -/
theorem shape_move (board : Board ρ) (next : Move ρ) :
    (board.move next).shape = board.shape.replay (board.change? next).toList := by
  cases next with
  | append text =>
      simp [move, change?, shape, Board.append, announce, Shape.replay, Shape.after]
  | clear | fail | replace | turnTo | subscribe | drain => rfl

/-- So do many moves: **the changes replayed are the moves as they are to be seen.** -/
theorem shape_play (board : Board ρ) (moves : List (Move ρ)) :
    (board.play moves).shape = board.shape.replay (board.changes moves) := by
  induction moves generalizing board with
  | nil => rfl
  | cons next rest ih =>
      unfold changes
      rw [Shape.replay, List.foldl_append]
      change ((board.move next).play rest).shape =
        (board.shape.replay (board.change? next).toList).replay _
      rw [← shape_move]
      exact ih (board.move next)

/-- The index of a message is how many messages there are before it. -/
theorem index_of_changes {board : Board ρ} {moves : List (Move ρ)} {earlier later : List (Event ρ)}
    {index : Nat} (h : board.changes moves = earlier ++ .messageAppended index :: later) :
    index = (board.shape.replay earlier).size := by
  induction moves generalizing board earlier with
  | nil => simp [changes] at h
  | cons next rest ih =>
      unfold changes at h
      cases hchange : board.change? next with
      | none =>
          have hshape := board.shape_move next
          rw [hchange] at h hshape
          have hsize := ih h
          rwa [hshape] at hsize
      | some event =>
          have hshape := board.shape_move next
          rw [hchange] at h hshape
          cases earlier with
          | nil =>
              obtain ⟨rfl, -⟩ := List.cons.inj h
              cases next <;> cases hchange
              rfl
          | cons first earlier =>
              obtain ⟨rfl, hrest⟩ := List.cons.inj h
              have hsize := ih hrest
              rwa [hshape] at hsize

/-- Replaying events from the shape of one board gives that of another. -/
structure Replays (before after : Board ρ) (events : List (Event ρ)) : Prop where
  /-- The index of each message is the length of the replayed log at that point. -/
  index : ∀ earlier index later, events = earlier ++ .messageAppended index :: later →
    index = (before.shape.replay earlier).size
  /-- In the end the replayed shape is that of the board. -/
  shape : before.shape.replay events = after.shape
  /-- The artifacts are those of the run that replaced them last. -/
  artifacts : ∀ earlier run later, events = earlier ++ .artifactsReplaced run :: later →
    (∀ run, .artifactsReplaced run ∉ later) → after.artifacts.map Artifacts.run = some run
  /-- The latest failure is that of the run that failed last, unless artifacts have come since. -/
  lastError : ∀ earlier run later, events = earlier ++ .runFailed run :: later →
    (∀ run, .runFailed run ∉ later) →
    (after.lastError.map Diagnostic.run = some run ↔ ∀ run, .artifactsReplaced run ∉ later)

/-- The changes can be replayed. -/
theorem replays_changes (board : Board ρ) (moves : List (Move ρ)) :
    Replays board (board.play moves) (board.changes moves) where
  index _ _ _ h := index_of_changes h
  shape := (board.shape_play moves).symm
  artifacts earlier run later h hlast := by
    have hshape := congrArg Shape.artifacts (board.shape_play moves)
    rw [h, Shape.replay, List.foldl_append] at hshape
    exact hshape.trans (Shape.artifacts_replay hlast _)
  lastError earlier run later h hlast := by
    have hshape := congrArg Shape.failure (board.shape_play moves)
    rw [h, Shape.replay, List.foldl_append] at hshape
    change (board.play moves).shape.failure = some run ↔ _
    rw [hshape]
    refine (Shape.failure_replay hlast _ run).trans ?_
    exact ⟨fun hboth => hboth.2, fun hnone => ⟨rfl, hnone⟩⟩

/-! ### What a subscriber knows -/

/-- What a subscriber knows of a board from what it has received since it subscribed, when so many
events are kept. -/
structure Informed (kept : Nat) (board : Board ρ) (subscriber : Nat) (moves : List (Move ρ)) :
    Prop where
  /-- No change is passed over in silence. -/
  complete : weightOf (board.received subscriber moves) +
    weightOf ((board.play moves).waiting subscriber) = moves.countP Move.isChange
  /-- Changes are received in the order in which they were made. -/
  ordered : (eventsIn (board.received subscriber moves)).Sublist (board.changes moves)
  /-- A lag is reported in the place of the changes that are lost, and counts them. -/
  accounts : Accounts (board.received subscriber moves ++ (board.play moves).waiting subscriber)
    (board.changes moves)
  /-- What waits is told in full, or with one lag for what is not kept. -/
  waiting : ∃ unread, unread <:+ board.changes moves ∧
    (board.play moves).waiting subscriber = told kept unread
  /-- Without a lag, and when nothing waits, what was received can be replayed. -/
  replays : (∀ count, .lagged count ∉ board.received subscriber moves) →
    (board.play moves).waiting subscriber = [] →
    Replays board (board.play moves) (eventsIn (board.received subscriber moves))

/-- A subscriber that has read everything is informed from then on. -/
theorem Awaits.informed {board : Board ρ} {subscriber : Nat} (h : board.Awaits subscriber [])
    (moves : List (Move ρ)) : Informed board.feed.capacity board subscriber moves := by
  obtain ⟨read, unread, hchanges, hread, hawaits⟩ := h.play moves
  rw [List.nil_append] at hchanges
  have hwaiting := hawaits.waiting_eq
  rw [capacity_play] at hwaiting
  have haccounts : Accounts
      (board.received subscriber moves ++ (board.play moves).waiting subscriber)
      (board.changes moves) := by
    rw [hchanges, hwaiting]
    exact hread.append (accounts_told _ unread)
  refine ⟨?_, ?_, haccounts, ⟨unread, ⟨read, hchanges.symm⟩, hwaiting⟩, fun hnone hdrained => ?_⟩
  · rw [← weightOf_append, haccounts.weightOf_eq, length_changes]
  · rw [hchanges]
    exact hread.sublist.trans (List.sublist_append_left read unread)
  · have hnothing : unread = [] := told_eq_nil_iff.mp (hwaiting.symm.trans hdrained)
    rw [hnothing, List.append_nil] at hchanges
    rw [hread.eventsIn_eq hnone, ← hchanges]
    exact board.replays_changes moves

/-- A new board has announced nothing, and its capacity is rounded up. -/
theorem holds_of_ofCapacity? {capacity : Nat} {start : Board ρ}
    (h : ofCapacity? capacity = some start) :
    start.feed.Holds [] ∧ start.feed.capacity = capacity.nextPowerOfTwo := by
  obtain ⟨feed, hfeed, rfl⟩ := Option.map_eq_some_iff.mp h
  exact Feed.holds_of_ofCapacity? hfeed

/-- **Subscribers are informed**, whatever has happened before they subscribe and whatever happens
afterwards. -/
theorem informed_of_history {capacity : Nat} {start : Board ρ}
    (hstart : ofCapacity? capacity = some start) (before after : List (Move ρ)) :
    Informed capacity.nextPowerOfTwo (start.play before).subscribe.2
      (start.play before).subscribe.1 after := by
  obtain ⟨hholds, hcapacity⟩ := holds_of_ofCapacity? hstart
  have hjoined := awaits_subscribe (holds_play hholds before)
  have hkept : (start.play before).subscribe.2.feed.capacity = capacity.nextPowerOfTwo :=
    (start.capacity_play before).trans hcapacity
  rw [← hkept]
  exact hjoined.informed after

/-- A board that keeps four changes when three are asked for. -/
def small : Board Nat := { feed := { capacity := 4 } }

/-- A board of such a capacity is the small one. -/
theorem ofCapacity?_three : ofCapacity? 3 = some small := by
  have hrounded : Nat.nextPowerOfTwo 3 = 4 := by decide +kernel
  unfold ofCapacity? Feed.ofCapacity?
  rw [hrounded]
  rfl

/-- What happens after a second subscriber has come. -/
def bustle : List (Move Nat) :=
  [.append "b", .drain 1, .clear, .turnTo (some 7), .append "c", .fail 7 "stuck", .drain 0,
    .drain 1]

/-- The second subscriber misses nothing, although messages are cleared and the first one reads too.
-/
theorem informed_of_history_bustle :
    let board := (small.play [.append "a", .subscribe]).subscribe.2
    ofCapacity? 3 = some small ∧ Informed (Nat.nextPowerOfTwo 3) board 1 bustle ∧
      board.received 1 bustle = [.event (.messageAppended 1), .event .messagesCleared,
        .event (.messageAppended 0), .event (.runFailed 7)] ∧
      (board.play bustle).waiting 1 = [] ∧
      Replays board (board.play bustle)
        [.messageAppended 1, .messagesCleared, .messageAppended 0, .runFailed 7] := by
  intro board
  have hsubscriber : (small.play [.append "a", .subscribe]).subscribe.1 = 1 := by decide
  have hreceived : board.received 1 bustle = [.event (.messageAppended 1), .event .messagesCleared,
      .event (.messageAppended 0), .event (.runFailed 7)] := by decide +kernel
  have hwaiting : (board.play bustle).waiting 1 = [] := by decide +kernel
  have hinformed := informed_of_history ofCapacity?_three [.append "a", .subscribe] bustle
  rw [hsubscriber] at hinformed
  have hreplays := hinformed.replays (by rw [hreceived]; simp) hwaiting
  rw [hreceived] at hreplays
  exact ⟨ofCapacity?_three, hinformed, hreceived, hwaiting, hreplays⟩

/-- A subscriber that reads late is told of what it has lost, and goes on with what is kept. -/
example : let board := small.subscribe.2
    board.received 0
        [.append "a", .clear, .append "b", .append "c", .append "d", .append "e", .drain 0] =
      [.lagged 2, .event (.messageAppended 0), .event (.messageAppended 1),
        .event (.messageAppended 2), .event (.messageAppended 3)] := by decide +kernel

end Workbench.Board
