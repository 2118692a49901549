import DebugLink.Proofs.Feed
import Mathlib.Data.List.Infix

/-!
# Fanout: what a subscription receives over its life

A feed is used by many at once. `FeedMove` lists their atomic steps, and a list of moves is any way
in which they can come one after the other.

To one subscription a feed is a `Mailbox`: deliveries are put into it until the last one, its owner
takes them out from the front or drops it, and nothing else touches it (`EventFeed.run_mailbox`).
So what a subscription receives is decided by what is published and by what its owner does, and no
other subscription can be told from it.

Main statements:

* `EventFeed.fan_out`: a subscription receives what was published from when it was made, in order,
  and at last that the feed is closed, and what others do makes no difference.
* `World.feed_play`: whatever happens to the feed of a connection is a list of moves.
-/

namespace DebugLink

/-- The deliveries up to the last one there is. -/
def Delivery.upToEnd : List Delivery → List Delivery
  | [] => []
  | .events batch :: rest => .events batch :: upToEnd rest
  | .disconnected :: _ => [.disconnected]

namespace Delivery

variable {deliveries received queue : List Delivery}

theorem disconnected_mem_upToEnd :
    disconnected ∈ upToEnd deliveries ↔ disconnected ∈ deliveries := by
  induction deliveries with
  | nil => rfl
  | cons delivery rest ih => cases delivery <;> simp [upToEnd, ih]

/-- Nothing comes after the last delivery. -/
theorem eq_upToEnd_of_disconnected (come : received <+: upToEnd deliveries)
    (last : disconnected ∈ received) : received = upToEnd deliveries := by
  induction deliveries generalizing received with
  | nil =>
    rw [List.prefix_nil.mp come] at last
    cases last
  | cons delivery rest ih =>
    obtain _ | ⟨first, received⟩ := received
    · cases last
    cases delivery with
    | events batch =>
      rw [upToEnd, List.cons_prefix_cons] at come
      obtain ⟨rfl, come⟩ := come
      have last : disconnected ∈ received := by simpa using last
      rw [upToEnd, ih come last]
    | disconnected =>
      rw [upToEnd, List.cons_prefix_cons, List.prefix_nil] at come
      obtain ⟨rfl, rfl⟩ := come
      rfl

end Delivery

/-! ## One subscription alone -/

/-- What a feed is to one subscription: a queue, and whether more is put into it. -/
structure Mailbox where
  queue : List Delivery
  opened : Bool
  deriving DecidableEq

/-- What happens to a mailbox. -/
inductive MailMove
  | put (delivery : Delivery)
  | take
  | drop
  deriving DecidableEq

/-- What is put into a mailbox. -/
def MailMove.put? : MailMove → Option Delivery
  | .put delivery => some delivery
  | _ => none

namespace Mailbox

variable {mailbox : Mailbox} {moves : List MailMove}

/-- Nothing is in it, and nothing will be. -/
def gone : Mailbox := ⟨[], false⟩

def step (mailbox : Mailbox) : MailMove → Mailbox
  | .put delivery =>
    if mailbox.opened then ⟨mailbox.queue ++ [delivery], delivery != .disconnected⟩ else mailbox
  | .take => { mailbox with queue := mailbox.queue.tail }
  | .drop => gone

/-- What its owner takes out of it. -/
def taken (mailbox : Mailbox) : MailMove → Option Delivery
  | .take => mailbox.queue.head?
  | _ => none

def run (mailbox : Mailbox) (moves : List MailMove) : Mailbox :=
  moves.foldl step mailbox

/-- What its owner takes out of it in the course of some moves. -/
def received (mailbox : Mailbox) : List MailMove → List Delivery
  | [] => []
  | move :: moves => (mailbox.taken move).toList ++ (mailbox.step move).received moves

/-- What its owner can take out of it, if it is not dropped. -/
def due (mailbox : Mailbox) (moves : List MailMove) : List Delivery :=
  mailbox.queue ++
    if mailbox.opened then Delivery.upToEnd (moves.filterMap MailMove.put?) else []

@[simp]
theorem run_append (moves more : List MailMove) :
    mailbox.run (moves ++ more) = (mailbox.run moves).run more :=
  List.foldl_append

@[simp]
theorem received_append (moves more : List MailMove) :
    mailbox.received (moves ++ more) =
      mailbox.received moves ++ (mailbox.run moves).received more := by
  induction moves generalizing mailbox with
  | nil => rfl
  | cons move moves ih => simp [received, run, ih]

/-- A move brings nothing out of turn and loses nothing. -/
theorem due_cons {move : MailMove} (kept : move ≠ .drop) :
    mailbox.due (move :: moves) =
      (mailbox.taken move).toList ++ (mailbox.step move).due moves := by
  obtain ⟨queue, opened⟩ := mailbox
  cases move with
  | put delivery => cases opened <;> cases delivery <;> simp [due, taken, step, MailMove.put?,
      Delivery.upToEnd]
  | take => cases queue <;> rfl
  | drop => exact absurd rfl kept

@[simp]
theorem received_gone : gone.received moves = [] := by
  induction moves with
  | nil => rfl
  | cons move moves ih =>
    have still : gone.step move = gone := by cases move <;> rfl
    have nothing : gone.taken move = none := by cases move <;> rfl
    rw [received, still, nothing, ih]
    rfl

theorem step_put (ended : mailbox.opened = false) (delivery : Delivery) :
    mailbox.step (.put delivery) = mailbox := by
  rw [step, if_neg (by simp [ended])]

theorem received_prefix : mailbox.received moves <+: mailbox.due moves := by
  induction moves generalizing mailbox with
  | nil => exact List.nil_prefix
  | cons move moves ih =>
    by_cases dropped : move = .drop
    · subst dropped
      have none : mailbox.received (.drop :: moves) = [] := received_gone
      rw [none]
      exact List.nil_prefix
    · rw [due_cons dropped, received]
      exact (List.prefix_append_right_inj _).mpr ih

/-- What is not dropped is in the queue until it is received. -/
theorem received_append_queue (kept : .drop ∉ moves) :
    mailbox.received moves ++ (mailbox.run moves).queue = mailbox.due moves := by
  induction moves generalizing mailbox with
  | nil => simp [received, run, due, Delivery.upToEnd]
  | cons move moves ih =>
    obtain ⟨first, kept⟩ := not_or.mp (mt List.mem_cons.mpr kept)
    rw [due_cons (Ne.symm first), received, List.append_assoc]
    exact congrArg _ (ih kept)

theorem opened_run (kept : .drop ∉ moves) : (mailbox.run moves).opened = true ↔
    mailbox.opened = true ∧ .disconnected ∉ moves.filterMap MailMove.put? := by
  induction moves generalizing mailbox with
  | nil => simp [run]
  | cons move moves ih =>
    obtain ⟨first, kept⟩ := not_or.mp (mt List.mem_cons.mpr kept)
    rw [run, List.foldl_cons, ← run, ih kept]
    cases move with
    | put delivery =>
      cases opened : mailbox.opened <;> cases delivery <;> simp [step, opened, MailMove.put?]
    | take => simp [step, MailMove.put?]
    | drop => exact absurd rfl first

/-- The mailbox of a new subscription, to a feed that may be closed. -/
def first (closed : Bool) : Mailbox :=
  if closed then ⟨[.disconnected], false⟩ else ⟨[], true⟩

theorem due_first (closed : Bool) (moves : List MailMove) :
    (first closed).due moves =
      Delivery.upToEnd (if closed then [.disconnected] else moves.filterMap MailMove.put?) := by
  cases closed <;> rfl

theorem opened_run_first {closed : Bool} (kept : .drop ∉ moves) :
    ((first closed).run moves).opened = true ↔ .disconnected ∉ (first closed).due moves := by
  rw [opened_run kept, due_first, Delivery.disconnected_mem_upToEnd]
  cases closed <;> simp [first]

end Mailbox

/-! ## All subscriptions together -/

/-- One atomic step of somebody who uses a feed. -/
inductive FeedMove
  | subscribe
  | publish (batch : EventBatch)
  | close
  /-- The owner of a subscription takes its next delivery. If there is none it gets nothing, or
  still waits. -/
  | receive (id : SubscriptionId)
  /-- A received batch is taken out of the depth of its subscription. -/
  | count (id : SubscriptionId)
  | judge
  | drop (id : SubscriptionId)
  /-- The flow control is changed otherwise than by the policy. -/
  | regulate (f : FlowControl → FlowControl)

namespace FeedMove

/-- What a move hands to every subscription. -/
def sends : FeedMove → Option Delivery
  | .publish batch => some (.events batch)
  | .close => some .disconnected
  | _ => none

/-- Whether a move closes the feed. -/
def closes : FeedMove → Bool
  | .close => true
  | _ => false

/-- What a subscription sees of a move. -/
def seenBy (id : SubscriptionId) : FeedMove → Option MailMove
  | .publish batch => some (.put (.events batch))
  | .close => some (.put .disconnected)
  | .receive other => if other = id then some .take else none
  | .drop other => if other = id then some .drop else none
  | _ => none

theorem put?_seenBy (id : SubscriptionId) (moves : List FeedMove) :
    (moves.filterMap (seenBy id)).filterMap MailMove.put? = moves.filterMap sends := by
  rw [List.filterMap_filterMap]
  refine List.filterMap_congr fun move _ => ?_
  cases move <;> simp only [seenBy, sends] <;> try rfl
  all_goals split <;> rfl

theorem drop_mem_seenBy {id : SubscriptionId} {moves : List FeedMove} :
    .drop ∈ moves.filterMap (seenBy id) ↔ .drop id ∈ moves := by
  simp only [List.mem_filterMap]
  constructor
  · rintro ⟨move, mem, seen⟩
    cases move <;> simp [seenBy] at seen
    exact seen ▸ mem
  · exact fun mem => ⟨_, mem, by simp [seenBy]⟩

end FeedMove

namespace EventFeed

variable {feed : EventFeed} {id : SubscriptionId}

def step (feed : EventFeed) : FeedMove → EventFeed
  | .subscribe => feed.subscribe.2
  | .publish batch => feed.publish batch
  | .close => feed.close
  | .receive id => (feed.pop id).2
  | .count id => feed.countReceived id
  | .judge => feed.applyPolicy
  | .drop id => feed.drop id
  | .regulate f => { feed with flow := f feed.flow }

/-- What the owner of a subscription takes out of its queue. -/
def taken (id : SubscriptionId) (feed : EventFeed) : FeedMove → Option Delivery
  | .receive other => if other = id then (feed.pop id).1 else none
  | _ => none

def run (feed : EventFeed) (moves : List FeedMove) : EventFeed :=
  moves.foldl step feed

/-- What the owner of a subscription receives in the course of some moves. -/
def received (id : SubscriptionId) (feed : EventFeed) : List FeedMove → List Delivery
  | [] => []
  | move :: moves => (feed.taken id move).toList ++ received id (feed.step move) moves

theorem run_append (moves more : List FeedMove) :
    feed.run (moves ++ more) = (feed.run moves).run more :=
  List.foldl_append

theorem received_append (moves more : List FeedMove) :
    received id feed (moves ++ more) =
      received id feed moves ++ received id (feed.run moves) more := by
  induction moves generalizing feed with
  | nil => rfl
  | cons move moves ih => simp [received, run, ih]

/-- A reception that nobody interrupts is made of moves: the next delivery is taken, and if it is a
batch it is counted. -/
theorem receive_eq_run (feed : EventFeed) (id : SubscriptionId) (alive : Bool) :
    ∃ moves, (feed.receive id alive).2 = feed.run (.receive id :: moves) ∧
      (feed.receive id alive).1.toList = received id feed (.receive id :: moves) := by
  rw [receive]
  split
  · next batch rest popped =>
    refine ⟨if alive then [.count id, .judge] else [.count id], ?_, ?_⟩
    · cases alive <;> simp [run, step, popped]
    · cases alive <;> simp [received, taken, popped]
  · exact ⟨[], rfl, by simp [received, taken]⟩

/-- Identities are not used twice, and a closed feed hands nothing out. -/
structure Sound (feed : EventFeed) : Prop where
  ids : ∀ s ∈ feed.subscriptions, s.id < feed.next
  ended : feed.closed = true → ∀ s ∈ feed.subscriptions, s.registered = false

namespace Sound

theorem map (sound : feed.Sound) {f : Subscription → Subscription} (ids : ∀ s, (f s).id = s.id)
    (registered : ∀ s, s.registered = false → (f s).registered = false) :
    Sound { feed with subscriptions := feed.subscriptions.map f } where
  ids := by
    intro s mem
    obtain ⟨old, known, rfl⟩ := List.mem_map.mp mem
    rw [ids]
    exact sound.ids old known
  ended := by
    intro closed s mem
    obtain ⟨old, known, rfl⟩ := List.mem_map.mp mem
    exact registered old (sound.ended closed old known)

theorem update (sound : feed.Sound) (id : SubscriptionId) {f : Subscription → Subscription}
    (ids : ∀ s, (f s).id = s.id) (registered : ∀ s, (f s).registered = s.registered) :
    (feed.update id f).Sound := by
  refine sound.map (fun s => ?_) fun s ended => ?_
  · split
    · exact ids s
    · rfl
  · split
    · exact (registered s).trans ended
    · exact ended

theorem withFlow (sound : feed.Sound) (flow : FlowControl) : Sound { feed with flow } :=
  ⟨sound.ids, sound.ended⟩

theorem filter (sound : feed.Sound) (p : Subscription → Bool) :
    Sound { feed with subscriptions := feed.subscriptions.filter p } where
  ids := fun s mem => sound.ids s (List.mem_filter.mp mem).1
  ended := fun closed s mem => sound.ended closed s (List.mem_filter.mp mem).1

theorem subscribe (sound : feed.Sound) : feed.subscribe.2.Sound := by
  refine ⟨fun s mem => ?_, fun closed s mem => ?_⟩
  · obtain old | new := List.mem_append.mp mem
    · exact Nat.lt_succ_of_lt (sound.ids s old)
    · rw [List.mem_singleton.mp new]
      show (if feed.closed then _ else _ : Subscription).id < feed.next + 1
      split <;> exact Nat.lt_succ_self _
  · have closed : feed.closed = true := closed
    obtain old | new := List.mem_append.mp mem
    · exact sound.ended closed s old
    · simp [List.mem_singleton.mp new, closed]

theorem close (sound : feed.Sound) : feed.close.Sound := by
  rw [EventFeed.close]
  split
  · exact sound
  · refine ⟨fun s mem => ?_, fun _ s mem => ?_⟩
    · obtain ⟨old, known, rfl⟩ := List.mem_map.mp mem
      split <;> exact sound.ids old known
    · obtain ⟨old, known, rfl⟩ := List.mem_map.mp mem
      split
      · rfl
      · next ended => simpa using ended

theorem step (sound : feed.Sound) (move : FeedMove) : (feed.step move).Sound := by
  cases move with
  | subscribe => exact sound.subscribe
  | publish batch =>
    show (feed.publish batch).Sound
    rw [publish]
    split
    · exact sound
    · refine (sound.map (fun s => ?_) fun s ended => ?_).withFlow _
      · split <;> rfl
      · rwa [if_neg (by simp [ended])]
  | close => exact sound.close
  | receive id =>
    show (feed.pop id).2.Sound
    rw [pop]
    split
    · exact sound.update id (fun _ => rfl) fun _ => rfl
    · exact sound
  | count id => exact sound.update id (fun _ => rfl) fun _ => rfl
  | judge => exact sound.withFlow _
  | drop id =>
    show (feed.drop id).Sound
    rw [drop]
    split
    · exact (sound.filter _).withFlow _
    · exact sound.filter _
  | regulate f => exact sound.withFlow _

theorem run (sound : feed.Sound) (moves : List FeedMove) : (feed.run moves).Sound := by
  induction moves generalizing feed with
  | nil => exact sound
  | cons move moves ih => exact ih (sound.step move)

end Sound

/-! ## What one subscription sees -/

/-- What the feed is to one subscription. One that has ended gets nothing. -/
def mailbox (feed : EventFeed) (id : SubscriptionId) : Mailbox :=
  ((feed.find? id).map fun s => ⟨s.queue, s.registered⟩).getD .gone

theorem mailbox_of_find? {s : Subscription} (found : feed.find? id = some s) :
    feed.mailbox id = ⟨s.queue, s.registered⟩ := by
  rw [mailbox, found]
  rfl

theorem find?_map {f : Subscription → Subscription} (ids : ∀ s, (f s).id = s.id) :
    EventFeed.find? { feed with subscriptions := feed.subscriptions.map f } id =
      (feed.find? id).map f := by
  simp only [find?, List.find?_map]
  congr 2
  exact funext fun s => by simp [ids]

/-- A change to all subscriptions is a change to each. -/
theorem mailbox_map {f : Subscription → Subscription} {g : Mailbox → Mailbox}
    (ids : ∀ s, (f s).id = s.id) (gone : g .gone = .gone)
    (each : ∀ s ∈ feed.subscriptions, ⟨(f s).queue, (f s).registered⟩ = g ⟨s.queue, s.registered⟩) :
    mailbox { feed with subscriptions := feed.subscriptions.map f } id = g (feed.mailbox id) := by
  rw [mailbox, mailbox, find?_map ids]
  cases found : feed.find? id with
  | none => exact gone.symm
  | some s => exact each s (List.mem_of_find?_eq_some found)

/-- A change to one subscription. -/
theorem mailbox_update (other : SubscriptionId) {f : Subscription → Subscription}
    {g : Mailbox → Mailbox} (ids : ∀ s, (f s).id = s.id) (gone : g .gone = .gone)
    (each : ∀ s, feed.find? other = some s →
      ⟨(f s).queue, (f s).registered⟩ = g ⟨s.queue, s.registered⟩) :
    (feed.update other f).mailbox id =
      if other = id then g (feed.mailbox id) else feed.mailbox id := by
  have known : (feed.update other f).find? id =
      (feed.find? id).map fun s => if s.id = other then f s else s :=
    find?_map fun s => by split <;> simp [ids]
  rw [mailbox, mailbox, known]
  cases found : feed.find? id with
  | none => split <;> simp [gone]
  | some s =>
    have same : s.id = id := by simpa using List.find?_some found
    subst same
    split
    · next same =>
      subst same
      simpa using each s found
    · next differs => simp [Ne.symm differs]

theorem mailbox_filter (other : SubscriptionId) :
    mailbox { feed with subscriptions := feed.subscriptions.filter (·.id != other) } id =
      if other = id then .gone else feed.mailbox id := by
  simp only [mailbox, find?, List.find?_filter]
  split
  · next same =>
    subst same
    rw [List.find?_eq_none.mpr (by simp)]
    rfl
  · next differs =>
    congr 3
    funext s
    by_cases same : s.id = id <;> simp [same, Ne.symm differs]

theorem Sound.mailbox_closed (sound : feed.Sound) (closed : feed.closed = true) :
    (feed.mailbox id).opened = false := by
  rw [mailbox]
  cases found : feed.find? id with
  | none => rfl
  | some s => exact sound.ended closed s (List.mem_of_find?_eq_some found)

theorem pop_fst : (feed.pop id).1 = (feed.mailbox id).queue.head? := by
  rw [mailbox, pop]
  obtain _ | ⟨_, _ | _, _, _⟩ := feed.find? id <;> rfl

/-- Whatever its owner does besides, a reception takes what is first. -/
theorem receive_fst (alive : Bool) : (feed.receive id alive).1 = (feed.mailbox id).queue.head? := by
  rw [← pop_fst, receive]
  split
  · next taken => rw [taken]
  · rfl

theorem mailbox_pop (other : SubscriptionId) :
    (feed.pop other).2.mailbox id =
      if other = id then (feed.mailbox id).step .take else feed.mailbox id := by
  rw [pop]
  split
  · next delivery rest found =>
    refine mailbox_update other (g := (·.step .take)) (fun _ => rfl) rfl fun s known => ?_
    rw [known] at found
    have queue : s.queue = delivery :: rest := Option.some.inj found
    rw [Mailbox.step, queue]
    rfl
  · next empty =>
    -- Nothing is at the front, so nothing changes when that is taken.
    have still : (feed.mailbox other).step .take = feed.mailbox other := by
      cases found : feed.find? other with
      | none => rw [mailbox, found]; rfl
      | some s =>
        cases queue : s.queue with
        | nil => rw [mailbox_of_find? found, queue]; rfl
        | cons delivery rest => exact absurd (by rw [found, ← queue]; rfl) (empty delivery rest)
    split
    · next same => exact (same ▸ still).symm
    · rfl

theorem mailbox_drop (other : SubscriptionId) :
    (feed.drop other).mailbox id = if other = id then .gone else feed.mailbox id := by
  rw [drop]
  split <;> exact mailbox_filter other

/-- A move of a feed is to a subscription what it sees of the move. -/
theorem mailbox_step (sound : feed.Sound) (made : id < feed.next) (move : FeedMove) :
    (feed.step move).mailbox id = (feed.mailbox id).run (move.seenBy id).toList := by
  cases move with
  | subscribe =>
    show feed.subscribe.2.mailbox id = feed.mailbox id
    have later : (if feed.closed then
        { id := feed.next, queue := [.disconnected], registered := false }
        else { id := feed.next } : Subscription).id ≠ id := by
      split <;> exact Nat.ne_of_gt made
    simp [mailbox, find?, subscribe, List.find?_append, later]
  | publish batch =>
    show (feed.publish batch).mailbox id = (feed.mailbox id).step (.put (.events batch))
    rw [publish]
    split
    · next closed => exact (Mailbox.step_put (sound.mailbox_closed closed) _).symm
    · refine mailbox_map (g := (·.step (.put (.events batch)))) (fun s => ?_) rfl fun s _ => ?_
      · split <;> rfl
      · cases kept : s.registered <;> simp [Mailbox.step, Subscription.push, kept]
  | close =>
    show feed.close.mailbox id = (feed.mailbox id).step (.put .disconnected)
    rw [close]
    split
    · next closed => exact (Mailbox.step_put (sound.mailbox_closed closed) _).symm
    · refine mailbox_map (g := (·.step (.put .disconnected))) (fun s => ?_) rfl fun s _ => ?_
      · split <;> rfl
      · cases kept : s.registered <;> simp [Mailbox.step, kept]
  | receive other =>
    refine (mailbox_pop other).trans ?_
    rw [FeedMove.seenBy]
    split <;> rfl
  | count other =>
    show (feed.update other fun s => { s with depth := s.depth - 1 }).mailbox id = feed.mailbox id
    rw [mailbox_update (f := fun s => { s with depth := s.depth - 1 })
      (g := fun mailbox => mailbox) other (fun _ => rfl) rfl fun _ _ => rfl, ite_self]
  | judge => rfl
  | drop other =>
    refine (mailbox_drop other).trans ?_
    rw [FeedMove.seenBy]
    split <;> rfl
  | regulate f => rfl

theorem taken_eq (move : FeedMove) :
    (feed.taken id move).toList = (feed.mailbox id).received (move.seenBy id).toList := by
  cases move with
  | receive other =>
    rw [taken, FeedMove.seenBy]
    split
    · next same =>
      subst same
      rw [pop_fst]
      exact (List.append_nil _).symm
    · rfl
  | drop other =>
    rw [FeedMove.seenBy]
    split <;> rfl
  | _ => rfl

theorem next_le_step (move : FeedMove) : feed.next ≤ (feed.step move).next := by
  cases move <;> simp only [step, subscribe, publish, close, pop, countReceived, applyPolicy, drop,
    update] <;> try exact Nat.le_refl _
  case subscribe => exact Nat.le_succ _
  all_goals split <;> exact Nat.le_refl _

theorem next_le_run (moves : List FeedMove) : feed.next ≤ (feed.run moves).next := by
  induction moves generalizing feed with
  | nil => exact Nat.le_refl _
  | cons move moves ih => exact (next_le_step move).trans ih

theorem closed_step (move : FeedMove) : (feed.step move).closed = (feed.closed || move.closes) := by
  cases move <;> simp only [step, subscribe, publish, close, pop, countReceived, applyPolicy, drop,
    update, FeedMove.closes, Bool.or_false]
  case close => cases closed : feed.closed <;> simp [closed]
  all_goals split <;> rfl

theorem closed_run (moves : List FeedMove) :
    (feed.run moves).closed = (feed.closed || moves.any FeedMove.closes) := by
  induction moves generalizing feed with
  | nil => simp [run]
  | cons move moves ih =>
    rw [run, List.foldl_cons, ← run, ih, closed_step, List.any_cons, Bool.or_assoc]

/-- The rest of a feed is to one subscription its own mailbox, whatever the others do. -/
theorem run_mailbox (sound : feed.Sound) (made : id < feed.next) (moves : List FeedMove) :
    (feed.run moves).mailbox id = (feed.mailbox id).run (moves.filterMap (·.seenBy id)) ∧
      received id feed moves = (feed.mailbox id).received (moves.filterMap (·.seenBy id)) := by
  induction moves generalizing feed with
  | nil => exact ⟨rfl, rfl⟩
  | cons move moves ih =>
    have seen : (move :: moves).filterMap (·.seenBy id) =
        (move.seenBy id).toList ++ moves.filterMap (·.seenBy id) := by
      cases seen : move.seenBy id <;> simp [seen]
    obtain ⟨last, rest⟩ := ih (sound.step move) (made.trans_le (next_le_step move))
    rw [mailbox_step sound made] at last rest
    rw [seen, Mailbox.run_append, Mailbox.received_append, ← rest, ← taken_eq]
    exact ⟨last, rfl⟩

/-- Nothing is received under an identity that is still to be given. -/
theorem received_unmade (sound : feed.Sound) (moves : List FeedMove)
    (unmade : (feed.run moves).next ≤ id) : received id feed moves = [] := by
  induction moves generalizing feed with
  | nil => rfl
  | cons move moves ih =>
    have later : feed.next ≤ id := ((next_le_step move).trans (next_le_run moves)).trans unmade
    have unknown : feed.mailbox id = .gone := by
      have none : feed.find? id = none := by
        refine List.find?_eq_none.mpr fun s mem => ?_
        simpa using Nat.ne_of_lt ((sound.ids s mem).trans_le later)
      rw [mailbox, none]
      rfl
    rw [received, taken_eq, unknown, Mailbox.received_gone, ih (sound.step move) unmade]
    rfl

theorem mailbox_subscribe (sound : feed.Sound) :
    feed.subscribe.2.mailbox feed.next = .first feed.closed := by
  have fresh : feed.subscriptions.find? (·.id == feed.next) = none := by
    refine List.find?_eq_none.mpr fun s mem => ?_
    simpa using Nat.ne_of_lt (sound.ids s mem)
  cases closed : feed.closed <;> simp [mailbox, find?, subscribe, Mailbox.first, closed, fresh]

/-- A subscription that is made after some moves and before others is a mailbox of its own. -/
theorem received_made (flow : FlowControl) (before after : List FeedMove) :
    let feed : EventFeed := { flow }
    let id := (feed.run before).subscribe.1
    let whole := before ++ .subscribe :: after
    let first := Mailbox.first (before.any FeedMove.closes)
    (feed.run whole).mailbox id = first.run (after.filterMap (·.seenBy id)) ∧
      received id feed whole = first.received (after.filterMap (·.seenBy id)) := by
  intro feed id whole first
  have new : feed.Sound := ⟨by simp [feed], by simp [feed]⟩
  have start : ((feed.run before).step .subscribe).mailbox id = first := by
    refine (mailbox_subscribe (new.run before)).trans ?_
    rw [closed_run]
    rfl
  have made : id < ((feed.run before).step .subscribe).next := Nat.lt_succ_self _
  obtain ⟨last, rest⟩ := run_mailbox ((new.run before).step .subscribe) made after
  rw [start] at last rest
  constructor
  · rw [run_append]
    exact last
  · have none : received id feed before = [] := received_unmade new before (Nat.le_refl _)
    rw [received_append, none]
    exact rest

theorem received_made_due (flow : FlowControl) (before after : List FeedMove) :
    let feed : EventFeed := { flow }
    received (feed.run before).subscribe.1 feed (before ++ .subscribe :: after) <+:
      Delivery.upToEnd
        (if before.any FeedMove.closes then [.disconnected]
          else after.filterMap FeedMove.sends) := by
  intro feed
  rw [(received_made flow before after).2, ← FeedMove.put?_seenBy _ after, ← Mailbox.due_first]
  exact Mailbox.received_prefix

/-- A subscription receives what was published after it was made and before the feed was closed, in
order and each batch once, and then that the feed is closed, after which nothing comes any more.
Until its owner drops it, what it has not received is in its queue, and a reception that nobody
interrupts brings the next of it. What it receives depends on nothing but what is published and what
its owner does. -/
theorem fan_out (flow : FlowControl) (before after : List FeedMove) :
    let feed : EventFeed := { flow }
    let id := (feed.run before).subscribe.1
    let whole := before ++ .subscribe :: after
    let due := Delivery.upToEnd <|
      if before.any FeedMove.closes then [.disconnected] else after.filterMap FeedMove.sends
    received id feed whole <+: due ∧
    (.drop id ∉ after →
      received id feed whole ++ ((feed.run whole).mailbox id).queue = due ∧
      (((feed.run whole).mailbox id).opened = true ↔ .disconnected ∉ due)) ∧
    (.disconnected ∈ received id feed whole → received id feed whole = due ∧
      ∀ more, received id feed (whole ++ more) = received id feed whole) ∧
    (∀ alive, let reception := (feed.run whole).receive id alive
      (∃ moves, reception.2 = feed.run (whole ++ .receive id :: moves) ∧
        received id feed (whole ++ .receive id :: moves) =
          received id feed whole ++ reception.1.toList) ∧
      (.drop id ∉ after → reception.1 = due[(received id feed whole).length]?)) ∧
    ∀ flow' before' after',
      let feed' : EventFeed := { flow := flow' }
      let id' := (feed'.run before').subscribe.1
      before'.any FeedMove.closes = before.any FeedMove.closes →
      after'.filterMap (·.seenBy id') = after.filterMap (·.seenBy id) →
      received id' feed' (before' ++ .subscribe :: after') = received id feed whole := by
  intro feed id whole due
  obtain ⟨left, received⟩ := received_made flow before after
  have kept_due (kept : .drop id ∉ after) :
      EventFeed.received id feed whole ++ ((feed.run whole).mailbox id).queue = due ∧
        (((feed.run whole).mailbox id).opened = true ↔ .disconnected ∉ due) := by
    have kept : .drop ∉ after.filterMap (·.seenBy id) := mt FeedMove.drop_mem_seenBy.mp kept
    have same : due = (Mailbox.first (before.any FeedMove.closes)).due
        (after.filterMap (·.seenBy id)) := by
      rw [Mailbox.due_first, FeedMove.put?_seenBy]
    rw [left, received, same]
    exact ⟨Mailbox.received_append_queue kept, Mailbox.opened_run_first kept⟩
  refine ⟨received_made_due flow before after, kept_due, fun last => ?_, fun alive => ⟨?_, ?_⟩, ?_⟩
  · refine ⟨Delivery.eq_upToEnd_of_disconnected (received_made_due flow before after) last,
      fun more => ?_⟩
    -- What has been received begins what will have been, and ends what there is to receive.
    have whole_more : whole ++ more = before ++ .subscribe :: (after ++ more) := by simp [whole]
    have come := received_made_due flow before (after ++ more)
    have begins : EventFeed.received id feed whole <+:
        EventFeed.received id feed (whole ++ more) := by
      rw [received_append whole more]
      exact List.prefix_append _ _
    rw [← whole_more] at come
    have all := Delivery.eq_upToEnd_of_disconnected (begins.trans come) last
    rw [← all] at come
    exact come.eq_of_length_le begins.length_le
  · obtain ⟨moves, made, taken⟩ := (feed.run whole).receive_eq_run id alive
    refine ⟨moves, made.trans (run_append whole _).symm, ?_⟩
    rw [received_append whole, taken]
  · intro kept
    rw [receive_fst, ← (kept_due kept).1, List.getElem?_append_right (Nat.le_refl _), Nat.sub_self,
      List.head?_eq_getElem?]
  · intro flow' before' after' feed' id' closed seen
    rw [(received_made flow' before' after').2, received, closed, seen]

/-- One subscription is dropped while another receives: that is as if the other were alone. -/
theorem fan_out_alone :
    let flow : FlowControl := { high := 8, low := 2 }
    let after : List FeedMove := [.publish ⟨1, 2, [7]⟩, .drop 0, .publish ⟨2, 0, []⟩, .receive 1,
      .count 1, .judge, .close, .publish ⟨3, 0, []⟩, .receive 1, .receive 1]
    let alone : List FeedMove := [.publish ⟨1, 2, [7]⟩, .publish ⟨2, 0, []⟩, .receive 0, .close,
      .publish ⟨3, 0, []⟩, .receive 0, .receive 0]
    let whole := .subscribe :: .subscribe :: after
    received 1 { flow } whole = [.events ⟨1, 2, [7]⟩, .events ⟨2, 0, []⟩, .disconnected] ∧
      (EventFeed.run { flow } whole).mailbox 1 = .gone ∧
      (∀ more, received 1 { flow } (whole ++ more) = received 1 { flow } whole) ∧
      received 0 { flow } (.subscribe :: alone) = received 1 { flow } whole := by
  intro flow after alone whole
  obtain ⟨-, kept, ended, -, others⟩ := fan_out flow [.subscribe] after
  obtain ⟨all, -⟩ := kept (by simp [after, EventFeed.run, EventFeed.step, subscribe])
  have last : .disconnected ∈ received 1 { flow } whole := by decide
  obtain ⟨all', ended⟩ := ended last
  refine ⟨all', by decide +kernel, ended, others flow [] alone rfl rfl⟩

end EventFeed

/-! ## The feed of a connection -/

/-- What the owner of a subscription has got. -/
def Entry.deliveredTo? (id : SubscriptionId) : Entry → Option Delivery
  | .delivered other delivery => if other = id then some delivery else none
  | _ => none

/-- What was handed to the subscriptions. -/
def Entry.sends : Entry → Option Delivery
  | .performed (.publish batch) => some (.events batch)
  | .performed .closeFeed => some .disconnected
  | _ => none

namespace World

variable {before after : World} {move : Move} {entries : List Entry}

/-- The entries of a move tell of the feed what a move of the feed does. -/
structure Tells (entries : List Entry) (feed : EventFeed) (move : FeedMove) : Prop where
  sends : entries.filterMap Entry.sends = move.sends.toList
  delivered (id : SubscriptionId) :
    entries.filterMap (·.deliveredTo? id) = (feed.taken id move).toList

theorem Aloof.tells (aloof : Aloof move entries) {feed : EventFeed} {feedMove : FeedMove}
    (sends : feedMove.sends = none) (taken : ∀ id, feed.taken id feedMove = none) :
    Tells entries feed feedMove := by
  constructor
  · rw [sends, Option.toList_none, List.filterMap_eq_nil_iff]
    intro entry mem
    have quiet := aloof.entries entry mem
    unfold Entry.sends
    split <;> first | rfl | exact absurd quiet (by simp [Entry.ofFeed])
  · intro id
    rw [taken, Option.toList_none, List.filterMap_eq_nil_iff]
    intro entry mem
    have quiet := aloof.entries entry mem
    unfold Entry.deliveredTo?
    split <;> first | rfl | exact absurd quiet (by simp [Entry.ofFeed])

/-- Every move is to the feed a move of its own. -/
theorem FeedTurn.tells (turn : FeedTurn before move entries after) :
    ∃ feedMove, after.connection.feed = before.connection.feed.step feedMove ∧
      Tells entries before.connection.feed feedMove := by
  cases turn with
  | aside f turn aloof feed judges => exact ⟨.regulate f, feed, aloof.tells rfl fun _ => rfl⟩
  | subscribe starts told feed judges =>
    subst told
    exact ⟨.subscribe, feed, rfl, fun _ => rfl⟩
  | publish batch others told feed judges =>
    subst told
    exact ⟨.publish batch, feed, rfl, fun _ => rfl⟩
  | close others told feed judges =>
    subst told
    exact ⟨.close, feed, rfl, fun _ => rfl⟩
  | pop id starts told feed judges =>
    subst told
    refine ⟨.receive id, feed, ?_, fun other => ?_⟩
    · cases (before.connection.feed.pop id).1 <;> rfl
    · rw [EventFeed.taken]
      split
      · next same =>
        subst same
        cases (before.connection.feed.pop id).1 <;> simp [Entry.deliveredTo?]
      · next differs =>
        cases (before.connection.feed.pop id).1 <;> simp [Entry.deliveredTo?, differs]
  | drop id starts told feed judges =>
    subst told
    exact ⟨.drop id, feed, rfl, fun _ => rfl⟩
  | count id aloof feed judges => exact ⟨.count id, feed, aloof.tells rfl fun _ => rfl⟩
  | judge aloof feed => exact ⟨.judge, feed, aloof.tells rfl fun _ => rfl⟩

/-- Whatever happens to a connection, its feed makes a list of moves, and the journal tells what was
published and what each subscription received by them. -/
theorem feed_play (config : Config) (moves : List Move) :
    ∃ feedMoves : List FeedMove,
      let feed := (ofConfig config).connection.feed
      let world := play config moves
      world.connection.feed = feed.run feedMoves ∧
      world.journal.filterMap Entry.sends = feedMoves.filterMap FeedMove.sends ∧
      ∀ id, world.journal.filterMap (·.deliveredTo? id) = feed.received id feedMoves := by
  refine play_induction (P := fun _ world => ∃ feedMoves : List FeedMove,
    world.connection.feed = (ofConfig config).connection.feed.run feedMoves ∧
    world.journal.filterMap Entry.sends = feedMoves.filterMap FeedMove.sends ∧
    ∀ id, world.journal.filterMap (·.deliveredTo? id) =
      (ofConfig config).connection.feed.received id feedMoves)
    ⟨[], rfl, rfl, fun _ => rfl⟩ ?_ moves
  rintro moves move ⟨feedMoves, feed, sent, received⟩
  obtain ⟨entries, journal, turn⟩ := @feed_turn (play config moves) move
  obtain ⟨feedMove, made, tells⟩ := turn.tells
  refine ⟨feedMoves ++ [feedMove], ?_, ?_, fun id => ?_⟩
  · rw [made, feed, EventFeed.run_append]
    rfl
  · rw [journal, List.filterMap_append, sent, tells.sends, List.filterMap_append]
    cases sends : feedMove.sends <;> simp [sends]
  · rw [journal, List.filterMap_append, received, tells.delivered, EventFeed.received_append, feed]
    simp [EventFeed.received]

end World

end DebugLink
