import DebugLink.Proofs.Contention

/-!
# Hysteresis: depths, and what the policy makes of them

A subscription's depth is what was published to it less what it has received, so nothing that is
counted makes it fall below zero. After every operation the policy holds events if the largest depth
is above the high watermark and does not hold them if it is below the low one, and in between it is
what it was (`EventFeed.Follows`). Operations that do not apply the policy change no depth.

Readers that run at once with others count a batch before they apply the policy. Then events may be
held below the low watermark as long as such a reader waits. They are held above the high one in any
case, because a depth only falls without the lock. Where nobody comes in between, the steps of a
user make one operation (`Contention.run_use`).

Main statement: `EventFeed.hysteresis`.
-/

namespace DebugLink

/-- What a user of an open feed does, with nobody in between. -/
inductive FeedUse
  | subscribe
  | publish (batch : EventBatch)
  /-- The next delivery of a subscription is received, if there is one. -/
  | receive (id : SubscriptionId)
  | drop (id : SubscriptionId)
  deriving DecidableEq

/-- The batch that is published. -/
def FeedUse.published? : FeedUse → Option EventBatch
  | .publish batch => some batch
  | _ => none

/-- The batch that is delivered. -/
def Delivery.batch? : Delivery → Option EventBatch
  | .events batch => some batch
  | .disconnected => none

namespace EventFeed

/-- A feed that nobody has used. -/
def fresh (high low : Nat) : EventFeed :=
  { flow := { high, low } }

def use (feed : EventFeed) : FeedUse → EventFeed
  | .subscribe => feed.subscribe.2
  | .publish batch => feed.publish batch
  | .receive id => (feed.receive id true).2
  | .drop id => feed.drop id

def useAll (feed : EventFeed) (uses : List FeedUse) : EventFeed :=
  uses.foldl use feed

/-- The batch that the owner of a subscription gets. -/
def gain? (id : SubscriptionId) (feed : EventFeed) : FeedUse → Option EventBatch
  | .receive other => if other = id then (feed.receive id true).1.bind Delivery.batch? else none
  | _ => none

/-- The batches that the owner of a subscription gets in the course of all that is done. -/
def gains (id : SubscriptionId) (feed : EventFeed) : List FeedUse → List EventBatch
  | [] => []
  | next :: uses => (feed.gain? id next).toList ++ gains id (feed.use next) uses

/-- What the policy has made of the depths after an operation. -/
structure Follows (high low : Nat) (before after : EventFeed) : Prop where
  above : high < after.deepest → after.flow.held = true
  below : after.deepest < low → after.flow.held = false
  between : low ≤ after.deepest → after.deepest ≤ high → after.flow.held = before.flow.held

/-- The feed is open, and the policy is in accord with the depths, in which nothing is that was
received. -/
structure Quiet (high low : Nat) (feed : EventFeed) : Prop where
  marks : feed.flow.high = high ∧ feed.flow.low = low
  opened : feed.closed = false
  tallied : feed.Tallied []
  above : high < feed.deepest → feed.flow.held = true
  below : feed.deepest < low → feed.flow.held = false

variable {high low : Nat} {feed : EventFeed} {id : SubscriptionId}

theorem Tallied.serves_of_open {uncounted : List SubscriptionId} (tallied : feed.Tallied uncounted)
    (opened : feed.closed = false) : feed.Serves := by
  intro s mem
  rw [tallied.serves s mem, opened]
  rfl

theorem Tallied.withFlow {uncounted : List SubscriptionId} (tallied : feed.Tallied uncounted)
    (flow : FlowControl) : Tallied { feed with flow } uncounted :=
  ⟨tallied.distinct, tallied.made, tallied.counted, tallied.serves, tallied.depth⟩

/-- The largest depth is the largest of all, or zero if there are none. -/
theorem Serves.deepest_eq_max (serves : feed.Serves) :
    feed.deepest = (feed.subscriptions.map (·.depth)).max?.getD 0 := by
  rw [serves.deepest_eq]
  cases feed.subscriptions with
  | nil => rfl
  | cons s subscriptions =>
    rw [List.map_cons, List.max?_cons', Option.getD_some, List.foldl_map, List.foldl_cons,
      Nat.zero_max]

namespace Quiet

/-- The policy is applied. -/
theorem applied (ordered : low < high) {before feed : EventFeed}
    (marks : feed.flow.high = high ∧ feed.flow.low = low) (opened : feed.closed = false)
    (tallied : feed.Tallied []) (same : feed.flow.held = before.flow.held) :
    feed.applyPolicy.Quiet high low ∧ Follows high low before feed.applyPolicy := by
  obtain ⟨highMark, lowMark⟩ := marks
  have marks : feed.applyPolicy.flow.high = high ∧ feed.applyPolicy.flow.low = low :=
    ⟨FlowControl.marks_onDepth.1.trans highMark, FlowControl.marks_onDepth.2.trans lowMark⟩
  have above (deep : high < feed.deepest) : feed.applyPolicy.flow.held = true :=
    FlowControl.held_onDepth_of_gt (highMark ▸ deep)
  have below (shallow : feed.deepest < low) : feed.applyPolicy.flow.held = false :=
    FlowControl.held_onDepth_of_lt (by omega) (lowMark ▸ shallow)
  refine ⟨⟨marks, opened, tallied.withFlow _, above, below⟩, above, below, fun deep shallow => ?_⟩
  have still : feed.flow.onDepth feed.deepest = feed.flow :=
    FlowControl.onDepth_of_between (highMark ▸ shallow) (lowMark ▸ deep)
  rw [applyPolicy, still]
  exact same

/-- Neither the largest depth nor the flow control changes. -/
theorem still (quiet : feed.Quiet high low) {after : EventFeed} (flow : after.flow = feed.flow)
    (deepest : after.deepest = feed.deepest) (opened : after.closed = false)
    (tallied : after.Tallied []) : after.Quiet high low ∧ Follows high low feed after := by
  have above : high < after.deepest → after.flow.held = true := by
    rw [flow, deepest]
    exact quiet.above
  have below : after.deepest < low → after.flow.held = false := by
    rw [flow, deepest]
    exact quiet.below
  exact ⟨⟨flow ▸ quiet.marks, opened, tallied, above, below⟩, above, below,
    fun _ _ => congrArg FlowControl.held flow⟩

theorem publish (ordered : low < high) (quiet : feed.Quiet high low) (batch : EventBatch) :
    (feed.publish batch).Quiet high low ∧ Follows high low feed (feed.publish batch) := by
  have tallied := (quiet.tallied.publish batch).withFlow feed.flow
  rw [EventFeed.publish, if_neg (by simp [quiet.opened])] at tallied ⊢
  exact applied ordered quiet.marks quiet.opened tallied rfl

theorem receive (ordered : low < high) (quiet : feed.Quiet high low) (id : SubscriptionId) :
    (feed.receive id true).2.Quiet high low ∧ Follows high low feed (feed.receive id true).2 := by
  have tallied := quiet.tallied.pop id
  obtain ⟨flow, opened, deepest⟩ : (feed.pop id).2.flow = feed.flow ∧
      (feed.pop id).2.closed = false ∧ (feed.pop id).2.deepest = feed.deepest := by
    obtain same | ⟨rest, changed⟩ := feed.pop_eq id
    · rw [same]
      exact ⟨rfl, quiet.opened, rfl⟩
    · rw [changed]
      exact ⟨rfl, quiet.opened,
        deepest_of_depths (depths_update id (fun _ => rfl) fun _ => rfl)⟩
  rw [EventFeed.receive]
  -- The policy is applied only if a batch was received.
  split
  · next batch popped taken =>
    rw [taken] at tallied flow opened
    have counted : (popped.countReceived id).Tallied [] := tallied.count id (List.Perm.refl _)
    exact applied ordered (flow ▸ quiet.marks) opened counted (congrArg FlowControl.held flow)
  · next other =>
    have none : (Delivery.counts id (feed.pop id).1).toList = [] := by
      cases popped : (feed.pop id).1 with
      | none => rfl
      | some delivery =>
        cases delivery with
        | events batch => exact (other batch (feed.pop id).2 (Prod.ext popped rfl)).elim
        | disconnected => rfl
    rw [none] at tallied
    exact quiet.still flow deepest opened tallied

theorem drop (ordered : low < high) (quiet : feed.Quiet high low) (id : SubscriptionId) :
    (feed.drop id).Quiet high low ∧ Follows high low feed (feed.drop id) := by
  have serves := quiet.tallied.serves_of_open quiet.opened
  have tallied := (quiet.tallied.drop id).withFlow feed.flow
  rw [EventFeed.drop] at tallied ⊢
  split
  · next known =>
    rw [if_pos known] at tallied
    exact applied ordered quiet.marks quiet.opened tallied rfl
  · next ended =>
    rw [serves.filter_of_ended ended]
    exact quiet.still rfl rfl quiet.opened quiet.tallied

theorem use (ordered : low < high) (quiet : feed.Quiet high low) (next : FeedUse) :
    (feed.use next).Quiet high low ∧ Follows high low feed (feed.use next) := by
  cases next with
  | subscribe => exact quiet.still rfl deepest_subscribe quiet.opened quiet.tallied.subscribe
  | publish batch => exact quiet.publish ordered batch
  | receive id => exact quiet.receive ordered id
  | drop id => exact quiet.drop ordered id

theorem useAll (ordered : low < high) (quiet : feed.Quiet high low) (uses : List FeedUse) :
    (feed.useAll uses).Quiet high low := by
  induction uses generalizing feed with
  | nil => exact quiet
  | cons next uses ih => exact ih (quiet.use ordered next).1

end Quiet

theorem quiet_fresh (high low : Nat) : (fresh high low).Quiet high low where
  marks := ⟨rfl, rfl⟩
  opened := rfl
  tallied := ⟨List.nodup_nil, nofun, nofun, nofun, nofun⟩
  above := fun deep => absurd deep (Nat.not_lt_zero _)
  below := fun _ => rfl

/-! ## Depths -/

/-- A change to one subscription changes the one with its identity. -/
theorem find?_update (other : SubscriptionId) {f : Subscription → Subscription}
    (ids : ∀ s, (f s).id = s.id) :
    (feed.update other f).find? id =
      if id = other then (feed.find? id).map f else feed.find? id := by
  refine (find?_map fun s => by split <;> simp [ids]).trans ?_
  cases found : feed.find? id with
  | none => simp
  | some s =>
    have own : s.id = id := by simpa using List.find?_some found
    rw [Option.map_some, own]
    split <;> rfl

/-- The owner of a subscription does nothing to another. -/
theorem find?_receive_of_ne {other : SubscriptionId} (differs : id ≠ other) (alive : Bool) :
    (feed.receive other alive).2.find? id = feed.find? id := by
  have popped : (feed.pop other).2.find? id = feed.find? id := by
    obtain same | ⟨rest, changed⟩ := feed.pop_eq other
    · rw [same]
    · rw [changed, find?_update (f := fun s => { s with queue := rest }) other fun _ => rfl,
        if_neg differs]
  rw [receive]
  split
  · next batch after taken =>
    rw [taken] at popped
    have counted : (after.countReceived other).find? id = after.find? id := by
      rw [countReceived, find?_update (f := fun s => { s with depth := s.depth - 1 }) other
        fun _ => rfl, if_neg differs]
    cases alive with
    | false => exact counted.trans popped
    | true => exact counted.trans popped
  · exact popped

theorem find?_drop_of_ne {other : SubscriptionId} (differs : id ≠ other) :
    (feed.drop other).find? id = feed.find? id := by
  have left : (feed.subscriptions.filter (·.id != other)).find? (·.id == id) =
      feed.subscriptions.find? (·.id == id) := by
    rw [List.find?_filter]
    congr 1
    funext s
    by_cases same : s.id = id <;> simp [same, differs]
  rw [drop]
  split <;> exact left

/-- A batch at the front of a queue is received and taken out of the depth. -/
theorem receive_of_find? (s : Subscription) (found : feed.find? id = some s) :
    ∃ s', (feed.receive id true).2.find? id = some s' ∧
      s'.depth = s.depth - ((feed.receive id true).1.bind Delivery.batch?).toList.length ∧
      ((feed.receive id true).1.bind Delivery.batch?).toList.length ≤ s.batches := by
  have updated (f : Subscription → Subscription) (ids : ∀ s, (f s).id = s.id) :
      (feed.update id f).find? id = some (f s) := by
    rw [find?_update id ids, if_pos rfl, found, Option.map_some]
  rw [receive, pop, found]
  obtain ⟨own, _ | ⟨delivery, rest⟩, depth, registered⟩ := s
  · exact ⟨_, found, rfl, Nat.zero_le _⟩
  · cases delivery with
    | events batch =>
      refine ⟨⟨own, rest, depth - 1, registered⟩, ?_, rfl, ?_⟩
      · show ((feed.update id _).update id _).find? id = _
        rw [find?_update (f := fun s => { s with depth := s.depth - 1 }) id fun _ => rfl,
          if_pos rfl, updated (fun s => { s with queue := rest }) fun _ => rfl]
        rfl
      · show 1 ≤ (Delivery.events batch :: rest).countP Delivery.isBatch
        rw [List.countP_cons_of_pos rfl]
        omega
    | disconnected =>
      exact ⟨_, updated ({ · with queue := rest }) fun _ => rfl, rfl, Nat.zero_le _⟩

/-- An operation gives a subscription what was published, takes from it what is received, and ends
no other. -/
theorem find?_use (quiet : feed.Quiet high low) {s : Subscription} (found : feed.find? id = some s)
    {next : FeedUse} (kept : next ≠ .drop id) :
    ∃ s', (feed.use next).find? id = some s' ∧
      s'.depth + (feed.gain? id next).toList.length =
        s.depth + next.published?.toList.length := by
  have own : s.id = id := by simpa using List.find?_some found
  have mem : s ∈ feed.subscriptions := List.mem_of_find?_eq_some found
  cases next with
  | subscribe =>
    refine ⟨s, ?_, rfl⟩
    show (feed.subscriptions ++ _).find? _ = _
    rw [List.find?_append, show feed.subscriptions.find? (·.id == id) = some s from found]
    rfl
  | publish batch =>
    refine ⟨s.push batch, ?_, rfl⟩
    have registered := quiet.tallied.serves_of_open quiet.opened s mem
    show (feed.publish batch).find? id = _
    rw [EventFeed.publish, if_neg (by simp [quiet.opened])]
    refine (find?_map fun s => by split <;> rfl).trans ?_
    rw [found, Option.map_some, if_pos registered]
  | receive other =>
    by_cases same : other = id
    · subst same
      obtain ⟨s', found', depth, least⟩ := receive_of_find? s found
      have tally := quiet.tallied.depth s mem
      refine ⟨s', found', ?_⟩
      rw [gain?, if_pos rfl, depth]
      show _ = s.depth + 0
      omega
    · refine ⟨s, ?_, ?_⟩
      · exact (find?_receive_of_ne (Ne.symm same) true).trans found
      · rw [gain?, if_neg same]
        rfl
  | drop other =>
    have differs : id ≠ other := by
      rintro rfl
      exact kept rfl
    exact ⟨s, (find?_drop_of_ne differs).trans found, rfl⟩

theorem find?_subscribe (quiet : feed.Quiet high low) :
    feed.subscribe.2.find? feed.next = some { id := feed.next } := by
  have unknown : feed.subscriptions.find? (·.id == feed.next) = none := by
    refine List.find?_eq_none.mpr fun s mem => ?_
    simpa using Nat.ne_of_lt (quiet.tallied.made s mem)
  simp [find?, subscribe, quiet.opened, unknown]

/-- What a subscription's depth and its owner have got is what was in it and what was published. -/
theorem depth_useAll (ordered : low < high) (quiet : feed.Quiet high low) {s : Subscription}
    (found : feed.find? id = some s) {uses : List FeedUse} (kept : .drop id ∉ uses) :
    (feed.useAll uses).depth id + (gains id feed uses).length =
      s.depth + (uses.filterMap FeedUse.published?).length := by
  induction uses generalizing feed s with
  | nil =>
    show feed.depth id + 0 = s.depth + 0
    rw [EventFeed.depth, found]
    rfl
  | cons next uses ih =>
    obtain ⟨first, kept⟩ := not_or.mp (mt List.mem_cons.mpr kept)
    obtain ⟨s', found', step⟩ := find?_use quiet found (Ne.symm first)
    have rest := ih (quiet.use ordered next).1 found' kept
    have all : ((next :: uses).filterMap FeedUse.published?).length =
        next.published?.toList.length + (uses.filterMap FeedUse.published?).length := by
      cases published : next.published? <;> simp [published, Nat.add_comm]
    rw [all, gains, List.length_append]
    show ((feed.use next).useAll uses).depth id + _ = _
    omega

/-- A batch that is taken out of its queue is in the depth. -/
theorem Quiet.depth_pos (quiet : feed.Quiet high low) {batch : EventBatch} {popped : EventFeed}
    (taken : feed.pop id = (some (.events batch), popped)) : 1 ≤ popped.depth id := by
  rw [pop] at taken
  split at taken
  · next delivery rest found =>
    cases taken
    obtain ⟨s, known, queue⟩ := Option.map_eq_some_iff.mp found
    have depth : (feed.update id fun s => { s with queue := rest }).depth id = s.depth := by
      rw [EventFeed.depth, find?_update (f := fun s => { s with queue := rest }) id fun _ => rfl,
        if_pos rfl, known]
      rfl
    have batches : s.batches = rest.countP Delivery.isBatch + 1 := by
      rw [Subscription.batches, queue]
      exact List.countP_cons_of_pos rfl
    have tally := quiet.tallied.depth s (List.mem_of_find?_eq_some known)
    omega
  · cases taken

end EventFeed

namespace World

variable {config : Config} {world world' : World}

/-- If the feed is open and the largest depth above the high watermark then events are held. -/
def HeldAbove (high : Nat) (feed : EventFeed) : Prop :=
  feed.closed = false → high < feed.deepest → feed.flow.held = true

theorem heldAbove_applyPolicy {high : Nat} {feed : EventFeed} (mark : feed.flow.high = high) :
    HeldAbove high feed.applyPolicy :=
  fun _ deep => FlowControl.held_onDepth_of_gt (mark ▸ deep)

theorem heldAbove_step (regulated : Regulated config world.connection.feed world.Judges)
    (held : HeldAbove config.highWatermark world.connection.feed) (step : FeedStep world world') :
    HeldAbove config.highWatermark world'.connection.feed := by
  cases step with
  | aside net woken feed judges =>
    rw [feed]
    exact held
  | subscribe feed judges =>
    rw [feed, HeldAbove, EventFeed.deepest_subscribe]
    exact held
  | publish batch feed judges =>
    rw [feed, EventFeed.publish]
    split
    · exact held
    · exact heldAbove_applyPolicy regulated.high
  | close feed judges =>
    rw [feed, EventFeed.close]
    split
    · exact held
    · rintro ⟨⟩
  | pop id feed judges =>
    rw [feed]
    obtain same | ⟨rest, changed⟩ := world.connection.feed.pop_eq id
    · rw [same]
      exact held
    · have depths : (world.connection.feed.update id fun s => { s with queue := rest }).depths =
          world.connection.feed.depths := EventFeed.depths_update id (fun _ => rfl) fun _ => rfl
      rw [changed, HeldAbove, EventFeed.deepest_of_depths depths]
      exact held
  | drop id feed judges =>
    rw [feed, EventFeed.drop]
    split
    · exact heldAbove_applyPolicy regulated.high
    · next ended =>
      intro opened
      rw [(regulated.serves opened).filter_of_ended ended]
      exact held opened
  | count id feed judges =>
    -- The policy is yet to be applied, but the largest depth has not risen.
    rw [feed]
    intro opened deep
    have falls := EventFeed.deepest_update_le (f := fun s => { s with depth := s.depth - 1 })
      (regulated.serves opened) id fun s => Nat.sub_le _ _
    exact held opened (deep.trans_le falls)
  | judge feed =>
    rw [feed]
    exact heldAbove_applyPolicy regulated.high

theorem heldAbove_play (config : Config) (ordered : config.lowWatermark < config.highWatermark)
    (moves : List Move) : HeldAbove config.highWatermark (play config moves).connection.feed := by
  refine play_induction (P := fun _ world => HeldAbove config.highWatermark world.connection.feed)
    ?_ ?_ moves
  · exact fun _ deep => absurd deep (Nat.not_lt_zero _)
  · intro moves move held
    exact heldAbove_step (regulated_play config ordered moves) held (feed_step move)

end World

/-- A user that nobody interrupts does in small steps what the feed does in one. -/
theorem Contention.run_use {state : Contention} (free : state.holder = none)
    (opened : state.feed.closed = false) (serves : state.feed.Serves) (next : FeedUse) :
    ∃ moves, state.run moves = { state with feed := state.feed.use next } := by
  obtain ⟨feed, holder, uncounted, waiting⟩ := state
  obtain rfl : holder = none := free
  cases next with
  | subscribe => exact ⟨[.subscribe], rfl⟩
  | publish batch =>
    obtain ⟨n, alone⟩ := run_publish feed uncounted waiting opened serves batch
    exact ⟨.publish batch :: List.replicate n .proceed, alone⟩
  | receive id =>
    obtain ⟨moves, alone⟩ := run_receive feed uncounted waiting serves id
    exact ⟨.receive id :: moves, alone⟩
  | drop id =>
    obtain ⟨n, alone⟩ := run_drop feed uncounted waiting serves id
    exact ⟨.drop id :: List.replicate n .proceed, alone⟩

namespace EventFeed

/-- The depth of a subscription is what was published to it since it was made, less what it has
received, and is above zero whenever a batch is counted. After every operation events are held if
the largest depth is above the high watermark and not if it is below the low one, and in between as
before. When publishers and readers come one between the other, the same is true whenever nobody
holds the lock and no reader has counted a batch and waits to apply the policy, and what is then
done with nobody in between comes to one of those operations; and so it is with the feed of a
connection, as long as it is open. -/
theorem hysteresis (high low : Nat) (ordered : low < high) :
    (∀ earlier later, let feed := (fresh high low).useAll earlier
      let id := feed.subscribe.1
      .drop id ∉ later →
      ((feed.use .subscribe).useAll later).depth id +
          (gains id (feed.use .subscribe) later).length =
        (later.filterMap FeedUse.published?).length) ∧
    (∀ uses, let feed := (fresh high low).useAll uses
      feed.deepest = (feed.subscriptions.map (·.depth)).max?.getD 0 ∧
      (∀ next, Follows high low feed (feed.use next)) ∧
      ∀ id batch popped, feed.pop id = (some (.events batch), popped) → 1 ≤ popped.depth id) ∧
    (∀ moves, let state := Contention.run { feed := fresh high low } moves
      state.holder = none →
      (high < state.feed.deepest → state.feed.flow.held = true) ∧
      (state.waiting = 0 → state.feed.deepest < low → state.feed.flow.held = false) ∧
      ∀ next, ∃ more, state.run more = { state with feed := state.feed.use next }) ∧
    ∀ config moves, config.highWatermark = high → config.lowWatermark = low →
      let world := World.play config moves
      let feed := world.connection.feed
      feed.closed = false →
      (∀ s ∈ feed.subscriptions, s.depth = s.batches + world.uncounted.count s.id) ∧
      (high < feed.deepest → feed.flow.held = true) ∧
      (¬world.Judges → feed.deepest < low → feed.flow.held = false) := by
  have quiet (uses : List FeedUse) : ((fresh high low).useAll uses).Quiet high low :=
    (quiet_fresh high low).useAll ordered uses
  refine ⟨?_, ?_, ?_, ?_⟩
  · intro earlier later feed id kept
    have made := (quiet earlier).use ordered .subscribe
    have depth := depth_useAll ordered made.1 (find?_subscribe (quiet earlier)) kept
    exact depth.trans (Nat.zero_add _)
  · intro uses feed
    have serves := (quiet uses).tallied.serves_of_open (quiet uses).opened
    exact ⟨serves.deepest_eq_max, fun next => ((quiet uses).use ordered next).2,
      fun id batch popped taken => (quiet uses).depth_pos taken⟩
  · intro moves state free
    have obeys := Contention.obeys_run ordered moves
    exact ⟨obeys.held free, obeys.released free, Contention.run_use free obeys.opened obeys.serves⟩
  · intro config moves highMark lowMark world feed opened
    subst highMark lowMark
    refine ⟨(World.tallied_play config moves).depth,
      World.heldAbove_play config ordered moves opened, ?_⟩
    intro settled shallow
    refine Bool.eq_false_iff.mpr fun held => settled ?_
    exact (World.regulated_play config ordered moves).released opened shallow held

/-- Three batches are published, and one of them is received. -/
def fewer : List FeedUse :=
  [.publish ⟨1, 0, []⟩, .publish ⟨2, 0, []⟩, .publish ⟨3, 0, []⟩, .receive 0]

/-- A reader counts a batch after the last of three was queued, and before any depth is read. -/
def overtaken : List ContentionMove :=
  let publish : List ContentionMove := [.publish ⟨1, 0, []⟩, .proceed, .proceed, .proceed]
  let finish : List ContentionMove := [.proceed, .proceed, .judge, .proceed, .proceed]
  .subscribe :: publish ++ finish ++ publish ++ finish ++ publish ++ [.receive 0, .count 0] ++
    finish

/-- A connection whose reader has received one batch of three. -/
def lagging : World :=
  World.play { highWatermark := 2, lowWatermark := 1 } (World.flood 3 ++ World.drain 1)

/-- Three batches are published and one of them is received. The depth is then between the
watermarks, and events stay held until the subscription ends. A reader that counts its batch before
the policy reads any depth keeps events from being held at all. -/
theorem hysteresis_overtaken :
    let feed := ((fresh 2 1).use .subscribe).useAll fewer
    let state := Contention.run { feed := fresh 2 1 } overtaken
    feed.depth 0 + (gains 0 ((fresh 2 1).use .subscribe) fewer).length = 3 ∧
      (feed.flow.held = true ∧ Follows 2 1 feed (feed.use (.drop 0)) ∧
        (feed.use (.drop 0)).flow.held = false) ∧
      (state.holder = none ∧ state.waiting = 0 ∧ state.feed.flow.held = false ∧
        (state.feed.deepest < 1 → state.feed.flow.held = false)) ∧
      lagging.connection.feed.closed = false ∧ ¬lagging.Judges ∧
      lagging.connection.feed.flow.held = true ∧
      (lagging.connection.feed.deepest < 1 → lagging.connection.feed.flow.held = false) := by
  intro feed state
  obtain ⟨depths, follows, contended, connected⟩ := hysteresis 2 1 (by decide)
  have free : state.holder = none := by decide +kernel
  have settled : state.waiting = 0 := by decide +kernel
  have opened : lagging.connection.feed.closed = false := by decide +kernel
  have judged : ¬lagging.Judges := by decide +kernel
  refine ⟨depths [] fewer (by decide), ?_, ?_, opened, judged, by decide +kernel, ?_⟩
  · refine ⟨by decide +kernel, ?_, by decide +kernel⟩
    exact (follows (.subscribe :: fewer)).2.1 (.drop 0)
  · exact ⟨free, settled, by decide +kernel, (contended overtaken free).2.1 settled⟩
  · exact (connected { highWatermark := 2, lowWatermark := 1 } _ rfl rfl opened).2.2 judged

end EventFeed

end DebugLink
