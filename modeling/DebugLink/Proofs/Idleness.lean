import DebugLink.Proofs.Correlation
import DebugLink.Proofs.Fanout
import DebugLink.Proofs.Watermarks

/-!
# Idleness: when a connection that says so has nothing left to deliver

A connection is idle if nothing is pending and no depth is above zero. A depth is the number of
batches in the queue of its subscription and of those that were received and are not counted yet
(`Tallied`), so on an open feed an idle connection has delivered everything. But only the depths of
registered subscriptions are looked at, and when the feed is closed there are none left: their
queues stay, with the batches in them, until their owners have received them.

Main statement: `idle_truly_iff`.
-/

namespace DebugLink

def Delivery.isBatch : Delivery → Bool
  | .events _ => true
  | .disconnected => false

/-- The number of batches in the queue of a subscription. -/
def Subscription.batches (subscription : Subscription) : Nat :=
  subscription.queue.countP Delivery.isBatch

/-- No batch waits to be received. -/
def Subscription.CaughtUp (subscription : Subscription) : Prop :=
  ∀ delivery ∈ subscription.queue, delivery = .disconnected

instance (subscription : Subscription) : Decidable subscription.CaughtUp :=
  inferInstanceAs (Decidable (∀ delivery ∈ subscription.queue, delivery = .disconnected))

theorem Subscription.caughtUp_of_batches {subscription : Subscription}
    (none : subscription.batches = 0) : subscription.CaughtUp := by
  intro delivery mem
  have other := List.countP_eq_zero.mp none delivery mem
  cases delivery with
  | events batch => exact absurd rfl other
  | disconnected => rfl

namespace EventFeed

variable {feed : EventFeed}

/-! ## Depths -/

theorem le_foldl_max (depths : List Nat) (init : Nat) :
    init ≤ depths.foldl max init ∧ ∀ depth ∈ depths, depth ≤ depths.foldl max init := by
  induction depths generalizing init with
  | nil => simp
  | cons depth depths ih =>
    obtain ⟨least, most⟩ := ih (max init depth)
    rw [List.foldl_cons, List.forall_mem_cons]
    refine ⟨?_, ?_, most⟩
    · omega
    · omega

/-- No depth that the feed looks at is above the largest. -/
theorem depth_le_deepest {s : Subscription} (mem : s ∈ feed.subscriptions)
    (registered : s.registered = true) : s.depth ≤ feed.deepest := by
  rw [deepest_eq_foldl]
  refine (le_foldl_max feed.depths 0).2 _ (List.mem_map.mpr ⟨s, ?_, rfl⟩)
  exact List.mem_filter.mpr ⟨mem, registered⟩

theorem deepest_of_none (none : ∀ s ∈ feed.subscriptions, s.registered = false) :
    feed.deepest = 0 := by
  have empty : feed.registered = [] := by
    rw [EventFeed.registered, List.filter_eq_nil_iff]
    intro s mem registered
    rw [none s mem] at registered
    cases registered
  rw [deepest_eq_foldl, depths, empty]
  rfl

/-- An open feed hands batches to all its subscriptions and a closed one to none, and the depth of
a subscription is what is in its queue or was received from it and is not counted. -/
structure Tallied (feed : EventFeed) (uncounted : List SubscriptionId) : Prop where
  distinct : (feed.subscriptions.map (·.id)).Nodup
  made : ∀ s ∈ feed.subscriptions, s.id < feed.next
  counted : ∀ id ∈ uncounted, id < feed.next
  serves : ∀ s ∈ feed.subscriptions, s.registered = !feed.closed
  depth : ∀ s ∈ feed.subscriptions, s.depth = s.batches + uncounted.count s.id

namespace Tallied

variable {uncounted uncounted' : List SubscriptionId} {id : SubscriptionId}

/-- Two subscriptions of one identity are one. -/
theorem inj (tallied : feed.Tallied uncounted) {s t : Subscription}
    (mem : s ∈ feed.subscriptions) (mem' : t ∈ feed.subscriptions) (same : s.id = t.id) : s = t :=
  List.inj_on_of_nodup_map tallied.distinct mem mem' same

/-- All subscriptions are changed, and keep their identities. -/
theorem map (tallied : feed.Tallied uncounted) {f : Subscription → Subscription}
    {flow : FlowControl} {closed : Bool} (ids : ∀ s, (f s).id = s.id)
    (serves : ∀ s ∈ feed.subscriptions, (f s).registered = !closed)
    (counted : ∀ id ∈ uncounted', id < feed.next)
    (depth : ∀ s ∈ feed.subscriptions, (f s).depth = (f s).batches + uncounted'.count s.id) :
    Tallied ⟨flow, feed.subscriptions.map f, feed.next, closed⟩ uncounted' where
  distinct := by
    have same : (feed.subscriptions.map f).map (·.id) = feed.subscriptions.map (·.id) := by
      rw [List.map_map]
      exact List.map_congr_left fun s _ => ids s
    rw [same]
    exact tallied.distinct
  made := by
    intro s mem
    obtain ⟨old, known, rfl⟩ := List.mem_map.mp mem
    rw [ids]
    exact tallied.made old known
  counted := counted
  serves := by
    intro s mem
    obtain ⟨old, known, rfl⟩ := List.mem_map.mp mem
    exact serves old known
  depth := by
    intro s mem
    obtain ⟨old, known, rfl⟩ := List.mem_map.mp mem
    rw [ids]
    exact depth old known

/-- One subscription is changed. -/
theorem update (tallied : feed.Tallied uncounted) (id : SubscriptionId)
    {f : Subscription → Subscription} (ids : ∀ s, (f s).id = s.id)
    (registered : ∀ s, (f s).registered = s.registered)
    (counted : ∀ id ∈ uncounted', id < feed.next)
    (others : ∀ other, other ≠ id → uncounted'.count other = uncounted.count other)
    (depth : ∀ s ∈ feed.subscriptions, s.id = id →
      (f s).depth = (f s).batches + uncounted'.count id) :
    (feed.update id f).Tallied uncounted' := by
  refine tallied.map (fun s => ?_) (fun s mem => ?_) counted fun s mem => ?_
  · split
    · exact ids s
    · rfl
  · split
    · rw [registered]
      exact tallied.serves s mem
    · exact tallied.serves s mem
  · split
    · next same =>
      rw [same]
      exact depth s mem same
    · next differs =>
      rw [others s.id differs]
      exact tallied.depth s mem

theorem subscribe (tallied : feed.Tallied uncounted) : feed.subscribe.2.Tallied uncounted := by
  obtain ⟨fresh, all, own, serves, empty⟩ : ∃ fresh : Subscription,
      feed.subscribe.2.subscriptions = feed.subscriptions ++ [fresh] ∧ fresh.id = feed.next ∧
        fresh.registered = !feed.closed ∧ fresh.depth = 0 ∧ fresh.batches = 0 := by
    cases closed : feed.closed with
    | false =>
      exact ⟨{ id := feed.next }, by simp [EventFeed.subscribe, closed], rfl, rfl, rfl, rfl⟩
    | true =>
      exact ⟨{ id := feed.next, queue := [.disconnected], registered := false },
        by simp [EventFeed.subscribe, closed], rfl, rfl, rfl, rfl⟩
  -- An identity that nobody has had is not to be counted.
  have untold : uncounted.count feed.next = 0 := by
    refine List.count_eq_zero.mpr fun mem => ?_
    exact absurd (tallied.counted _ mem) (Nat.lt_irrefl _)
  constructor
  · rw [all, List.map_append, List.map_singleton, own]
    refine List.Nodup.append tallied.distinct (List.nodup_singleton _) fun id old new => ?_
    obtain ⟨s, mem, rfl⟩ := List.mem_map.mp old
    have before := tallied.made s mem
    rw [List.mem_singleton.mp new] at before
    exact Nat.lt_irrefl _ before
  · rw [all, List.forall_mem_append, List.forall_mem_singleton]
    refine ⟨fun s mem => Nat.lt_succ_of_lt (tallied.made s mem), ?_⟩
    rw [own]
    exact Nat.lt_succ_self _
  · exact fun id mem => Nat.lt_succ_of_lt (tallied.counted id mem)
  · rw [all, List.forall_mem_append, List.forall_mem_singleton]
    exact ⟨tallied.serves, serves⟩
  · rw [all, List.forall_mem_append, List.forall_mem_singleton]
    refine ⟨tallied.depth, ?_⟩
    rw [own, untold, empty.1, empty.2]

theorem publish (tallied : feed.Tallied uncounted) (batch : EventBatch) :
    (feed.publish batch).Tallied uncounted := by
  rw [EventFeed.publish]
  split
  · exact tallied
  · next opened =>
    have opened : feed.closed = false := Bool.eq_false_iff.mpr opened
    refine tallied.map (fun s => ?_) (fun s mem => ?_) tallied.counted fun s mem => ?_
    · split <;> rfl
    · split
      · exact tallied.serves s mem
      · exact tallied.serves s mem
    · have registered : s.registered = true := by
        rw [tallied.serves s mem, opened]
        rfl
      have more : (s.push batch).batches = s.batches + 1 := List.countP_append
      rw [if_pos registered, more]
      show s.depth + 1 = _
      have depth := tallied.depth s mem
      omega

theorem close (tallied : feed.Tallied uncounted) : feed.close.Tallied uncounted := by
  rw [EventFeed.close]
  split
  · exact tallied
  · refine tallied.map (fun s => ?_) (fun s mem => ?_) tallied.counted fun s mem => ?_
    · split <;> rfl
    · split
      · rfl
      · next ended => exact Bool.eq_false_iff.mpr ended
    · split
      · have same : Subscription.batches
            { s with queue := s.queue ++ [.disconnected], registered := false } = s.batches :=
          List.countP_append
        rw [same]
        exact tallied.depth s mem
      · exact tallied.depth s mem

theorem drop (tallied : feed.Tallied uncounted) (id : SubscriptionId) :
    (feed.drop id).Tallied uncounted := by
  have left : Tallied
      { feed with subscriptions := feed.subscriptions.filter (·.id != id) } uncounted :=
    { distinct := (List.filter_sublist.map _).nodup tallied.distinct
      made := fun s mem => tallied.made s (List.mem_filter.mp mem).1
      counted := tallied.counted
      serves := fun s mem => tallied.serves s (List.mem_filter.mp mem).1
      depth := fun s mem => tallied.depth s (List.mem_filter.mp mem).1 }
  rw [EventFeed.drop]
  split
  · exact ⟨left.distinct, left.made, left.counted, left.serves, left.depth⟩
  · exact left

/-- What is taken out of a queue is to be counted, if it is a batch. -/
theorem pop (tallied : feed.Tallied uncounted) (id : SubscriptionId) :
    (feed.pop id).2.Tallied (uncounted ++ (Delivery.counts id (feed.pop id).1).toList) := by
  rw [EventFeed.pop]
  split
  · next delivery rest found =>
    obtain ⟨s, known, queue⟩ := Option.map_eq_some_iff.mp found
    have mem : s ∈ feed.subscriptions := List.mem_of_find?_eq_some known
    have own : s.id = id := by simpa using List.find?_some known
    have before := tallied.depth s mem
    dsimp only
    generalize toCount : (Delivery.counts id (some delivery)).toList = more
    obtain ⟨only, batches⟩ : (∀ other ∈ more, other = id) ∧
        s.batches = rest.countP Delivery.isBatch + more.count id := by
      rw [Subscription.batches, queue, ← toCount]
      cases delivery with
      | events batch =>
        rw [List.countP_cons_of_pos rfl]
        simp [Delivery.counts]
      | disconnected =>
        rw [List.countP_cons_of_neg (by simp [Delivery.isBatch])]
        simp [Delivery.counts]
    refine tallied.update id (fun _ => rfl) (fun _ => rfl) (fun other waits => ?_)
      (fun other differs => ?_) fun t mem' same => ?_
    · obtain old | new := List.mem_append.mp waits
      · exact tallied.counted other old
      · rw [only other new, ← own]
        exact tallied.made s mem
    · have none : more.count other = 0 :=
        List.count_eq_zero.mpr fun mem => differs (only other mem)
      rw [List.count_append, none, Nat.add_zero]
    · obtain rfl := tallied.inj mem' mem (same.trans own.symm)
      rw [List.count_append]
      show t.depth = rest.countP Delivery.isBatch + _
      rw [own] at before
      omega
  · show Tallied feed (uncounted ++ [])
    rw [List.append_nil]
    exact tallied

/-- A batch that was to be counted is counted. -/
theorem count (tallied : feed.Tallied uncounted) (id : SubscriptionId)
    (counts : uncounted.Perm (id :: uncounted')) : (feed.countReceived id).Tallied uncounted' := by
  refine tallied.update id (fun _ => rfl) (fun _ => rfl) (fun other mem => ?_)
    (fun other differs => ?_) fun s mem same => ?_
  · exact tallied.counted other (counts.mem_iff.mpr (List.mem_cons_of_mem _ mem))
  · rw [counts.count_eq, List.count_cons_of_ne differs.symm]
  · have before := tallied.depth s mem
    rw [same, counts.count_eq, List.count_cons_self] at before
    show s.depth - 1 = s.batches + _
    omega

end Tallied

/-- If no depth of an open feed is above zero, no batch waits to be received. -/
theorem Tallied.caughtUp {uncounted : List SubscriptionId} (tallied : feed.Tallied uncounted)
    (opened : feed.closed = false) (shallow : feed.deepest = 0) :
    ∀ s ∈ feed.subscriptions, s.CaughtUp := by
  intro s mem
  have registered : s.registered = true := by
    rw [tallied.serves s mem, opened]
    rfl
  have most := depth_le_deepest mem registered
  have depth := tallied.depth s mem
  exact Subscription.caughtUp_of_batches (by omega)

end EventFeed

namespace World

variable {world world' : World} {move : Move} {entries : List Entry}

/-- Every move keeps the tally. -/
theorem tallied_turn (turn : FeedTurn world move entries world')
    (tallied : world.connection.feed.Tallied world.uncounted) :
    world'.connection.feed.Tallied world'.uncounted := by
  cases turn with
  | aside f turn aloof feed callers =>
    rw [feed, callers.uncounted]
    exact ⟨tallied.distinct, tallied.made, tallied.counted, tallied.serves, tallied.depth⟩
  | subscribe starts told feed callers =>
    rw [feed, callers.uncounted]
    exact tallied.subscribe
  | publish batch others told feed callers =>
    rw [feed, callers.uncounted]
    exact tallied.publish batch
  | close others told feed callers =>
    rw [feed, callers.uncounted]
    exact tallied.close
  | pop id starts told feed judges uncounted =>
    rw [feed, uncounted]
    exact tallied.pop id
  | drop id starts told feed callers =>
    rw [feed, callers.uncounted]
    exact tallied.drop id
  | count id aloof feed judges uncounted =>
    rw [feed]
    exact tallied.count id uncounted
  | judge aloof feed uncounted =>
    rw [feed, uncounted]
    exact ⟨tallied.distinct, tallied.made, tallied.counted, tallied.serves, tallied.depth⟩

theorem tallied_play (config : Config) (moves : List Move) :
    (play config moves).connection.feed.Tallied (play config moves).uncounted := by
  refine play_induction (P := fun _ world => world.connection.feed.Tallied world.uncounted)
    ?_ ?_ moves
  · exact ⟨List.nodup_nil, by simp [ofConfig, connection, Connection.ofConfig],
      by simp [ofConfig, uncounted], by simp [ofConfig, connection, Connection.ofConfig],
      by simp [ofConfig, connection, Connection.ofConfig]⟩
  · intro moves move tallied
    obtain ⟨entries, -, turn⟩ := @feed_turn (play config moves) move
    exact tallied_turn turn tallied

/-! ## A closed feed -/

end World

/-- Whether a piece of work is one of the last of a teardown. -/
def Work.ofTeardown : Work → Bool
  | .clearDisposals | .closeFeed | .markClosed | .queueClose => true
  | _ => false

namespace Connection

variable {connection : Connection}

theorem ofTeardown_evicted {command : Command} {work : Work}
    (mem : work ∈ connection.evicted command) : work.ofTeardown = false := by
  obtain ⟨values, rfl⟩ := mem_evicted mem
  rfl

theorem ofTeardown_issue (command : Command) (data : Bytes) :
    ∀ work ∈ (connection.issue command data).2.1, work.ofTeardown = false := by
  rcases connection.dead.eq_false_or_eq_true with dead | live
  · simp [issue_of_dead dead]
  · rcases connection.outboundOpen.eq_false_or_eq_true with accepts | refuses
    · rw [issue_of_open live accepts]
      intro work mem
      rcases List.mem_append.mp mem with evicted | counted
      · exact ofTeardown_evicted evicted
      · rw [List.mem_singleton.mp counted]
        rfl
    · rw [issue_of_closed live refuses]
      exact fun work mem => ofTeardown_evicted mem

/-- Only a teardown leaves the last pieces of one behind. -/
theorem ofTeardown_perform {work : Work} (other : work ≠ .disconnect) :
    ∀ left ∈ (connection.perform work).1, left.ofTeardown = false := by
  cases work <;> simp only [perform, Connection.reclaim]
  case replied reply => simp only [replied]; split <;> simp [Work.ofTeardown]
  case abandon => split <;> simp [Work.ofTeardown]
  case release => split <;> simp [Work.ofTeardown]
  case reclaim => split <;> simp [Work.ofTeardown]
  case queueDisposal => split <;> simp [Work.ofTeardown]
  case flush => split <;> simp [Work.ofTeardown]
  case sendBatch => split <;> simp [Work.ofTeardown]
  case close => split <;> simp [Work.ofTeardown]
  case dispose payload => exact ofTeardown_issue .disposeObjects payload
  case disconnect => exact absurd rfl other
  case discard values =>
    intro left mem
    obtain ⟨lease, -, rfl⟩ := List.mem_map.mp mem
    rfl
  all_goals simp

end Connection

namespace World

/-- Whoever leaves the last pieces of a teardown behind leaves the connection dead. -/
theorem dead_of_left {engine : Engine} {used left : List Work} {entries : List Entry}
    {after : Connection} (deed : Deed engine used entries left after) {work : Work}
    (mem : work ∈ left) (last : work.ofTeardown = true) : after.dead = true := by
  have no_last {P : Prop} (other : work.ofTeardown = false) : P := by
    rw [other] at last
    cases last
  cases deed with
  | perform work' =>
    by_cases teardown : work' = .disconnect
    · rw [teardown]
      exact dead_perform_disconnect engine.connection
    · exact no_last (Connection.ofTeardown_perform teardown work mem)
  | issue command data notices => exact no_last (Connection.ofTeardown_issue _ _ work mem)
  | adopt notices idSizes handles feed plain arrive =>
    have arrives := arrive work mem
    refine no_last ?_
    cases work <;> first | rfl | cases arrives
  | fail failure notices writing =>
    simp only [List.mem_cons, List.not_mem_nil, or_false] at mem
    obtain rfl | rfl := mem <;> exact no_last rfl
  | drain draining idle =>
    obtain ⟨message, -, mem⟩ := List.mem_flatMap.mp mem
    cases message with
    | frame id bytes =>
      rw [List.mem_singleton.mp mem] at no_last
      exact no_last rfl
    | close => cases mem
  | store n key stamp value =>
    rw [List.mem_singleton.mp mem] at no_last
    exact no_last rfl
  | invalidate =>
    obtain ⟨values, rfl⟩ := Connection.mem_invalidate mem
    exact no_last rfl
  | _ => cases mem

/-- The last pieces of a teardown wait, or are performed, only once the connection is dead. -/
structure Parted (world : World) : Prop where
  waits : ∀ work ∈ world.works, work.ofTeardown = true → world.connection.dead = true
  performed : ∀ work, .performed work ∈ world.journal → work.ofTeardown = true →
    world.connection.dead = true

theorem parted_play (config : Config) (moves : List Move) : Parted (play config moves) := by
  refine play_induction (P := fun _ world => Parted world) ⟨?_, ?_⟩ ?_ moves
  · simp [ofConfig, works, others]
  · simp [ofConfig]
  · intro moves move parted
    have stays := (turns_play config moves move).dead
    obtain ⟨used, entries, left, deed, journal, replaced⟩ := does_step (tidy_play config moves) move
    obtain ⟨earlier, later, before, after⟩ := replaced.works
    constructor
    · intro work mem last
      rw [after] at mem
      obtain new | old := mem_left_or mem
      · exact dead_of_left deed new last
      · exact stays (parted.waits work (before ▸ old) last)
    · intro work mem last
      rw [journal] at mem
      obtain old | new := List.mem_append.mp mem
      · exact stays (parted.performed work old last)
      · obtain ⟨rfl, -⟩ := deed.of_performed new
        refine stays (parted.waits work ?_ last)
        rw [before]
        simp

/-- A connection whose feed is closed is dead. -/
theorem dead_of_closed (config : Config) (moves : List Move)
    (closed : (play config moves).connection.feed.closed = true) :
    (play config moves).connection.dead = true := by
  obtain ⟨feedMoves, feed, sent, -⟩ := feed_play config moves
  have closes : feedMoves.any FeedMove.closes = true := by
    rw [feed, EventFeed.closed_run] at closed
    exact closed
  obtain ⟨feedMove, mem, closes⟩ := List.any_eq_true.mp closes
  have told : Delivery.disconnected ∈ (play config moves).journal.filterMap Entry.sends := by
    rw [sent]
    refine List.mem_filterMap.mpr ⟨feedMove, mem, ?_⟩
    cases feedMove <;> first | rfl | cases closes
  obtain ⟨entry, mem, sends⟩ := List.mem_filterMap.mp told
  have performed : entry = .performed .closeFeed := by
    unfold Entry.sends at sends
    split at sends
    · cases sends
    · rfl
    · cases sends
  exact (parted_play config moves).performed .closeFeed (performed ▸ mem) rfl

/-- If a connection says that it is idle then nothing is pending and no live subscription has a
batch in its queue, except that after the feed was closed the queues may still have some: then the
connection is idle whatever is in them. -/
theorem idle_truly_iff (config : Config) (moves : List Move) :
    let connection := (play config moves).connection
    (connection.idle = true →
      connection.pending = [] ∧ ∀ s ∈ connection.feed.subscriptions, s.CaughtUp) ↔
    (connection.feed.closed = true → ∀ s ∈ connection.feed.subscriptions, s.CaughtUp) := by
  intro connection
  have tallied := tallied_play config moves
  have idle : connection.idle = true ↔ connection.pending = [] ∧ connection.feed.deepest = 0 := by
    rw [Connection.idle, Bool.and_eq_true, List.isEmpty_iff, beq_iff_eq]
  constructor
  · intro truly closed
    have none : connection.feed.deepest = 0 := by
      refine EventFeed.deepest_of_none fun s mem => ?_
      rw [tallied.serves s mem, closed]
      rfl
    have pending := pending_of_dead config moves (dead_of_closed config moves closed)
    exact (truly (idle.mpr ⟨pending, none⟩)).2
  · intro received idles
    obtain ⟨pending, shallow⟩ := idle.mp idles
    refine ⟨pending, ?_⟩
    cases closed : connection.feed.closed with
    | true => exact received closed
    | false => exact tallied.caughtUp closed shallow

/-- While a batch waits the connection is not idle, and once it was received it is. -/
theorem idle_truly_iff_drain :
    (play {} (flood 1)).connection.idle = false ∧
      let connection := (play {} (flood 1 ++ drain 1)).connection
      connection.feed.closed = false ∧ connection.idle = true ∧ connection.pending = [] ∧
        ∀ s ∈ connection.feed.subscriptions, s.CaughtUp := by
  have opened : (play {} (flood 1 ++ drain 1)).connection.feed.closed = false := by
    decide +kernel
  have idle : (play {} (flood 1 ++ drain 1)).connection.idle = true := by decide +kernel
  refine ⟨by decide +kernel, opened, idle, ?_⟩
  refine (idle_truly_iff {} (flood 1 ++ drain 1)).mpr (fun closed => ?_) idle
  rw [opened] at closed
  cases closed

/-- A batch is published, and the connection is closed before it is received. -/
def bereft : List Move :=
  flood 1 ++ .start .close :: List.replicate 6 (.advance 1 .task)

theorem not_idle_truly_bereft :
    let connection := (play {} bereft).connection
    ¬(connection.idle = true →
      connection.pending = [] ∧ ∀ s ∈ connection.feed.subscriptions, s.CaughtUp) := by
  decide +kernel

end World

end DebugLink
