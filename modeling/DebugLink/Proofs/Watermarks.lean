import DebugLink.Proofs.Feed
import DebugLink.Proofs.Layout

/-!
# Watermarks: when held events are released

The policy is applied to the largest depth after everything that changes a depth, but a caller that
has counted a batch does so only in its next step. So on an open feed nobody is held below the low
watermark, unless somebody judges (`Regulated`).

Events are released below the low watermark, and no depth is below zero. With a low watermark of
zero, which the settings may have, a feed that once held events holds them for good: `flood` fills a
queue beyond the high watermark, and when its subscription ends nothing is released.

Main statement: `released_iff`.
-/

namespace DebugLink

theorem Config.watermarks_of_valid {config : Config} (accepted : config.validate = .ok ()) :
    config.lowWatermark < config.highWatermark := by
  unfold validate at accepted
  split at accepted
  · cases accepted
  · split at accepted
    · cases accepted
    · omega

namespace FlowControl

variable {flow : FlowControl} {depth : Nat}

theorem marks_onDepth :
    (flow.onDepth depth).high = flow.high ∧ (flow.onDepth depth).low = flow.low := by
  unfold onDepth
  repeat' split
  all_goals exact ⟨rfl, rfl⟩

theorem held_onDepth_of_gt (high : flow.high < depth) : (flow.onDepth depth).held = true := by
  unfold onDepth
  rw [if_pos high]
  split
  · next held => exact held
  · rfl

theorem held_onDepth_of_lt (ordered : flow.low ≤ flow.high) (low : depth < flow.low) :
    (flow.onDepth depth).held = false := by
  unfold onDepth
  rw [if_neg (by omega), if_pos low]
  split
  · rfl
  · next free => exact Bool.eq_false_iff.mpr free

theorem onDepth_of_between (high : depth ≤ flow.high) (low : flow.low ≤ depth) :
    flow.onDepth depth = flow := by
  unfold onDepth
  rw [if_neg (by omega), if_neg (by omega)]

end FlowControl

namespace EventFeed

variable {feed : EventFeed}

/-- The depths of the registered subscriptions. -/
def depths (feed : EventFeed) : List Nat :=
  feed.registered.map (·.depth)

theorem deepest_eq_foldl : feed.deepest = feed.depths.foldl max 0 := by
  rw [deepest, depths, List.foldl_map]

theorem deepest_of_depths {feed' : EventFeed} (depths : feed'.depths = feed.depths) :
    feed'.deepest = feed.deepest := by
  rw [deepest_eq_foldl, deepest_eq_foldl, depths]

theorem deepest_eq_zero (empty : ∀ s ∈ feed.subscriptions, s.depth = 0) : feed.deepest = 0 := by
  have zeros : feed.depths = List.replicate feed.registered.length 0 := by
    rw [List.eq_replicate_iff]
    refine ⟨List.length_map _, fun depth mem => ?_⟩
    obtain ⟨s, registered, rfl⟩ := List.mem_map.mp mem
    exact empty s (List.mem_filter.mp registered).1
  rw [deepest_eq_foldl, zeros]
  induction feed.registered.length with
  | zero => rfl
  | succ n ih => exact ih

/-- Changing a subscription in other ways changes no depth. -/
theorem depths_update (id : SubscriptionId) {f : Subscription → Subscription}
    (depth : ∀ s, (f s).depth = s.depth) (registered : ∀ s, (f s).registered = s.registered) :
    (feed.update id f).depths = feed.depths := by
  simp only [depths, EventFeed.registered, update]
  induction feed.subscriptions with
  | nil => rfl
  | cons s subscriptions ih =>
    by_cases same : s.id = id <;> cases kept : s.registered <;>
      simp [same, kept, registered, depth, ih]

theorem pop_eq (feed : EventFeed) (id : SubscriptionId) :
    (feed.pop id).2 = feed ∨
      ∃ rest, (feed.pop id).2 = feed.update id ({ · with queue := rest }) := by
  unfold pop
  split
  · exact .inr ⟨_, rfl⟩
  · exact .inl rfl

/-- Every subscription is handed batches. -/
def Serves (feed : EventFeed) : Prop :=
  ∀ s ∈ feed.subscriptions, s.registered = true

theorem Serves.update (serves : feed.Serves) (id : SubscriptionId)
    {f : Subscription → Subscription} (registered : ∀ s, (f s).registered = s.registered) :
    (feed.update id f).Serves := by
  intro s mem
  obtain ⟨old, known, rfl⟩ := List.mem_map.mp mem
  split
  · rw [registered]
    exact serves old known
  · exact serves old known

theorem deepest_subscribe : feed.subscribe.2.deepest = feed.deepest := by
  cases closed : feed.closed <;>
    simp [deepest_eq_foldl, depths, registered, subscribe, closed, List.foldl_append]

/-- If no batches are handed to a subscription, it has ended before. -/
theorem Serves.filter_of_ended (serves : feed.Serves) {id : SubscriptionId}
    (ended : ¬(feed.find? id).any (·.registered)) :
    feed.subscriptions.filter (·.id != id) = feed.subscriptions := by
  rw [List.filter_eq_self]
  intro s mem
  cases found : feed.find? id with
  | none => simpa using List.find?_eq_none.mp found s mem
  | some last =>
    have registered := serves last (List.mem_of_find?_eq_some found)
    simp [found, registered] at ended

end EventFeed

namespace World

variable {config : Config} {world : World}

/-- The settings of the flow control stay, an open feed hands batches to all its subscriptions, and
below the low watermark it holds no events, unless somebody judges. -/
structure Regulated (config : Config) (feed : EventFeed) (judges : Prop) : Prop where
  high : feed.flow.high = config.highWatermark
  low : feed.flow.low = config.lowWatermark
  serves : feed.closed = false → feed.Serves
  released : feed.closed = false → feed.deepest < config.lowWatermark → feed.flow.held = true →
    judges

namespace Regulated

variable {feed : EventFeed} {judges judges' : Prop}

theorem applyPolicy (high : feed.flow.high = config.highWatermark)
    (low : feed.flow.low = config.lowWatermark)
    (serves : feed.closed = false → feed.Serves)
    (ordered : config.lowWatermark < config.highWatermark) :
    Regulated config feed.applyPolicy judges where
  high := FlowControl.marks_onDepth.1.trans high
  low := FlowControl.marks_onDepth.2.trans low
  serves := serves
  released := by
    intro _ shallow held
    have free : (feed.flow.onDepth feed.deepest).held = false :=
      FlowControl.held_onDepth_of_lt (by omega) (by rw [low]; exact shallow)
    rw [EventFeed.applyPolicy, free] at held
    cases held

/-- A closed feed hands nothing out. -/
theorem of_closed (high : feed.flow.high = config.highWatermark)
    (low : feed.flow.low = config.lowWatermark) (closed : feed.closed = true) :
    Regulated config feed judges where
  high := high
  low := low
  serves := fun opened => absurd (closed.symm.trans opened) (by simp)
  released := fun opened => absurd (closed.symm.trans opened) (by simp)

theorem imp (regulated : Regulated config feed judges) (still : judges → judges') :
    Regulated config feed judges' :=
  { regulated with
    released := fun opened shallow held => still (regulated.released opened shallow held) }

/-- Changing a subscription otherwise than in its depth. -/
theorem update (regulated : Regulated config feed judges) (id : SubscriptionId)
    {f : Subscription → Subscription} (depth : ∀ s, (f s).depth = s.depth)
    (registered : ∀ s, (f s).registered = s.registered) :
    Regulated config (feed.update id f) judges where
  high := regulated.high
  low := regulated.low
  serves := fun opened => (regulated.serves opened).update id registered
  released := by
    rw [EventFeed.deepest_of_depths (EventFeed.depths_update id depth registered)]
    exact regulated.released

end Regulated

/-- Every move keeps the feed regulated. -/
theorem Regulated.step {world' : World}
    (regulated : Regulated config world.connection.feed world.Judges)
    (ordered : config.lowWatermark < config.highWatermark) (step : FeedStep world world') :
    Regulated config world'.connection.feed world'.Judges := by
  cases step with
  | aside net woken feed judges =>
    rw [feed]
    exact ⟨regulated.high, regulated.low, regulated.serves, (regulated.imp judges).released⟩
  | subscribe feed judges =>
    rw [feed]
    refine ⟨regulated.high, regulated.low, fun opened s mem => ?_, ?_⟩
    · have opened : world.connection.feed.closed = false := opened
      obtain old | new := List.mem_append.mp mem
      · exact regulated.serves opened s old
      · simp [List.mem_singleton.mp new, opened]
    · rw [EventFeed.deepest_subscribe]
      exact (regulated.imp judges).released
  | publish batch feed judges =>
    rw [feed, EventFeed.publish]
    split
    · exact regulated.imp judges
    · refine .applyPolicy regulated.high regulated.low (fun opened s mem => ?_) ordered
      obtain ⟨old, known, rfl⟩ := List.mem_map.mp mem
      have registered := regulated.serves opened old known
      rw [if_pos registered]
      exact registered
  | close feed judges =>
    rw [feed, EventFeed.close]
    split
    · next closed => exact .of_closed regulated.high regulated.low closed
    · exact .of_closed regulated.high regulated.low rfl
  | pop id feed judges =>
    rw [feed]
    obtain same | ⟨rest, changed⟩ := world.connection.feed.pop_eq id
    · rw [same]
      exact regulated.imp judges
    · rw [changed]
      exact (regulated.imp judges).update id (fun _ => rfl) fun _ => rfl
  | drop id feed judges =>
    rw [feed, EventFeed.drop]
    split
    · exact .applyPolicy regulated.high regulated.low
        (fun opened s mem => regulated.serves opened s (List.mem_filter.mp mem).1) ordered
    · next ended =>
      rcases world.connection.feed.closed.eq_false_or_eq_true with closed | opened
      · exact .of_closed regulated.high regulated.low closed
      · rw [(regulated.serves opened).filter_of_ended ended]
        exact regulated.imp judges
  | count id feed judges =>
    rw [feed]
    exact ⟨regulated.high, regulated.low,
      fun opened => (regulated.serves opened).update id fun _ => rfl, fun _ _ _ => judges⟩
  | judge feed =>
    rw [feed]
    exact .applyPolicy regulated.high regulated.low regulated.serves ordered

theorem regulated_play (config : Config) (ordered : config.lowWatermark < config.highWatermark)
    (moves : List Move) :
    Regulated config (play config moves).connection.feed (play config moves).Judges := by
  refine play_induction (P := fun _ world => Regulated config world.connection.feed world.Judges)
    ⟨rfl, rfl, ?_, fun _ _ => by simp [ofConfig, connection, Connection.ofConfig]⟩ ?_ moves
  · intro _ s mem
    simp [ofConfig, connection, Connection.ofConfig] at mem
  · intro moves move regulated
    exact regulated.step ordered (feed_step move)

/-- The feed is open, every subscription has received all that was published to it, and nobody is
in the middle of a reception. -/
structure Drained (world : World) : Prop where
  opened : world.connection.feed.closed = false
  settled : ¬world.Judges
  empty : ∀ s ∈ world.connection.feed.subscriptions, s.depth = 0

instance : Decidable (Drained world) :=
  decidable_of_iff (world.connection.feed.closed = false ∧ ¬world.Judges ∧
    ∀ s ∈ world.connection.feed.subscriptions, s.depth = 0)
    ⟨fun ⟨opened, settled, empty⟩ => ⟨opened, settled, empty⟩,
      fun drained => ⟨drained.opened, drained.settled, drained.empty⟩⟩

/-! ## A low watermark of zero -/

/-- A packet of events. -/
def bulletin : Bytes :=
  CommandPacket.encode ⟨1, Command.events, 100, [0]⟩

/-- A subscription is made, and batches are published. -/
def flood : Nat → List Move
  | 0 => [.start .subscribe]
  | n + 1 => flood n ++ [.receive (.frame bulletin)] ++ [.performDispatcher]

/-- The dispatcher reads, and the one subscription has not received any of the batches. -/
structure Flooded (config : Config) (n : Nat) (world : World) : Prop where
  reading : world.engine.dispatcher = .reading
  idle : world.engine.dispatcherWork = []
  rests : world.activities = [{}]
  feed : ∃ queue, world.connection.feed.subscriptions = [⟨0, queue, n, true⟩]
  opened : world.connection.feed.closed = false
  high : world.connection.feed.flow.high = config.highWatermark
  low : world.connection.feed.flow.low = config.lowWatermark
  held : config.highWatermark < n → world.connection.feed.flow.held = true

theorem accept_bulletin (connection : Connection) :
    connection.accept bulletin = ([.publish ⟨1, 0, []⟩], connection) := by
  have read : Packet.decode bulletin = .ok (.command ⟨1, Command.events, 100, [0]⟩) := by
    rw [bulletin, CommandPacket.encode, Packet.decode_layout, if_neg (by decide),
      if_neg (by decide)]
  rw [Connection.accept, read]
  rfl

theorem Flooded.step {n : Nat} (flooded : Flooded config n world) :
    Flooded config (n + 1)
      ((world.step (.receive (.frame bulletin))).step .performDispatcher) := by
  obtain ⟨queue, only⟩ := flooded.feed
  have read : (world.step (.receive (.frame bulletin))).engine =
      { world.engine with
        connection := world.connection.report (.frameReceived bulletin)
        dispatcherWork := [.publish ⟨1, 0, []⟩] } := by
    simp only [World.step, record, Engine.received, flooded.reading, flooded.idle, and_self,
      if_true, accept_bulletin]
    rfl
  have published : world.connection.feed.publish ⟨1, 0, []⟩ =
      { world.connection.feed with
        subscriptions := [⟨0, queue ++ [.events ⟨1, 0, []⟩], n + 1, true⟩]
        flow := world.connection.feed.flow.onDepth (n + 1) } := by
    simp [EventFeed.publish, flooded.opened, only, Subscription.push, EventFeed.applyPolicy,
      EventFeed.deepest, EventFeed.registered]
  have engine : ((world.step (.receive (.frame bulletin))).step .performDispatcher).engine =
      { world.engine with
        connection := { world.connection.report (.frameReceived bulletin) with
          feed := world.connection.feed.publish ⟨1, 0, []⟩ }
        dispatcherWork := [] } := by
    show (world.step (.receive (.frame bulletin))).engine.performDispatcher = _
    rw [read]
    rfl
  constructor
  · rw [engine]
    exact flooded.reading
  · rw [engine]
  · exact flooded.rests
  · exact ⟨_, by rw [connection, engine, published]⟩
  · rw [connection, engine, published]
    exact flooded.opened
  · rw [connection, engine, published]
    exact FlowControl.marks_onDepth.1.trans flooded.high
  · rw [connection, engine, published]
    exact FlowControl.marks_onDepth.2.trans flooded.low
  · intro high
    rw [connection, engine, published]
    exact FlowControl.held_onDepth_of_gt (flooded.high ▸ high)

/-- When the subscription ends nothing is released, for no depth is below zero. -/
theorem Flooded.ended {n : Nat} (flooded : Flooded config n world)
    (zero : config.lowWatermark = 0) :
    let ended := world.step (.start (.unsubscribe 0))
    Drained ended ∧ ended.connection.feed.flow = world.connection.feed.flow := by
  intro ended
  obtain ⟨queue, only⟩ := flooded.feed
  have flow : world.connection.feed.flow.onDepth 0 = world.connection.feed.flow :=
    FlowControl.onDepth_of_between (Nat.zero_le _) (Nat.le_of_eq (flooded.low.trans zero))
  have feed : ended.connection.feed = { world.connection.feed with subscriptions := [] } := by
    show world.connection.feed.drop 0 = _
    simp [EventFeed.drop, EventFeed.find?, only, EventFeed.applyPolicy, EventFeed.deepest,
      EventFeed.registered, flow]
  have activities : ended.activities = [{}, {}] := by
    show world.activities ++ [({} : Activity)] = _
    rw [flooded.rests]
    rfl
  refine ⟨⟨by rw [feed]; exact flooded.opened, ?_, by simp [feed]⟩, by rw [feed]⟩
  simp [Judges, activities, Stage.judges]

theorem flooded_play (config : Config) (n : Nat) :
    Flooded config n (play config (flood n)) := by
  induction n with
  | zero => exact ⟨rfl, rfl, rfl, ⟨_, rfl⟩, rfl, rfl, rfl, fun high => by omega⟩
  | succ n ih =>
    rw [flood, play_append, play_append]
    exact ih.step

/-- Events that are held when all queues are drained are released, just if the low watermark is
not zero. -/
theorem released_iff (config : Config) (accepted : config.validate = .ok ()) :
    (∀ moves, Drained (play config moves) →
      (play config moves).connection.feed.flow.held = false) ↔ 0 < config.lowWatermark := by
  constructor
  · intro released
    by_contra zero
    have flooded := flooded_play config (config.highWatermark + 1)
    obtain ⟨drained, flow⟩ := flooded.ended (Nat.eq_zero_of_not_pos zero)
    rw [← play_append] at drained flow
    have free := released _ drained
    rw [flow, flooded.held (Nat.lt_succ_self _)] at free
    cases free
  · intro low moves drained
    refine Bool.eq_false_iff.mpr fun held => drained.settled ?_
    have ordered := Config.watermarks_of_valid accepted
    refine (regulated_play config ordered moves).released drained.opened ?_ held
    rw [EventFeed.deepest_eq_zero drained.empty]
    exact low

/-- As many batches are received, one after the other. -/
def drain (n : Nat) : List Move :=
  (List.range n).flatMap fun k =>
    [.start (.receive 0), .advance (k + 1) .task, .advance (k + 1) .task]

theorem released_iff_drain :
    let config : Config := { highWatermark := 2, lowWatermark := 1 }
    config.validate = .ok () ∧ (play config (flood 3)).connection.feed.flow.held = true ∧
      Drained (play config (flood 3 ++ drain 3)) ∧
      (play config (flood 3 ++ drain 3)).connection.feed.flow.held = false := by
  intro config
  have accepted : config.validate = .ok () := rfl
  have drained : Drained (play config (flood 3 ++ drain 3)) := by decide +kernel
  exact ⟨accepted, by decide +kernel, drained,
    (released_iff config accepted).mpr (by decide) _ drained⟩

theorem not_released_drain :
    let config : Config := { highWatermark := 1, lowWatermark := 0 }
    config.validate = .ok () ∧ Drained (play config (flood 2 ++ drain 2)) ∧
      (play config (flood 2 ++ drain 2)).connection.feed.flow.held = true := by
  exact ⟨rfl, by decide +kernel, by decide +kernel⟩

end World

end DebugLink
