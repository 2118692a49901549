import DebugLink.Proofs.Issue
import DebugLink.Proofs.Tasks

/-!
# Feed: what a move does to the event feed

Batches are published and the feed is closed by pieces of work. Whatever else happens to it is done
by those who subscribe, and by requests to hold or release events, which touch nothing but the
counter and the wake-up of the flow control.

A caller that has received a batch takes it out of the depth of its subscription, and applies the
policy only in its next step. Until it has counted the batch (`uncounted`) the depth is too large by
one; then it judges (`Judges`), and what the policy says may be out of date. `FeedTurn` lists what
one move can do and what it records of it, and `feed_turn` finds it; `FeedStep` is the same without
the record.
-/

namespace DebugLink

/-- Whether an entry tells what is handed to subscriptions. -/
def Entry.ofFeed : Entry → Bool
  | .performed (.publish _) | .performed .closeFeed | .subscribed _ | .delivered .. => true
  | _ => false

/-- Whether a move is of the owner of a subscription. -/
def Move.ofFeed : Move → Bool
  | .start .subscribe | .start (.receive _) | .start (.unsubscribe _) => true
  | _ => false

namespace Connection

variable {connection : Connection}

@[simp]
theorem feed_issue (command : Command) (data : Bytes) :
    (connection.issue command data).2.2.feed = connection.feed := by
  rcases connection.dead.eq_false_or_eq_true with dead | live
  · rw [issue_of_dead dead]
  · rcases connection.outboundOpen.eq_false_or_eq_true with accepts | refuses
    · rw [issue_of_open live accepts]; rfl
    · rw [issue_of_closed live refuses]; rfl

@[simp]
theorem feed_invalidate : connection.invalidate.2.feed = connection.feed := by
  unfold invalidate
  split <;> rfl

/-- What a piece of work makes of the feed. -/
theorem feed_perform (work : Work) :
    (connection.perform work).2.feed =
      match work with
      | .publish batch => connection.feed.publish batch
      | .closeFeed => connection.feed.close
      | _ => connection.feed := by
  cases work with
  | replied reply =>
    simp only [perform, replied, take]
    split <;> (next found => obtain ⟨-, rfl⟩ := Prod.mk.inj found; rfl)
  | abandon id failure =>
    simp only [perform, take]
    split <;> (next found => obtain ⟨-, rfl⟩ := Prod.mk.inj found; rfl)
  | suspended =>
    simp only [perform, noteSuspended]
    split
    · rfl
    · split <;> rfl
  | release lease =>
    simp only [perform]
    split <;> rfl
  | reclaim object retained =>
    simp only [perform, reclaim]
    split <;> rfl
  | flush =>
    simp only [perform]
    split <;> rfl
  | sendBatch counts =>
    simp only [perform]
    split <;> rfl
  | dispose payload => exact feed_issue .disposeObjects payload
  | close =>
    simp only [perform]
    split <;> rfl
  | disconnect =>
    simp only [perform, disconnect]
    split
    · rfl
    · exact feed_invalidate
  | _ => rfl

theorem feed_store (key : String) (stamp : Stamp) (value : StoredValue) :
    (connection.store key stamp value).2.feed = connection.feed := by
  simp only [store]
  split <;> rfl

theorem feed_probe : connection.probe.2.feed = connection.feed := by
  simp only [probe]
  split <;> rfl

theorem ofFeed_issueEntries (command : Command) (data : Bytes) :
    ∀ entry ∈ connection.issueEntries command data, entry.ofFeed = false := by
  unfold issueEntries
  split <;> simp [Entry.ofFeed]

theorem feed_accept (frame : Bytes) : (connection.accept frame).2.feed = connection.feed := by
  unfold accept
  split
  · rfl
  · rfl
  · split
    · split <;> rfl
    · rfl

end Connection

theorem Call.feed_finish (call : Call) (outcome : Except Failure Bytes) (connection : Connection) :
    (call.finish outcome connection).2.2.feed = connection.feed := by
  cases call <;> simp only [Call.finish]
  case idSizes => split <;> rfl
  case suspendAll => split <;> rfl

/-- Whether a caller has counted a batch and has not applied the policy yet. -/
def Stage.judges : Stage → Bool
  | .judging => true
  | _ => false

/-- The subscription from which a caller has received a batch that it has not counted yet. -/
def Stage.counting? : Stage → Option SubscriptionId
  | .counting id => some id
  | _ => none

/-- The subscription that is to be counted for what was taken out of its queue. -/
def Delivery.counts (id : SubscriptionId) : Option Delivery → Option SubscriptionId
  | some (.events _) => some id
  | _ => none

namespace World

variable {world : World}

/-- Somebody has counted a batch and has not applied the policy yet. -/
def Judges (world : World) : Prop :=
  ∃ activity ∈ world.activities, activity.stage.judges

instance : Decidable world.Judges :=
  inferInstanceAs (Decidable (∃ activity ∈ world.activities, activity.stage.judges))

/-- The subscriptions from which a batch was received that is not counted yet, as often as there are
such batches. -/
def uncounted (world : World) : List SubscriptionId :=
  world.activities.filterMap (·.stage.counting?)

/-- The callers are where they were: who judges judges still, and the same batches are to be
counted. -/
structure Unmoved (before after : World) : Prop where
  judges : before.Judges → after.Judges
  uncounted : after.uncounted = before.uncounted

/-- What one move does to the feed. -/
inductive FeedStep (before after : World) : Prop
  /-- At most the counter and the wake-up of the flow control change. -/
  | aside (net : Int32) (woken : Bool)
    (feed : after.connection.feed = { before.connection.feed with
      flow := { before.connection.feed.flow with net, woken } })
    (judges : before.Judges → after.Judges)
  | subscribe (feed : after.connection.feed = before.connection.feed.subscribe.2)
    (judges : before.Judges → after.Judges)
  | publish (batch : EventBatch)
    (feed : after.connection.feed = before.connection.feed.publish batch)
    (judges : before.Judges → after.Judges)
  | close (feed : after.connection.feed = before.connection.feed.close)
    (judges : before.Judges → after.Judges)
  | pop (id : SubscriptionId) (feed : after.connection.feed = (before.connection.feed.pop id).2)
    (judges : before.Judges → after.Judges)
  | drop (id : SubscriptionId) (feed : after.connection.feed = before.connection.feed.drop id)
    (judges : before.Judges → after.Judges)
  | count (id : SubscriptionId)
    (feed : after.connection.feed = before.connection.feed.countReceived id)
    (judges : after.Judges)
  | judge (feed : after.connection.feed = before.connection.feed.applyPolicy)

/-- What a move of an engine can do to the flow control but apply the policy. -/
inductive FlowTurn (engine : Engine) : Move → (FlowControl → FlowControl) → Prop
  | still {move : Move} : FlowTurn engine move id
  /-- A caller that has counted a request wakes the flow loop. -/
  | wake {move : Move} : FlowTurn engine move .wake
  | hold : FlowTurn engine (.start .hold) (·.bump 1)
  | release : FlowTurn engine (.start .release) (·.bump (-1))
  | woke : FlowTurn engine .wakeFlow ({ · with woken := false })
  | captured {net : Int32} (loaded : engine.flowLoop = .loaded net) (some : net ≠ 0) :
    FlowTurn engine .advanceFlow (·.bump (-net))

/-- A move that is not of the owner of a subscription and records nothing that is handed to one. -/
structure Aloof (move : Move) (entries : List Entry) : Prop where
  move : move.ofFeed = false
  entries : ∀ entry ∈ entries, entry.ofFeed = false

theorem Aloof.nil {move : Move} (others : move.ofFeed = false) : Aloof move [] :=
  ⟨others, by simp⟩

/-- What one move does to the feed, and what it records of it. -/
inductive FeedTurn (before : World) (move : Move) (entries : List Entry) (after : World) : Prop
  | aside (f : FlowControl → FlowControl) (turn : FlowTurn before.engine move f)
    (aloof : Aloof move entries)
    (feed : after.connection.feed = (before.connection.withFlow f).feed)
    (callers : Unmoved before after)
  | subscribe (starts : move = .start .subscribe)
    (told : entries = [.subscribed before.connection.feed.next])
    (feed : after.connection.feed = before.connection.feed.subscribe.2)
    (callers : Unmoved before after)
  | publish (batch : EventBatch) (others : move.ofFeed = false)
    (told : entries = [.performed (.publish batch)])
    (feed : after.connection.feed = before.connection.feed.publish batch)
    (callers : Unmoved before after)
  | close (others : move.ofFeed = false) (told : entries = [.performed .closeFeed])
    (feed : after.connection.feed = before.connection.feed.close)
    (callers : Unmoved before after)
  | pop (id : SubscriptionId) (starts : move = .start (.receive id))
    (told : entries = ((before.connection.feed.pop id).1.map (.delivered id)).toList)
    (feed : after.connection.feed = (before.connection.feed.pop id).2)
    (judges : before.Judges → after.Judges)
    (uncounted : after.uncounted =
      before.uncounted ++ (Delivery.counts id (before.connection.feed.pop id).1).toList)
  | drop (id : SubscriptionId) (starts : move = .start (.unsubscribe id)) (told : entries = [])
    (feed : after.connection.feed = before.connection.feed.drop id)
    (callers : Unmoved before after)
  | count (id : SubscriptionId) (aloof : Aloof move entries)
    (feed : after.connection.feed = before.connection.feed.countReceived id)
    (judges : after.Judges) (uncounted : before.uncounted.Perm (id :: after.uncounted))
  | judge (aloof : Aloof move entries)
    (feed : after.connection.feed = before.connection.feed.applyPolicy)
    (uncounted : after.uncounted = before.uncounted)

namespace FeedTurn

variable {before after : World} {move : Move} {entries : List Entry}

/-- A move that leaves the feed alone. -/
theorem same (aloof : Aloof move entries)
    (feed : after.connection.feed = before.connection.feed)
    (callers : Unmoved before after) : FeedTurn before move entries after :=
  .aside id .still aloof feed callers

/-- A piece of work is performed. -/
theorem performed (work : Work) (others : move.ofFeed = false)
    (told : entries = before.connection.workEntries work)
    (feed : after.connection.feed = (before.connection.perform work).2.feed)
    (callers : Unmoved before after) : FeedTurn before move entries after := by
  subst told
  rw [Connection.feed_perform] at feed
  cases work with
  | publish batch => exact .publish batch others rfl feed callers
  | closeFeed => exact .close others rfl feed callers
  | dispose payload =>
    refine .same ⟨others, List.forall_mem_cons.mpr ⟨rfl, ?_⟩⟩ feed callers
    exact Connection.ofFeed_issueEntries .disposeObjects payload
  | disconnect =>
    refine .same ⟨others, List.forall_mem_cons.mpr ⟨rfl, ?_⟩⟩ feed callers
    cases before.connection.dead <;> simp [Entry.ofFeed]
  | _ => exact .same ⟨others, List.forall_mem_singleton.mpr rfl⟩ feed callers

theorem feedStep (turn : FeedTurn before move entries after) : FeedStep before after := by
  cases turn with
  | aside f turn aloof feed callers =>
    cases turn with
    | still => exact .aside _ _ feed callers.judges
    | wake => exact .aside _ true feed callers.judges
    | hold => exact .aside (before.connection.feed.flow.net + 1) _ feed callers.judges
    | release => exact .aside (before.connection.feed.flow.net + -1) _ feed callers.judges
    | woke => exact .aside _ false feed callers.judges
    | @captured net loaded some =>
      exact .aside (before.connection.feed.flow.net + -net) _ feed callers.judges
  | subscribe starts told feed callers => exact .subscribe feed callers.judges
  | publish batch others told feed callers => exact .publish batch feed callers.judges
  | close others told feed callers => exact .close feed callers.judges
  | pop id starts told feed judges uncounted => exact .pop id feed judges
  | drop id starts told feed callers => exact .drop id feed callers.judges
  | count id aloof feed judges uncounted => exact .count id feed judges
  | judge aloof feed uncounted => exact .judge feed

end FeedTurn

/-- A world comes from another by one move, which is a turn of the feed. -/
def FeedTurns (world : World) (move : Move) (world' : World) : Prop :=
  ∃ entries, world'.journal = world.journal ++ entries ∧ FeedTurn world move entries world'

theorem feedTurns_self {move : Move} (others : move.ofFeed = false) :
    FeedTurns world move world :=
  ⟨[], (List.append_nil _).symm, .same (.nil others) rfl ⟨id, rfl⟩⟩

theorem mem_recordCaller {n : Nat} {activity activity' : Activity} {entries : List Entry}
    {connection : Connection} (found : world.activities[n]? = some activity) :
    activity' ∈ (world.recordCaller n activity' entries connection).activities := by
  obtain ⟨hn, -⟩ := List.getElem?_eq_some_iff.mp found
  exact List.mem_set hn _

/-- A caller that goes on leaves the others at their stages. -/
theorem stage_recordCaller {n : Nat} {activity activity' : Activity} {entries : List Entry}
    {connection : Connection} {p : Stage → Prop} (found : world.activities[n]? = some activity)
    (still : p activity.stage → p activity'.stage)
    (somebody : ∃ activity ∈ world.activities, p activity.stage) :
    ∃ activity ∈ (world.recordCaller n activity' entries connection).activities,
      p activity.stage := by
  obtain ⟨other, mem, stands⟩ := somebody
  obtain ⟨m, found'⟩ := List.mem_iff_getElem?.mp mem
  by_cases same : n = m
  · subst same
    obtain rfl := Option.some.inj (found'.symm.trans found)
    exact ⟨activity', mem_recordCaller found, still stands⟩
  · exact ⟨other, List.mem_of_getElem? ((List.getElem?_set_ne same).trans found'), stands⟩

/-- A caller that goes on and does not judge lets all others judge that do. -/
theorem judges_recordCaller {n : Nat} {activity activity' : Activity} {entries : List Entry}
    {connection : Connection} (found : world.activities[n]? = some activity)
    (still : activity.stage.judges → activity'.stage.judges) (judges : world.Judges) :
    (world.recordCaller n activity' entries connection).Judges :=
  stage_recordCaller (p := (·.judges)) found still judges

/-- What a caller has to count stands between what others have to. -/
theorem exists_uncounted {n : Nat} {activity : Activity}
    (found : world.activities[n]? = some activity) :
    ∃ earlier later, world.uncounted = earlier ++ activity.stage.counting?.toList ++ later ∧
      ∀ activity' entries connection,
        (world.recordCaller n activity' entries connection).uncounted =
          earlier ++ activity'.stage.counting?.toList ++ later := by
  obtain ⟨earlier, later, split, changed⟩ := exists_split found
  have counted (activity : Activity) :
      (earlier ++ activity :: later).filterMap (·.stage.counting?) =
        earlier.filterMap (·.stage.counting?) ++ activity.stage.counting?.toList ++
          later.filterMap (·.stage.counting?) := by
    rw [List.filterMap_append, List.filterMap_cons, List.append_assoc]
    cases activity.stage.counting? <;> rfl
  refine ⟨earlier.filterMap (·.stage.counting?), later.filterMap (·.stage.counting?), ?_,
    fun activity' entries connection => ?_⟩
  · rw [uncounted, split, counted]
  · rw [uncounted, recordCaller, changed, counted]

/-- A caller that goes on and counts nothing leaves the others where they are. -/
theorem unmoved_recordCaller {n : Nat} {activity activity' : Activity} {entries : List Entry}
    {connection : Connection} (found : world.activities[n]? = some activity)
    (still : activity.stage.judges → activity'.stage.judges)
    (counting : activity'.stage.counting? = activity.stage.counting?) :
    Unmoved world (world.recordCaller n activity' entries connection) := by
  obtain ⟨earlier, later, before, after⟩ := exists_uncounted found
  refine ⟨judges_recordCaller found still, ?_⟩
  rw [after, before, counting]

theorem feedTurns_start (operation : Operation) :
    FeedTurns world (.start operation) (world.start operation) := by
  refine ⟨(world.connection.start world.activities.length operation).1, rfl, ?_⟩
  have judges {activities : List Activity} {engine : Engine} {journal : List Entry}
      (judges : world.Judges) : Judges ⟨engine, world.activities ++ activities, journal⟩ := by
    obtain ⟨activity, mem, judging⟩ := judges
    exact ⟨activity, List.mem_append_left _ mem, judging⟩
  have counts {activity : Activity} {engine : Engine} {journal : List Entry} :
      uncounted ⟨engine, world.activities ++ [activity], journal⟩ =
        world.uncounted ++ activity.stage.counting?.toList := by
    rw [uncounted, List.filterMap_append, List.filterMap_cons, List.filterMap_nil]
    cases activity.stage.counting? <;> rfl
  have callers {activity : Activity} {engine : Engine} {journal : List Entry}
      (none : activity.stage.counting? = none) :
      Unmoved world ⟨engine, world.activities ++ [activity], journal⟩ :=
    ⟨judges, by rw [counts, none, Option.toList_none, List.append_nil]⟩
  have aloof {entry : Entry} {move : Move} (others : move.ofFeed = false)
      (quiet : entry.ofFeed = false) : Aloof move [entry] :=
    ⟨others, List.forall_mem_singleton.mpr quiet⟩
  cases operation with
  | call call =>
    exact .same ⟨rfl, Connection.ofFeed_issueEntries _ _⟩ (Connection.feed_issue _ _) (callers rfl)
  | cache key kind =>
    simp only [start, Connection.start, Connection.lookup]
    cases world.connection.scope.value? key (·.kind == kind) with
    | some value => exact .same (aloof rfl rfl) rfl (callers rfl)
    | none => exact .same (aloof rfl rfl) rfl (callers rfl)
  | invalidate => exact .same (aloof rfl rfl) Connection.feed_invalidate (callers rfl)
  | acquire object => exact .same (aloof rfl rfl) rfl (callers rfl)
  | measure => exact .same (aloof rfl rfl) Connection.feed_probe (callers rfl)
  | subscribe => exact .subscribe rfl rfl rfl (callers rfl)
  | receive id =>
    have counting :
        (world.connection.start world.activities.length (.receive id)).2.1.stage.counting? =
          Delivery.counts id (world.connection.feed.pop id).1 := by
      simp only [Connection.start]
      split <;> (next popped => rw [popped]; rfl)
    refine .pop id rfl ?_ ?_ judges
      (counts.trans (congrArg (world.uncounted ++ Option.toList ·) counting))
    · simp only [Connection.start]
      split <;> (next popped => rw [popped]; rfl)
    · simp only [start, connection, Connection.start]
      split <;> (next popped => rw [popped])
  | unsubscribe id => exact .drop id rfl rfl rfl (callers rfl)
  | hold => exact .aside _ .hold (.nil rfl) rfl (callers rfl)
  | release => exact .aside _ .release (.nil rfl) rfl (callers rfl)
  | _ => exact .same (.nil rfl) rfl (callers rfl)

theorem feedTurns_goOn {move : Move} (others : move.ofFeed = false) (n : Nat)
    (poll : Receipt → Option (Except Failure Bytes)) :
    FeedTurns world move (world.goOn n poll) := by
  unfold goOn
  split
  · exact feedTurns_self others
  · next work rest stage found =>
    exact ⟨_, rfl, .performed work others rfl rfl (unmoved_recordCaller found id rfl)⟩
  · next call issued found =>
    split
    · exact feedTurns_self others
    · refine ⟨_, rfl, .same ⟨others, ?_⟩ (Call.feed_finish ..)
        (unmoved_recordCaller found (by simp [Stage.judges]) rfl)⟩
      cases issued <;> simp [outcomeEntries, Entry.ofFeed]
  · next id found =>
    obtain ⟨earlier, later, before, after⟩ := exists_uncounted found
    refine ⟨[], rfl, .count id (.nil others) rfl ⟨_, mem_recordCaller found, rfl⟩ ?_⟩
    rw [before, after, List.append_assoc, List.append_assoc]
    exact List.perm_middle
  · next found =>
    obtain ⟨earlier, later, before, after⟩ := exists_uncounted found
    exact ⟨[], rfl, .judge (.nil others) rfl (by rw [before, after]; rfl)⟩
  · next found =>
    exact ⟨[], rfl, .aside _ .wake (.nil others) rfl
      (unmoved_recordCaller found (by simp [Stage.judges]) rfl)⟩
  · exact feedTurns_self others

theorem feedTurns_supply (n : Nat) (result : Except Failure StoredValue) :
    FeedTurns world (.supply n result) (world.supply n result) := by
  unfold supply
  split
  · next found =>
    exact ⟨[], rfl, .same (.nil rfl) rfl (unmoved_recordCaller found (by simp [Stage.judges]) rfl)⟩
  · next found =>
    split
    · exact ⟨_, rfl, .same ⟨rfl, List.forall_mem_singleton.mpr rfl⟩ (Connection.feed_store ..)
        (unmoved_recordCaller found (by simp [Stage.judges]) rfl)⟩
    · exact feedTurns_self rfl
  · exact feedTurns_self rfl

theorem feedTurns_cancel (n : Nat) : FeedTurns world (.cancel n) (world.cancel n) := by
  unfold cancel
  split
  · next found =>
    exact ⟨[], rfl, .same (.nil rfl) rfl (unmoved_recordCaller found (by simp [Stage.judges]) rfl)⟩
  · next found =>
    exact ⟨[], rfl, .same (.nil rfl) rfl (unmoved_recordCaller found (by simp [Stage.judges]) rfl)⟩
  · exact feedTurns_self rfl

/-- A task performs the first of its pieces, if it has any. -/
theorem feedTurns_perform {move : Move} {engine : Engine} (works : List Work)
    (others : move.ofFeed = false)
    (none : works = [] → engine.connection = world.connection)
    (first : ∀ work rest, works = work :: rest →
      engine.connection = (world.connection.perform work).2) :
    FeedTurns world move (world.record engine (world.connection.headEntries works)) := by
  cases works with
  | nil => exact ⟨_, rfl, .same (.nil others) (congrArg Connection.feed (none rfl)) ⟨id, rfl⟩⟩
  | cons work rest =>
    exact ⟨_, rfl,
      .performed work others rfl (congrArg Connection.feed (first work rest rfl)) ⟨id, rfl⟩⟩

/-- What every move does to the feed. -/
theorem feed_turn (move : Move) : FeedTurns world move (world.step move) := by
  -- What an engine does on its own concerns no subscription.
  have aside {move : Move} {engine : Engine} (others : move.ofFeed = false)
      (feed : engine.connection.feed = world.connection.feed) :
      FeedTurns world move (world.record engine []) :=
    ⟨[], rfl, .same (.nil others) feed ⟨id, rfl⟩⟩
  cases move with
  | receive reception =>
    refine aside rfl ?_
    simp only [connection, Engine.received]
    split
    · cases reception with
      | frame frame => exact Connection.feed_accept frame
      | _ => rfl
    · rfl
  | stopDispatcher =>
    refine aside rfl ?_
    simp only [connection, Engine.stopDispatcher]
    split <;> rfl
  | performDispatcher =>
    refine feedTurns_perform world.engine.dispatcherWork rfl (fun none => ?_) fun _ _ first => ?_
    · rw [Engine.performDispatcher, none]
      rfl
    · rw [Engine.performDispatcher, first]
      rfl
  | take =>
    refine ⟨_, rfl, .same ⟨rfl, ?_⟩ ?_ ⟨id, rfl⟩⟩
    · simp only [takeEntries]
      split
      · split <;> simp [Entry.ofFeed]
      · simp
    · simp only [step, record, connection, Engine.take]
      split
      · split <;> rfl
      · rfl
  | wrote result =>
    refine ⟨_, rfl, .same ⟨rfl, ?_⟩ ?_ ⟨id, rfl⟩⟩
    · simp only [wroteEntries]
      split <;> simp [Entry.ofFeed]
    · simp only [step, record, connection, Engine.wrote]
      split <;> rfl
  | shut =>
    refine ⟨_, rfl, .same ⟨rfl, ?_⟩ ?_ ⟨id, rfl⟩⟩
    · split <;> simp [Entry.ofFeed]
    · simp only [step, record, connection, Engine.shut]
      split <;> rfl
  | drain =>
    refine aside rfl ?_
    simp only [connection, Engine.drain]
    split
    · split <;> rfl
    · rfl
  | performWriter =>
    refine feedTurns_perform world.engine.writerWork rfl (fun none => ?_) fun _ _ first => ?_
    · rw [Engine.performWriter, none]
      rfl
    · rw [Engine.performWriter, first]
      rfl
  | wakeFlow =>
    simp only [step, Engine.wakeFlow]
    split
    · exact ⟨[], rfl, .aside _ .woke (.nil rfl) rfl ⟨id, rfl⟩⟩
    · exact aside rfl rfl
  | advanceFlow =>
    cases stage : world.engine.flowLoop with
    | captured net =>
      obtain ⟨-, connection, -⟩ := Engine.advanceFlow_captured stage
      refine ⟨_, rfl, .same ⟨rfl, ?_⟩ ?_ ⟨id, rfl⟩⟩
      · rw [flowEntries, stage]
        exact Connection.ofFeed_issueEntries _ _
      · exact (congrArg Connection.feed connection).trans (Connection.feed_issue _ _)
    | loaded net =>
      have quiet : world.flowEntries = [] := by rw [flowEntries, stage]
      simp only [step, Engine.advanceFlow, stage, quiet]
      split
      · exact aside rfl rfl
      · next some => exact ⟨[], rfl, .aside _ (.captured stage some) (.nil rfl) rfl ⟨id, rfl⟩⟩
    | _ =>
      have quiet : world.flowEntries = [] := by rw [flowEntries, stage]
      simp only [step, Engine.advanceFlow, stage, quiet]
      exact aside rfl rfl
  | stopFlow =>
    refine aside rfl ?_
    simp only [connection, Engine.stopFlow]
    split <;> rfl
  | performFlow =>
    refine feedTurns_perform world.engine.flowWork rfl (fun none => ?_) fun _ _ first => ?_
    · rw [Engine.performFlow, none]
      rfl
    · rw [Engine.performFlow, first]
      rfl
  | start operation => exact feedTurns_start operation
  | advance n caller => exact feedTurns_goOn rfl n _
  | block n caller => exact feedTurns_goOn rfl n _
  | supply n result => exact feedTurns_supply n result
  | cancel n => exact feedTurns_cancel n

theorem feed_step (move : Move) : FeedStep world (world.step move) := by
  obtain ⟨_, -, turn⟩ := @feed_turn world move
  exact turn.feedStep

end World

end DebugLink
