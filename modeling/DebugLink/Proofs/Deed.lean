import DebugLink.Proofs.Keeps
import DebugLink.Proofs.Tasks

/-!
# Deed: what one move does to the connection

Whoever makes it, a move does one of a few things to the connection, and these are the `Deed`s.
Each says which piece of work is used up, what is recorded, which pieces are left behind and what
the connection is afterwards. `World.deed_of_step` finds the deed of every move; what every move
keeps is then proved deed by deed.
-/

namespace DebugLink

/-- Whether an entry tells of neither a piece of work nor a command nor a change of the scope. -/
def Entry.plain : Entry → Bool
  | .wrote .. | .shut | .answered .. | .found .. | .missed .. | .subscribed _
  | .delivered .. => true
  | _ => false

/-- Whether a piece of work can come up other than from another piece. -/
def Work.arrives : Work → Bool
  | .replied _ | .suspended | .publish _ | .discard _ | .release _ | .flush | .close
  | .disconnect => true
  | _ => false

/-- What is recorded when a message is taken by the writer. -/
def Message.entries : Message → List Entry
  | .frame id bytes => [.handed id bytes]
  | .close => []

/-- What is left to do when a message is given up. -/
def Message.givenUp : Message → List Work
  | .frame id _ => [.abandon id .disconnected]
  | .close => []

/-- What is done to the connection of an engine: pieces used up, what is recorded, pieces left
behind, and the connection afterwards. -/
inductive Deed (engine : Engine) :
    (used : List Work) → (entries : List Entry) → (left : List Work) → Connection → Prop
  | perform (work : Work) :
    Deed engine [work] (engine.connection.workEntries work) (engine.connection.perform work).1
      (engine.connection.perform work).2
  | issue (command : Command) (data : Bytes) (notices : List Notice) :
    Deed engine [] ({ engine.connection with notices }.issueEntries command data)
      ({ engine.connection with notices }.issue command data).2.1
      ({ engine.connection with notices }.issue command data).2.2
  /-- Something arrives, or a part of the connection changes that no request depends on. -/
  | adopt {entries : List Entry} {left : List Work} (notices : List Notice) (idSizes : IdSizes)
    (handles : Nat) (feed : EventFeed) (plain : ∀ entry ∈ entries, entry.plain)
    (arrive : ∀ work ∈ left, work.arrives) :
    Deed engine [] entries left { engine.connection with notices, idSizes, handles, feed }
  /-- A packet could not be written. -/
  | fail {id : UInt32} {frame : Bytes} (failure : Failure) (notices : List Notice)
    (writing : engine.writer = .writing id frame) :
    Deed engine [] [.wrote id (.error failure)] [.abandon id failure, .disconnect]
      { engine.connection with notices }
  | take {message : Message} {rest : List Message} (notices : List Notice)
    (receiving : engine.writer = .receiving)
    (first : engine.connection.outbound = message :: rest) :
    Deed engine [] message.entries [] { engine.connection with outbound := rest, notices }
  | drain (draining : engine.writer = .draining) (idle : engine.writerWork = []) :
    Deed engine [] [] (engine.connection.outbound.head?.toList.flatMap Message.givenUp)
      { engine.connection with outboundOpen := false, outbound := engine.connection.outbound.tail }
  | cloneAll {entries : List Entry} (ids : List LeaseId) (plain : ∀ entry ∈ entries, entry.plain) :
    Deed engine [] entries [] (engine.connection.cloneAll ids)
  | acquire (object : ObjectId) :
    Deed engine [] [.acquired object (engine.connection.acquire object).1] []
      (engine.connection.acquire object).2
  | probe : Deed engine [] [.probed engine.connection.probe.1] [] engine.connection.probe.2
  | store (n : Nat) (key : String) (stamp : Stamp) (value : StoredValue) :
    Deed engine [] [.stored n key value (engine.connection.scope.honours stamp)]
      (engine.connection.store key stamp value).1 (engine.connection.store key stamp value).2
  | invalidate :
    Deed engine [] [.invalidated] engine.connection.invalidate.1 engine.connection.invalidate.2

theorem Deed.nothing {engine : Engine} : Deed engine [] [] [] engine.connection :=
  .adopt _ _ _ _ (by simp) (by simp)

/-- A piece of work is recorded where it is used up. -/
theorem Deed.of_performed {engine : Engine} {used left : List Work} {entries : List Entry}
    {after : Connection} (deed : Deed engine used entries left after) {work : Work}
    (mem : .performed work ∈ entries) :
    used = [work] ∧ after = (engine.connection.perform work).2 := by
  have no_issue (connection : Connection) (command : Command) (data : Bytes) :
      .performed work ∉ connection.issueEntries command data := by
    unfold Connection.issueEntries
    split <;> simp
  have no_plain {P : Prop} (plain : ∀ entry ∈ entries, entry.plain) : P :=
    absurd (plain _ mem) (by simp [Entry.plain])
  cases deed with
  | perform work' =>
    obtain same | mem := List.mem_cons.mp mem
    · obtain rfl := Entry.performed.inj same
      exact ⟨rfl, rfl⟩
    · cases work' with
      | dispose payload => exact absurd mem (no_issue _ _ _)
      | disconnect => cases dead : engine.connection.dead <;> simp [dead] at mem
      | _ => cases mem
  | issue command data notices => exact absurd mem (no_issue _ _ _)
  | adopt notices idSizes handles feed plain arrive => exact no_plain plain
  | cloneAll ids plain => exact no_plain plain
  | @take message rest notices receiving first => cases message <;> simp [Message.entries] at mem
  | _ => simp at mem

namespace World

variable {world : World}

/-- Pieces of work are used up, and others take their place: the dispatcher's, or somebody
else's. Only the dispatcher hears of replies. -/
inductive Replaced (world world' : World) (used left : List Work) : Prop
  | dispatcher {rest : List Work} (before : world.engine.dispatcherWork = used ++ rest)
    (after : world'.engine.dispatcherWork = left ++ rest) (others : world'.others = world.others)
  | other (earlier later : List Work)
    (dispatcher : world'.engine.dispatcherWork = world.engine.dispatcherWork)
    (before : world.others = earlier ++ used ++ later)
    (after : world'.others = earlier ++ left ++ later)
    (calm : ∀ reply, .replied reply ∉ left)

theorem Replaced.works {world' : World} {used left : List Work}
    (replaced : Replaced world world' used left) :
    ∃ earlier later, world.works = earlier ++ used ++ later ∧
      world'.works = earlier ++ left ++ later := by
  cases replaced with
  | @dispatcher rest before after others =>
    refine ⟨[], rest ++ world.others, ?_, ?_⟩
    · simp [World.works, before]
    · simp [World.works, after, others]
  | other earlier later dispatcher before after calm =>
    refine ⟨world.engine.dispatcherWork ++ earlier, later, ?_, ?_⟩
    · simp [World.works, before]
    · simp [World.works, dispatcher, after]

/-- A world comes from another by one deed: what is recorded comes last, and the pieces that are
left behind take the place of those that are used up. -/
def Does (world world' : World) : Prop :=
  ∃ used entries left, Deed world.engine used entries left world'.connection ∧
    world'.journal = world.journal ++ entries ∧ Replaced world world' used left

theorem does_self : Does world world :=
  ⟨[], [], [], .nothing, by simp, .dispatcher rfl rfl rfl⟩

/-- Nobody's pieces change. -/
theorem does_still {engine : Engine} {entries : List Entry}
    (deed : Deed world.engine [] entries [] engine.connection)
    (dispatcher : engine.dispatcherWork = world.engine.dispatcherWork)
    (writer : engine.writerWork = world.engine.writerWork)
    (flow : engine.flowWork = world.engine.flowWork) : Does world (world.record engine entries) :=
  ⟨[], entries, [], deed, rfl, .dispatcher rfl dispatcher (by simp [others, record, writer, flow])⟩

/-- Only the dispatcher's pieces change. -/
theorem does_dispatcher {engine : Engine} {entries : List Entry} (used left rest : List Work)
    (deed : Deed world.engine used entries left engine.connection)
    (before : world.engine.dispatcherWork = used ++ rest)
    (after : engine.dispatcherWork = left ++ rest)
    (writer : engine.writerWork = world.engine.writerWork)
    (flow : engine.flowWork = world.engine.flowWork) : Does world (world.record engine entries) :=
  ⟨used, entries, left, deed, rfl,
    .dispatcher before after (by simp [others, record, writer, flow])⟩

/-- Only the writer's pieces change. -/
theorem does_writer {engine : Engine} {entries : List Entry} (used left rest : List Work)
    (deed : Deed world.engine used entries left engine.connection)
    (before : world.engine.writerWork = used ++ rest) (after : engine.writerWork = left ++ rest)
    (dispatcher : engine.dispatcherWork = world.engine.dispatcherWork)
    (flow : engine.flowWork = world.engine.flowWork)
    (calm : ∀ reply, .replied reply ∉ left) : Does world (world.record engine entries) := by
  refine ⟨used, entries, left, deed, rfl, ?_⟩
  refine .other [] (rest ++ world.engine.flowWork ++ world.activities.flatMap Activity.works)
    dispatcher ?_ ?_ calm
  · simp [others, before]
  · simp [others, record, after, flow]

/-- Only the flow loop's pieces change. -/
theorem does_flow {engine : Engine} {entries : List Entry} (used left rest : List Work)
    (deed : Deed world.engine used entries left engine.connection)
    (before : world.engine.flowWork = used ++ rest) (after : engine.flowWork = left ++ rest)
    (dispatcher : engine.dispatcherWork = world.engine.dispatcherWork)
    (writer : engine.writerWork = world.engine.writerWork)
    (calm : ∀ reply, .replied reply ∉ left) : Does world (world.record engine entries) := by
  refine ⟨used, entries, left, deed, rfl, ?_⟩
  refine .other world.engine.writerWork (rest ++ world.activities.flatMap Activity.works)
    dispatcher ?_ ?_ calm
  · simp [others, before]
  · simp [others, record, after, writer]

/-- Only the pieces of one caller change. -/
theorem does_caller {n : Nat} {activity activity' : Activity} {entries : List Entry}
    {connection : Connection} (used left rest : List Work)
    (found : world.activities[n]? = some activity)
    (deed : Deed world.engine used entries left connection)
    (before : activity.works = used ++ rest) (after : activity'.works = left ++ rest)
    (calm : ∀ reply, .replied reply ∉ left) :
    Does world (world.recordCaller n activity' entries connection) := by
  obtain ⟨earlier, later, split, changed⟩ := exists_split found
  refine ⟨used, entries, left, deed, rfl, ?_⟩
  refine .other (world.engine.writerWork ++ world.engine.flowWork ++
    earlier.flatMap Activity.works) (rest ++ later.flatMap Activity.works) rfl ?_ ?_ calm
  · simp [others, split, before]
  · simp [others, recordCaller, changed, after]

/-- Who hands a packet over or sends a flow command has no pieces left from before. -/
structure Tidy (world : World) : Prop where
  writing : ∀ {id frame}, world.engine.writer = .writing id frame → world.engine.writerWork = []
  flowing : world.engine.flowLoop ≠ .waiting → world.engine.flowLoop ≠ .stopped →
    world.engine.flowWork = []

/-- A caller that has no pieces left makes a step, and has none afterwards. -/
theorem does_idle {n : Nat} {activity activity' : Activity} {entries : List Entry}
    {connection : Connection} (found : world.activities[n]? = some activity)
    (deed : Deed world.engine [] entries [] connection) (before : activity.works = [])
    (after : activity'.works = []) :
    Does world (world.recordCaller n activity' entries connection) :=
  does_caller [] [] [] found deed before after (by simp)

/-! ## Nobody but the dispatcher hears of a reply -/

theorem calm_of_follows {works : List Work} (follows : ∀ work ∈ works, work.follows)
    (reply : ReplyPacket) : .replied reply ∉ works :=
  fun mem => absurd (follows _ mem) (by simp [Work.follows])

theorem calm_of_finish (call : Call) (outcome : Except Failure Bytes) (reply : ReplyPacket) :
    .replied reply ∉ (call.finish outcome world.connection).2.1 := by
  cases call <;> simp only [Call.finish]
  case idSizes => split <;> simp
  case suspendAll => split <;> simp
  all_goals simp

theorem calm_of_start (n : Nat) (operation : Operation) (reply : ReplyPacket) :
    .replied reply ∉ (world.connection.start n operation).2.1.works := by
  cases operation <;> simp only [Connection.start]
  case call call => exact calm_of_follows (Connection.issue_follows _ _) reply
  case cache key kind => split <;> simp
  case invalidate => exact calm_of_follows Connection.invalidate_follows reply
  case receive id => split <;> simp
  case dropHandle => simp only [Connection.release]; split <;> simp
  all_goals simp

/-! ## Every step is a deed -/

theorem deed_of_start (n : Nat) (operation : Operation) :
    Deed world.engine [] (world.connection.start n operation).1
      (world.connection.start n operation).2.1.works
      (world.connection.start n operation).2.2 := by
  cases operation <;> simp only [Connection.start]
  case call call => exact .issue call.command (call.payload _) world.connection.notices
  case cache key kind =>
    simp only [Connection.lookup]
    cases world.connection.scope.value? key (·.kind == kind) with
    | some value => exact .cloneAll value.owned (by simp [Entry.plain])
    | none => exact .adopt _ _ _ _ (by simp [Entry.plain]) (by simp)
  case invalidate => exact .invalidate
  case acquire object => exact .acquire object
  case cloneLease lease => exact .cloneAll [lease] (by simp)
  case measure => exact .probe
  case receive id =>
    split
    · exact .adopt _ _ _ _ (by simp [Entry.plain]) (by simp)
    · exact .adopt _ _ _ _ (by simp [Entry.plain]) (by simp)
    · exact .adopt _ _ _ _ (by simp) (by simp)
  case dropHandle =>
    refine .adopt _ _ _ _ (by simp) ?_
    simp only [Connection.release]
    split <;> simp [Work.arrives]
  case subscribe => exact .adopt _ _ _ _ (by simp [Entry.plain]) (by simp)
  case setIdSizes sizes => exact .adopt _ sizes _ _ (by simp) (by simp)
  case cloneHandle => exact .adopt _ _ _ _ (by simp) (by simp)
  case unsubscribe id => exact .adopt _ _ _ _ (by simp) (by simp)
  case hold => exact .adopt _ _ _ _ (by simp) (by simp)
  case release => exact .adopt _ _ _ _ (by simp) (by simp)
  -- What is left arrives from the caller.
  case noteSuspended => exact .adopt _ _ _ _ (by simp) (by simp [Work.arrives])
  case dropLease lease => exact .adopt _ _ _ _ (by simp) (by simp [Work.arrives])
  case dropValue value => exact .adopt _ _ _ _ (by simp) (by simp [Work.arrives])
  case flush => exact .adopt _ _ _ _ (by simp) (by simp [Work.arrives])
  case close => exact .adopt _ _ _ _ (by simp) (by simp [Work.arrives])

/-- What a call does with its outcome. -/
theorem deed_of_finish {entries : List Entry} (call : Call) (outcome : Except Failure Bytes)
    (plain : ∀ entry ∈ entries, entry.plain) :
    Deed world.engine [] entries (call.finish outcome world.connection).2.1
      (call.finish outcome world.connection).2.2 := by
  cases call with
  | idSizes =>
    simp only [Call.finish]
    split
    · exact .adopt _ _ _ _ plain (by simp)
    · exact .adopt _ _ _ _ plain (by simp)
  | suspendAll =>
    simp only [Call.finish]
    split
    · exact .adopt _ _ _ _ plain (by simp [Work.arrives])
    · exact .adopt _ _ _ _ plain (by simp)
  | dispose => exact .adopt _ _ _ _ plain (by simp [Call.finish, Work.arrives])
  | exit => exact .adopt _ _ _ _ plain (by simp [Call.finish, Work.arrives])
  | version => exact .adopt _ _ _ _ plain (by simp [Call.finish])
  | resumeAll => exact .adopt _ _ _ _ plain (by simp [Call.finish])
  | suspendThread => exact .adopt _ _ _ _ plain (by simp [Call.finish])
  | resumeThread => exact .adopt _ _ _ _ plain (by simp [Call.finish])
  | send => exact .adopt _ _ _ _ plain (by simp [Call.finish])

/-- A caller that goes on does a deed. -/
theorem does_callerStep {move : Move} {n : Nat} {world' : World}
    (step : CallerStep world move n world') : Does world world' := by
  cases step with
  | still => exact does_self
  | @performed work rest stage found =>
    exact does_caller [work] _ rest found (.perform work) rfl rfl
      (calm_of_follows (Connection.perform_follows work))
  | @told call issued outcome found polled =>
    refine does_caller [] _ [] found (deed_of_finish call outcome ?_) rfl
      (List.append_nil _).symm (calm_of_finish call outcome)
    cases issued <;> simp [outcomeEntries, Entry.plain]
  | rested feed found rests =>
    exact does_idle found (.adopt _ _ _ _ (by simp) (by simp)) rfl rfl
  | @stored key kind stamp value supplies found fits =>
    exact does_caller [] _ [] found (.store n key stamp value) rfl (List.append_nil _).symm
      (by simp [Connection.store])

theorem deed_of_accept (frame : Bytes) :
    Deed world.engine []
      [] ((world.connection.report (.frameReceived frame)).accept frame).1
      ((world.connection.report (.frameReceived frame)).accept frame).2 := by
  unfold Connection.accept
  split
  · exact .adopt _ _ _ _ (by simp) (by simp)
  · exact .adopt _ _ _ _ (by simp) (by simp [Work.arrives])
  · split
    · split
      · exact .adopt _ _ _ _ (by simp) (by simp)
      · refine .adopt _ _ _ _ (by simp) ?_
        split <;> simp [Work.arrives]
    · exact .adopt _ _ _ _ (by simp) (by simp)

theorem does_receive (reception : Reception) : Does world (world.step (.receive reception)) := by
  show Does world (world.record (world.engine.received reception) [])
  simp only [Engine.received]
  split
  · next ready =>
    cases reception with
    | frame frame =>
      exact does_dispatcher [] _ [] (deed_of_accept frame) ready.2 (List.append_nil _).symm rfl rfl
    | finished =>
      exact does_dispatcher [] [.disconnect] []
        (.adopt _ _ _ _ (by simp) (by simp [Work.arrives])) ready.2 rfl rfl rfl
    | failed failure =>
      exact does_dispatcher [] [.disconnect] []
        (.adopt _ _ _ _ (by simp) (by simp [Work.arrives])) ready.2 rfl rfl rfl
  · exact does_still .nothing rfl rfl rfl

theorem does_stopDispatcher : Does world (world.step .stopDispatcher) := by
  show Does world (world.record world.engine.stopDispatcher [])
  simp only [Engine.stopDispatcher]
  split
  · next ready =>
    exact does_dispatcher [] [.disconnect] []
      (.adopt _ _ _ _ (by simp) (by simp [Work.arrives])) ready.2.1 rfl rfl rfl
  · exact does_still .nothing rfl rfl rfl

theorem does_performDispatcher : Does world (world.step .performDispatcher) := by
  show Does world (world.record world.engine.performDispatcher
    (world.connection.headEntries world.engine.dispatcherWork))
  simp only [Engine.performDispatcher]
  split
  · next none =>
    rw [none]
    exact does_still .nothing rfl rfl rfl
  · next work works some =>
    rw [some]
    exact does_dispatcher [work] _ works (.perform work) some rfl rfl rfl

theorem does_performWriter : Does world (world.step .performWriter) := by
  show Does world (world.record world.engine.performWriter
    (world.connection.headEntries world.engine.writerWork))
  simp only [Engine.performWriter]
  split
  · next none =>
    rw [none]
    exact does_still .nothing rfl rfl rfl
  · next work works some =>
    rw [some]
    exact does_writer [work] _ works (.perform work) some rfl rfl rfl
      (calm_of_follows (Connection.perform_follows work))

theorem does_performFlow : Does world (world.step .performFlow) := by
  show Does world (world.record world.engine.performFlow
    (world.connection.headEntries world.engine.flowWork))
  simp only [Engine.performFlow]
  split
  · next none =>
    rw [none]
    exact does_still .nothing rfl rfl rfl
  · next work works some =>
    rw [some]
    exact does_flow [work] _ works (.perform work) some rfl rfl rfl
      (calm_of_follows (Connection.perform_follows work))

theorem does_take : Does world (world.step .take) := by
  show Does world (world.record world.engine.take world.takeEntries)
  simp only [Engine.take, takeEntries, connection]
  split
  · next ready =>
    cases queued : world.engine.connection.outbound with
    | nil => exact does_still .nothing rfl rfl rfl
    | cons message rest =>
      cases message with
      | frame id bytes => exact does_still (.take _ ready.1 queued) rfl rfl rfl
      | close =>
        exact does_still (.take world.connection.notices ready.1 queued) rfl rfl rfl
  · exact does_still .nothing rfl rfl rfl

theorem does_wrote (tidy : Tidy world) (result : Except Failure Unit) :
    Does world (world.step (.wrote result)) := by
  show Does world (world.record (world.engine.wrote result) (world.wroteEntries result))
  simp only [Engine.wrote, wroteEntries]
  cases phase : world.engine.writer with
  | writing id frame =>
    cases result with
    | ok _ =>
      exact does_still (.adopt _ _ _ _ (by simp [Entry.plain]) (by simp)) rfl rfl rfl
    | error failure =>
      exact does_writer [] [.abandon id failure, .disconnect] []
        (.fail failure _ phase) (tidy.writing phase) rfl rfl rfl (by simp)
  | receiving => exact does_still .nothing rfl rfl rfl
  | closing => exact does_still .nothing rfl rfl rfl
  | draining => exact does_still .nothing rfl rfl rfl
  | exited => exact does_still .nothing rfl rfl rfl

theorem does_shut : Does world (world.step .shut) := by
  show Does world (world.record world.engine.shut
    (if world.engine.writer = .closing then [.shut] else []))
  simp only [Engine.shut]
  split
  · exact does_still (.adopt _ _ _ _ (by simp [Entry.plain]) (by simp)) rfl rfl rfl
  · exact does_still .nothing rfl rfl rfl

theorem does_drain : Does world (world.step .drain) := by
  show Does world (world.record world.engine.drain [])
  simp only [Engine.drain]
  split
  · next ready =>
    have deed := Deed.drain ready.1 ready.2
    cases queued : world.engine.connection.outbound with
    | nil =>
      rw [queued] at deed
      refine does_still ?_ rfl rfl rfl
      simpa [queued] using deed
    | cons message rest =>
      rw [queued] at deed
      cases message with
      | frame id bytes =>
        exact does_writer [] [.abandon id .disconnected] [] deed ready.2 rfl rfl rfl (by simp)
      | close => exact does_still deed rfl rfl rfl
  · exact does_still .nothing rfl rfl rfl

theorem does_wakeFlow : Does world (world.step .wakeFlow) := by
  show Does world (world.record world.engine.wakeFlow [])
  simp only [Engine.wakeFlow]
  split
  · exact does_still (.adopt _ _ _ _ (by simp) (by simp)) rfl rfl rfl
  · exact does_still .nothing rfl rfl rfl

theorem does_stopFlow : Does world (world.step .stopFlow) := by
  show Does world (world.record world.engine.stopFlow [])
  simp only [Engine.stopFlow]
  split
  · exact does_still .nothing rfl rfl rfl
  · exact does_still .nothing rfl rfl rfl

theorem does_advanceFlow (tidy : Tidy world) : Does world (world.step .advanceFlow) := by
  show Does world (world.record world.engine.advanceFlow world.flowEntries)
  cases stage : world.engine.flowLoop with
  | captured net =>
    obtain ⟨-, connection, flow, -, dispatcher, -, writer⟩ := Engine.advanceFlow_captured stage
    have deed : Deed world.engine [] _ _ _ := .issue (FlowControl.command net) []
      (world.connection.report (.flowCommand net (FlowControl.command net).number)).notices
    refine does_flow [] _ [] ?_ (tidy.flowing (by simp [stage]) (by simp [stage]))
      (flow.trans (List.append_nil _).symm) dispatcher writer
      (calm_of_follows (Connection.issue_follows _ _))
    rw [connection, flowEntries, stage]
    exact deed
  | awake =>
    simp only [Engine.advanceFlow, flowEntries, stage]
    exact does_still .nothing rfl rfl rfl
  | loaded net =>
    simp only [Engine.advanceFlow, flowEntries, stage]
    split
    · exact does_still .nothing rfl rfl rfl
    · exact does_still (.adopt _ _ _ _ (by simp) (by simp)) rfl rfl rfl
  | waiting =>
    simp only [Engine.advanceFlow, flowEntries, stage]
    exact does_still .nothing rfl rfl rfl
  | stopped =>
    simp only [Engine.advanceFlow, flowEntries, stage]
    exact does_still .nothing rfl rfl rfl

/-- Every step does one deed. -/
theorem does_step (tidy : Tidy world) (move : Move) : Does world (world.step move) := by
  cases move with
  | receive reception => exact does_receive reception
  | stopDispatcher => exact does_stopDispatcher
  | performDispatcher => exact does_performDispatcher
  | take => exact does_take
  | wrote result => exact does_wrote tidy result
  | shut => exact does_shut
  | drain => exact does_drain
  | performWriter => exact does_performWriter
  | wakeFlow => exact does_wakeFlow
  | advanceFlow => exact does_advanceFlow tidy
  | stopFlow => exact does_stopFlow
  | performFlow => exact does_performFlow
  | start operation =>
    refine ⟨[], _, _, deed_of_start _ operation, rfl, ?_⟩
    refine .other world.others [] rfl ?_ ?_ (calm_of_start _ operation)
    · simp
    · simp [step, start, others]
  | advance n caller => exact does_callerStep (callerStep rfl)
  | block n caller => exact does_callerStep (callerStep rfl)
  | supply n result => exact does_callerStep (callerStep rfl)
  | cancel n => exact does_callerStep (callerStep rfl)

theorem Tidy.step (tidy : Tidy world) (move : Move) : Tidy (world.step move) := by
  constructor
  · intro id frame writing
    cases writer_step move with
    | still writer work =>
      rw [work]
      exact tidy.writing (writer.symm.trans writing)
    | performed first writer left after =>
      rw [tidy.writing (writer.symm.trans writing)] at first
      cases first
    | took receiving idle first writer work => exact work.trans idle
    | wrote _ writer => simp [writer] at writing
    | failed failure _ writer left => simp [writer] at writing
    | shut closing writer => simp [writer] at writing
    | drained draining idle writer => simp [writing] at writer
  · intro awake running
    cases flow_step move with
    | still flowLoop work =>
      rw [flowLoop] at awake running
      exact work.trans (tidy.flowing awake running)
    | performed first flowLoop left after =>
      rw [flowLoop] at awake running
      rw [tidy.flowing awake running] at first
      cases first
    | woke waiting idle flowLoop work => exact work.trans idle
    | loaded awake flowLoop work =>
      exact work.trans (tidy.flowing (by simp [awake]) (by simp [awake]))
    | captured loaded flowLoop work =>
      exact work.trans (tidy.flowing (by simp [loaded]) (by simp [loaded]))
    | sent captured flowLoop => exact (flowLoop.elim awake running).elim
    | stopped waiting idle flowLoop work => exact absurd flowLoop running

theorem tidy_play (config : Config) (moves : List Move) : Tidy (play config moves) := by
  refine play_induction (P := fun _ world => Tidy world) ?_ ?_ moves
  · exact ⟨fun _ => rfl, fun _ _ => rfl⟩
  · intro moves move tidy
    exact tidy.step move

end World

end DebugLink
