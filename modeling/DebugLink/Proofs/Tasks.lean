import DebugLink.Proofs.World

/-!
# Tasks: what a move does to whoever makes it

A move is made by one of the three tasks of an engine or by a caller, and leaves the others where
they are (`spares_step`). What it makes of the one that makes it is a `DispatcherStep`, a
`WriterStep`, a `FlowStep` or a `CallerStep`. Each lists all that can come of it, and what an
invariant needs to know of a move it reads off there.
-/

namespace DebugLink

/-- Who makes a move. -/
inductive Actor
  | dispatcher
  | writer
  | flowLoop
  | caller

def Move.actor : Move → Actor
  | .receive _ | .stopDispatcher | .performDispatcher => .dispatcher
  | .take | .wrote _ | .shut | .drain | .performWriter => .writer
  | .wakeFlow | .advanceFlow | .stopFlow | .performFlow => .flowLoop
  | .start _ | .advance _ _ | .block _ _ | .supply _ _ | .cancel _ => .caller

/-- All tasks but one stay where they are. -/
structure Engine.Spares (actor : Actor) (before after : Engine) : Prop where
  dispatcher : actor ≠ .dispatcher →
    after.dispatcher = before.dispatcher ∧ after.dispatcherWork = before.dispatcherWork
  writer : actor ≠ .writer → after.writer = before.writer ∧ after.writerWork = before.writerWork
  flowLoop : actor ≠ .flowLoop →
    after.flowLoop = before.flowLoop ∧ after.flowWork = before.flowWork

namespace Engine.Spares

variable {before after : Engine}

theorem of_dispatcher (writer : after.writer = before.writer)
    (writerWork : after.writerWork = before.writerWork)
    (flowLoop : after.flowLoop = before.flowLoop) (flowWork : after.flowWork = before.flowWork) :
    Spares .dispatcher before after :=
  ⟨fun other => absurd rfl other, fun _ => ⟨writer, writerWork⟩, fun _ => ⟨flowLoop, flowWork⟩⟩

theorem of_writer (dispatcher : after.dispatcher = before.dispatcher)
    (dispatcherWork : after.dispatcherWork = before.dispatcherWork)
    (flowLoop : after.flowLoop = before.flowLoop) (flowWork : after.flowWork = before.flowWork) :
    Spares .writer before after :=
  ⟨fun _ => ⟨dispatcher, dispatcherWork⟩, fun other => absurd rfl other,
    fun _ => ⟨flowLoop, flowWork⟩⟩

theorem of_flowLoop (dispatcher : after.dispatcher = before.dispatcher)
    (dispatcherWork : after.dispatcherWork = before.dispatcherWork)
    (writer : after.writer = before.writer) (writerWork : after.writerWork = before.writerWork) :
    Spares .flowLoop before after :=
  ⟨fun _ => ⟨dispatcher, dispatcherWork⟩, fun _ => ⟨writer, writerWork⟩,
    fun other => absurd rfl other⟩

theorem of_caller (same : after = { before with connection := after.connection }) :
    Spares .caller before after := by
  rw [same]
  exact ⟨fun _ => ⟨rfl, rfl⟩, fun _ => ⟨rfl, rfl⟩, fun _ => ⟨rfl, rfl⟩⟩

end Engine.Spares

/-- The flow loop issues a command for the count that it has captured. -/
theorem Engine.advanceFlow_captured {engine : Engine} {net : Int32}
    (stage : engine.flowLoop = .captured net) :
    let issue := (engine.connection.report
      (.flowCommand net (FlowControl.command net).number)).issue (FlowControl.command net) []
    (engine.advanceFlow.flowLoop = .waiting ∨ engine.advanceFlow.flowLoop = .stopped) ∧
      engine.advanceFlow.connection = issue.2.2 ∧ engine.advanceFlow.flowWork = issue.2.1 ∧
      engine.advanceFlow.dispatcher = engine.dispatcher ∧
      engine.advanceFlow.dispatcherWork = engine.dispatcherWork ∧
      engine.advanceFlow.writer = engine.writer ∧
      engine.advanceFlow.writerWork = engine.writerWork := by
  simp only [Engine.advanceFlow, stage]
  split
  · next issued => simp [issued]
  · next issued => simp [issued]

/-! ## What a task makes of itself -/

/-- What a move makes of the dispatcher. -/
inductive DispatcherStep (move : Move) (engine engine' : Engine) : Prop
  | still (dispatcher : engine'.dispatcher = engine.dispatcher)
    (work : engine'.dispatcherWork = engine.dispatcherWork)
  | performed {work : Work} {rest : List Work} (performs : move = .performDispatcher)
    (first : engine.dispatcherWork = work :: rest)
    (dispatcher : engine'.dispatcher = engine.dispatcher)
    (left : engine'.dispatcherWork = (engine.connection.perform work).1 ++ rest)
    (after : engine'.connection = (engine.connection.perform work).2)
  | read {frame : Bytes} (reads : move = .receive (.frame frame))
    (reading : engine.dispatcher = .reading) (idle : engine.dispatcherWork = [])
    (dispatcher : engine'.dispatcher = engine.dispatcher)
    (left : engine'.dispatcherWork =
      ((engine.connection.report (.frameReceived frame)).accept frame).1)
  | stopped (reading : engine.dispatcher = .reading) (idle : engine.dispatcherWork = [])
    (dispatcher : engine'.dispatcher = .stopped) (left : engine'.dispatcherWork = [.disconnect])

/-- Where the writer stands once it has taken a message. -/
def Message.phase : Message → Writer
  | .frame id bytes => .writing id bytes
  | .close => .closing

/-- What a move makes of the writer. -/
inductive WriterStep (engine engine' : Engine) : Prop
  | still (writer : engine'.writer = engine.writer) (work : engine'.writerWork = engine.writerWork)
  | performed {work : Work} {rest : List Work} (first : engine.writerWork = work :: rest)
    (writer : engine'.writer = engine.writer)
    (left : engine'.writerWork = (engine.connection.perform work).1 ++ rest)
    (after : engine'.connection = (engine.connection.perform work).2)
  | took {message : Message} {rest : List Message} (receiving : engine.writer = .receiving)
    (idle : engine.writerWork = []) (first : engine.connection.outbound = message :: rest)
    (writer : engine'.writer = message.phase) (work : engine'.writerWork = engine.writerWork)
  | wrote {id : UInt32} {frame : Bytes} (writing : engine.writer = .writing id frame)
    (writer : engine'.writer = .receiving)
  | failed {id : UInt32} {frame : Bytes} (failure : Failure)
    (writing : engine.writer = .writing id frame) (writer : engine'.writer = .draining)
    (left : engine'.writerWork = [.abandon id failure, .disconnect])
  | shut (closing : engine.writer = .closing) (writer : engine'.writer = .draining)
  | drained (draining : engine.writer = .draining) (idle : engine.writerWork = [])
    (writer : engine'.writer = .draining ∨ engine'.writer = .exited)

/-- What a move makes of the flow loop. -/
inductive FlowStep (engine engine' : Engine) : Prop
  | still (flowLoop : engine'.flowLoop = engine.flowLoop)
    (work : engine'.flowWork = engine.flowWork)
  | performed {work : Work} {rest : List Work} (first : engine.flowWork = work :: rest)
    (flowLoop : engine'.flowLoop = engine.flowLoop)
    (left : engine'.flowWork = (engine.connection.perform work).1 ++ rest)
    (after : engine'.connection = (engine.connection.perform work).2)
  | woke (waiting : engine.flowLoop = .waiting) (idle : engine.flowWork = [])
    (flowLoop : engine'.flowLoop = .awake) (work : engine'.flowWork = engine.flowWork)
  | loaded (awake : engine.flowLoop = .awake)
    (flowLoop : engine'.flowLoop = .loaded engine.connection.feed.flow.net)
    (work : engine'.flowWork = engine.flowWork)
  | captured {net : Int32} (loaded : engine.flowLoop = .loaded net)
    (flowLoop : engine'.flowLoop = if net = 0 then .waiting else .captured net)
    (work : engine'.flowWork = engine.flowWork)
  | sent {net : Int32} (captured : engine.flowLoop = .captured net)
    (flowLoop : engine'.flowLoop = .waiting ∨ engine'.flowLoop = .stopped)
  | stopped (waiting : engine.flowLoop = .waiting) (idle : engine.flowWork = [])
    (flowLoop : engine'.flowLoop = .stopped) (work : engine'.flowWork = engine.flowWork)

namespace World

variable {world world' : World}

/-- A caller stands between others, who stay as they are when it changes. -/
theorem exists_split {α : Type} {list : List α} {n : Nat} {a : α} (found : list[n]? = some a) :
    ∃ before after, list = before ++ a :: after ∧
      ∀ a', list.set n a' = before ++ a' :: after := by
  obtain ⟨hn, rfl⟩ := List.getElem?_eq_some_iff.mp found
  refine ⟨list.take n, list.drop (n + 1), ?_, fun a' => ?_⟩
  · rw [List.getElem_cons_drop, List.take_append_drop]
  · exact List.set_eq_take_append_cons_drop.trans (if_pos hn)

/-- What comes of a move of a caller that has begun something: nothing, or it has gone on. -/
inductive CallerStep (world : World) (move : Move) (n : Nat) : World → Prop
  | still : CallerStep world move n world
  | performed {work : Work} {rest : List Work} {stage : Stage}
    (found : world.activities[n]? = some ⟨work :: rest, stage⟩) :
    CallerStep world move n
      (world.recordCaller n ⟨(world.connection.perform work).1 ++ rest, stage⟩
        (world.connection.workEntries work) (world.connection.perform work).2)
  | told {call : Call} {issued : Except Failure Receipt} {outcome : Except Failure Bytes}
    (found : world.activities[n]? = some ⟨[], .calling call issued⟩)
    (polled : ∀ receipt, issued = .ok receipt → ∃ caller,
      receipt.poll caller world.connection = some outcome ∨
        receipt.wait caller world.connection = some outcome) :
    CallerStep world move n
      (world.recordCaller n ⟨(call.finish outcome world.connection).2.1, .concluding call issued⟩
        (outcomeEntries outcome issued) (call.finish outcome world.connection).2.2)
  /-- It has done what it had to do about events, or waits no longer. -/
  | rested {stage stage' : Stage} (feed : EventFeed)
    (found : world.activities[n]? = some ⟨[], stage⟩) (rests : stage' = .judging ∨ stage' = .done) :
    CallerStep world move n (world.recordCaller n ⟨[], stage'⟩ [] { world.connection with feed })
  | stored {key : String} {kind : ValueKind} {stamp : Stamp} {value : StoredValue}
    (supplies : move = .supply n (.ok value))
    (found : world.activities[n]? = some ⟨[], .computing key kind stamp⟩)
    (fits : value.kind = kind) :
    CallerStep world move n
      (world.recordCaller n { works := (world.connection.store key stamp value).1 }
        [.stored n key value (world.connection.scope.honours stamp)]
        (world.connection.store key stamp value).2)

theorem callerStep_goOn {move : Move} {n : Nat}
    {poll : Receipt → Option (Except Failure Bytes)}
    (polled : ∀ receipt outcome, poll receipt = some outcome →
      ∃ caller, receipt.poll caller world.connection = some outcome ∨
        receipt.wait caller world.connection = some outcome) :
    CallerStep world move n (world.goOn n poll) := by
  unfold goOn
  split
  · exact .still
  · next found => exact .performed found
  · next call issued found =>
    split
    · exact .still
    · next outcome told =>
      refine .told found fun receipt issued => polled receipt outcome ?_
      rw [issued] at told
      exact told
  · next found => exact .rested _ found (.inl rfl)
  · next found => exact .rested _ found (.inr rfl)
  · next found => exact .rested _ found (.inr rfl)
  · exact .still

theorem callerStep_supply (n : Nat) (result : Except Failure StoredValue) :
    CallerStep world (.supply n result) n (world.supply n result) := by
  unfold supply
  split
  · next found => exact .rested _ found (.inr rfl)
  · next found =>
    split
    · next fits => exact .stored rfl found fits
    · exact .still
  · exact .still

theorem callerStep_cancel (n : Nat) : CallerStep world (.cancel n) n (world.cancel n) := by
  unfold cancel
  split
  · next found => exact .rested _ found (.inr rfl)
  · next found => exact .rested _ found (.inr rfl)
  · exact .still

/-- The caller that makes a move, if it has begun something before. -/
def mover? : Move → Option Nat
  | .advance n _ | .block n _ | .supply n _ | .cancel n => some n
  | _ => none

theorem callerStep {move : Move} {n : Nat} (moves : mover? move = some n) :
    CallerStep world move n (world.step move) := by
  cases move with
  | advance m caller =>
    obtain rfl := Option.some.inj moves
    exact callerStep_goOn fun _ _ polled => ⟨caller, .inl polled⟩
  | block m caller =>
    obtain rfl := Option.some.inj moves
    exact callerStep_goOn fun _ _ polled => ⟨caller, .inr polled⟩
  | supply m result =>
    obtain rfl := Option.some.inj moves
    exact callerStep_supply m result
  | cancel m =>
    obtain rfl := Option.some.inj moves
    exact callerStep_cancel m
  | _ => cases moves

/-- A caller changes nothing of the engine but the connection. -/
theorem CallerStep.engine {move : Move} {n : Nat} {world' : World}
    (step : CallerStep world move n world') :
    world'.engine = { world.engine with connection := world'.connection } := by
  cases step <;> rfl

/-! ## Every move -/

/-- A move leaves all tasks but that which makes it where they are. -/
theorem spares_step (move : Move) :
    Engine.Spares move.actor world.engine (world.step move).engine := by
  cases move with
  | receive reception =>
    simp only [step, Engine.received]
    split
    · cases reception <;> exact .of_dispatcher rfl rfl rfl rfl
    · exact .of_dispatcher rfl rfl rfl rfl
  | stopDispatcher =>
    simp only [step, Engine.stopDispatcher]
    split <;> exact .of_dispatcher rfl rfl rfl rfl
  | performDispatcher =>
    simp only [step, Engine.performDispatcher]
    split <;> exact .of_dispatcher rfl rfl rfl rfl
  | take =>
    simp only [step, Engine.take]
    split
    · split <;> exact .of_writer rfl rfl rfl rfl
    · exact .of_writer rfl rfl rfl rfl
  | wrote result =>
    simp only [step, Engine.wrote]
    split <;> exact .of_writer rfl rfl rfl rfl
  | shut =>
    simp only [step, Engine.shut]
    split <;> exact .of_writer rfl rfl rfl rfl
  | drain =>
    simp only [step, Engine.drain]
    split
    · split <;> exact .of_writer rfl rfl rfl rfl
    · exact .of_writer rfl rfl rfl rfl
  | performWriter =>
    simp only [step, Engine.performWriter]
    split <;> exact .of_writer rfl rfl rfl rfl
  | wakeFlow =>
    simp only [step, Engine.wakeFlow]
    split <;> exact .of_flowLoop rfl rfl rfl rfl
  | advanceFlow =>
    cases stage : world.engine.flowLoop with
    | captured net =>
      obtain ⟨-, -, -, dispatcher, dispatcherWork, writer, writerWork⟩ :=
        Engine.advanceFlow_captured stage
      exact .of_flowLoop dispatcher dispatcherWork writer writerWork
    | loaded net =>
      simp only [step, Engine.advanceFlow, stage]
      split <;> exact .of_flowLoop rfl rfl rfl rfl
    | _ =>
      simp only [step, Engine.advanceFlow, stage]
      exact .of_flowLoop rfl rfl rfl rfl
  | stopFlow =>
    simp only [step, Engine.stopFlow]
    split <;> exact .of_flowLoop rfl rfl rfl rfl
  | performFlow =>
    simp only [step, Engine.performFlow]
    split <;> exact .of_flowLoop rfl rfl rfl rfl
  | start operation => exact .of_caller rfl
  | advance n caller => exact .of_caller (callerStep rfl).engine
  | block n caller => exact .of_caller (callerStep rfl).engine
  | supply n result => exact .of_caller (callerStep rfl).engine
  | cancel n => exact .of_caller (callerStep rfl).engine

theorem dispatcher_step (move : Move) :
    DispatcherStep move world.engine (world.step move).engine := by
  have spares := @spares_step world move
  have others (other : move.actor ≠ .dispatcher) :
      DispatcherStep move world.engine (world.step move).engine :=
    .still (spares.dispatcher other).1 (spares.dispatcher other).2
  cases move with
  | receive reception =>
    simp only [step, Engine.received]
    split
    · next ready =>
      cases reception with
      | frame frame => exact .read rfl ready.1 ready.2 rfl rfl
      | finished => exact .stopped ready.1 ready.2 rfl rfl
      | failed failure => exact .stopped ready.1 ready.2 rfl rfl
    · exact .still rfl rfl
  | stopDispatcher =>
    simp only [step, Engine.stopDispatcher]
    split
    · next ready => exact .stopped ready.1 ready.2.1 rfl rfl
    · exact .still rfl rfl
  | performDispatcher =>
    simp only [step, Engine.performDispatcher]
    split
    · exact .still rfl rfl
    · next first => exact .performed rfl first rfl rfl rfl
  | _ => exact others (by simp [Move.actor])

theorem writer_step (move : Move) : WriterStep world.engine (world.step move).engine := by
  have spares := @spares_step world move
  have others (other : move.actor ≠ .writer) :
      WriterStep world.engine (world.step move).engine :=
    .still (spares.writer other).1 (spares.writer other).2
  cases move with
  | take =>
    simp only [step, Engine.take]
    split
    · next ready =>
      split
      · exact .still rfl rfl
      · next first => exact .took ready.1 ready.2 first rfl rfl
      · next first => exact .took ready.1 ready.2 first rfl rfl
    · exact .still rfl rfl
  | wrote result =>
    simp only [step, Engine.wrote]
    split
    · next writing => exact .wrote writing rfl
    · next failure writing => exact .failed failure writing rfl rfl
    · exact .still rfl rfl
  | shut =>
    simp only [step, Engine.shut]
    split
    · next closing => exact .shut closing rfl
    · exact .still rfl rfl
  | drain =>
    simp only [step, Engine.drain]
    split
    · next ready =>
      split
      · exact .drained ready.1 ready.2 (.inr rfl)
      · exact .drained ready.1 ready.2 (.inl ready.1)
      · exact .drained ready.1 ready.2 (.inl ready.1)
    · exact .still rfl rfl
  | performWriter =>
    simp only [step, Engine.performWriter]
    split
    · exact .still rfl rfl
    · next first => exact .performed first rfl rfl rfl
  | _ => exact others (by simp [Move.actor])

theorem flow_step (move : Move) : FlowStep world.engine (world.step move).engine := by
  have spares := @spares_step world move
  have others (other : move.actor ≠ .flowLoop) : FlowStep world.engine (world.step move).engine :=
    .still (spares.flowLoop other).1 (spares.flowLoop other).2
  cases move with
  | wakeFlow =>
    simp only [step, Engine.wakeFlow]
    split
    · next ready => exact .woke ready.1 ready.2.1 rfl rfl
    · exact .still rfl rfl
  | advanceFlow =>
    cases stage : world.engine.flowLoop with
    | awake =>
      simp only [step, Engine.advanceFlow, stage]
      exact .loaded stage rfl rfl
    | loaded net =>
      simp only [step, Engine.advanceFlow, stage]
      split
      · next none => exact .captured stage (if_pos none).symm rfl
      · next some => exact .captured stage (if_neg some).symm rfl
    | captured net => exact .sent stage (Engine.advanceFlow_captured stage).1
    | waiting =>
      simp only [step, Engine.advanceFlow, stage]
      exact .still rfl rfl
    | stopped =>
      simp only [step, Engine.advanceFlow, stage]
      exact .still rfl rfl
  | stopFlow =>
    simp only [step, Engine.stopFlow]
    split
    · next ready => exact .stopped ready.1 ready.2.1 rfl rfl
    · exact .still rfl rfl
  | performFlow =>
    simp only [step, Engine.performFlow]
    split
    · exact .still rfl rfl
    · next first => exact .performed first rfl rfl rfl
  | _ => exact others (by simp [Move.actor])

/-! ## Pieces that are performed -/

section

variable {work : Work} {rest : List Work}

theorem engine_performDispatcher (first : world.engine.dispatcherWork = work :: rest) :
    (world.step .performDispatcher).engine =
      { world.engine with
        connection := (world.connection.perform work).2
        dispatcherWork := (world.connection.perform work).1 ++ rest } := by
  simp [step, record, Engine.performDispatcher, first, connection]

theorem journal_performDispatcher (first : world.engine.dispatcherWork = work :: rest) :
    (world.step .performDispatcher).journal =
      world.journal ++ world.connection.workEntries work := by
  simp [step, record, first, Connection.headEntries]

theorem journal_performWriter (first : world.engine.writerWork = work :: rest) :
    (world.step .performWriter).journal = world.journal ++ world.connection.workEntries work := by
  simp [step, record, first, Connection.headEntries]

end

end World

end DebugLink
