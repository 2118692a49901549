import DebugLink.Proofs.Passage
import DebugLink.Proofs.Teardown

/-!
# Wire: what the writer makes of the packets that are queued

A command that is issued leaves its packet at the end of the queue to the writer, in the same step
(`Posts`), and nobody else puts packets there. The writer hands them to the transport from the front
of the queue, one after the other, until a packet cannot be written or it is told to close. Then it
is past its last packet, and gives up whatever is queued. `WireStep` lists all that a move can do to
the writer, its queue and the record of its acts.

What is kept by every step is `Wired`. The packets that were handed over, those that were given up
and those that are queued are those of the commands that were issued, in that order, and none is
given up before the writer is past its last packet.

Main statement: `closedOnce_iff`. The writer closes the transport just if no packet fails to be
written, and hands nothing over afterwards. If one fails, the message that tells it to close is
given up with the packets.
-/

namespace DebugLink

/-! ## Packets and what is recorded of them -/

/-- The packet of a command that was issued, with its id. -/
def Entry.packet? : Entry → Option (UInt32 × Bytes)
  | .issued receipt command data =>
    some (receipt.id, CommandPacket.encode ⟨receipt.id, command.set, command.number, data⟩)
  | _ => none

/-- The packet that was handed to the transport, with its id. -/
def Entry.handed? : Entry → Option (UInt32 × Bytes)
  | .handed id frame => some (id, frame)
  | _ => none

/-- What became of a packet. -/
def Entry.result? : Entry → Option (UInt32 × Except Failure Unit)
  | .wrote id result => some (id, result)
  | _ => none

/-- Whether an entry tells that the transport was closed. -/
def Entry.closes : Entry → Bool
  | .shut => true
  | _ => false

/-- Whether an entry tells that a packet could not be written. -/
def Entry.fails : Entry → Bool
  | .wrote _ (.error _) => true
  | _ => false

/-- Whether an entry tells that the writer is past its last packet. -/
def Entry.finishes (entry : Entry) : Bool :=
  entry.closes || entry.fails

/-- Whether an entry is of what the writer does with the transport. -/
def Entry.conveys : Entry → Bool
  | .handed .. | .wrote .. | .shut => true
  | _ => false

/-- Whether an entry is of what the writer does with the transport, or of a command that was
issued. -/
def Entry.wire : Entry → Bool
  | .issued .. => true
  | entry => entry.conveys

/-- The packets of the commands that were issued. -/
def packets (journal : List Entry) : List (UInt32 × Bytes) :=
  journal.filterMap Entry.packet?

/-- The packets that were handed to the transport. -/
def handed (journal : List Entry) : List (UInt32 × Bytes) :=
  journal.filterMap Entry.handed?

/-- What became of the packets that were handed to the transport. -/
def results (journal : List Entry) : List (UInt32 × Except Failure Unit) :=
  journal.filterMap Entry.result?

variable {journal entries : List Entry}

@[simp]
theorem packets_nil : packets [] = [] := rfl

@[simp]
theorem packets_cons (entry : Entry) :
    packets (entry :: entries) = entry.packet?.toList ++ packets entries :=
  filterMap_cons_toList _ _ _

@[simp]
theorem packets_append : packets (journal ++ entries) = packets journal ++ packets entries :=
  List.filterMap_append

@[simp]
theorem handed_nil : handed [] = [] := rfl

@[simp]
theorem handed_cons (entry : Entry) :
    handed (entry :: entries) = entry.handed?.toList ++ handed entries :=
  filterMap_cons_toList _ _ _

@[simp]
theorem handed_append : handed (journal ++ entries) = handed journal ++ handed entries :=
  List.filterMap_append

@[simp]
theorem results_nil : results [] = [] := rfl

@[simp]
theorem results_cons (entry : Entry) :
    results (entry :: entries) = entry.result?.toList ++ results entries :=
  filterMap_cons_toList _ _ _

@[simp]
theorem results_append : results (journal ++ entries) = results journal ++ results entries :=
  List.filterMap_append

theorem countP_fails_eq_zero :
    journal.countP Entry.fails = 0 ↔ ∀ id failure, .wrote id (.error failure) ∉ journal := by
  rw [List.countP_eq_zero]
  refine ⟨fun none id failure mem => none _ mem rfl, fun none entry mem fails => ?_⟩
  cases entry with
  | wrote id result =>
    cases result with
    | ok _ => cases fails
    | error failure => exact none id failure mem
  | _ => cases fails

theorem countP_closes_pos : 0 < journal.countP Entry.closes ↔ .shut ∈ journal := by
  rw [List.countP_pos_iff]
  refine ⟨fun ⟨entry, mem, closes⟩ => ?_, fun mem => ⟨_, mem, rfl⟩⟩
  cases entry with
  | shut => exact mem
  | _ => cases closes

/-- Entries that do not concern the wire. -/
def Offline (entries : List Entry) : Prop :=
  ∀ entry ∈ entries, entry.wire = false

namespace Offline

theorem nil : Offline [] := by simp [Offline]

theorem of_plain_start {connection : Connection} {n : Nat} {operation : Operation}
    (other : ∀ call, operation ≠ .call call) : Offline (connection.start n operation).1 := by
  cases operation <;> simp only [Connection.start]
  case call call => exact absurd rfl (other call)
  case cache => split <;> simp [Offline, Entry.wire, Entry.conveys]
  case receive => split <;> simp [Offline, Entry.wire, Entry.conveys]
  all_goals simp [Offline, Entry.wire, Entry.conveys]

/-- Nothing is recorded of the wire when a piece of work is performed, unless that disposes. -/
theorem of_work (connection : Connection) {work : Work}
    (other : ∀ payload, work ≠ .dispose payload) : Offline (connection.workEntries work) := by
  unfold Connection.workEntries
  refine List.forall_mem_cons.mpr ⟨rfl, ?_⟩
  cases work with
  | dispose payload => exact absurd rfl (other payload)
  | disconnect =>
    dsimp only
    split <;> simp [Entry.wire, Entry.conveys]
  | _ => simp

/-- What is read off entries of the wire is not found among others. -/
theorem filterMap {α : Type} {f : Entry → Option α} (offline : Offline entries)
    (skips : ∀ entry : Entry, entry.wire = false → f entry = none) : entries.filterMap f = [] :=
  List.filterMap_eq_nil_iff.mpr fun entry mem => skips entry (offline entry mem)

theorem countP {p : Entry → Bool} (offline : Offline entries)
    (skips : ∀ entry : Entry, entry.wire = false → p entry = false) : entries.countP p = 0 :=
  List.countP_eq_zero.mpr fun entry mem =>
    Bool.eq_false_iff.mp (skips entry (offline entry mem))

theorem packets (offline : Offline entries) : packets entries = [] :=
  offline.filterMap fun entry calm => by cases entry <;> first | rfl | cases calm

theorem handed (offline : Offline entries) : handed entries = [] :=
  offline.filterMap fun entry calm => by cases entry <;> first | rfl | cases calm

theorem results (offline : Offline entries) : results entries = [] :=
  offline.filterMap fun entry calm => by cases entry <;> first | rfl | cases calm

theorem closes (offline : Offline entries) : entries.countP Entry.closes = 0 :=
  offline.countP fun entry calm => by cases entry <;> first | rfl | cases calm

theorem fails (offline : Offline entries) : entries.countP Entry.fails = 0 :=
  offline.countP fun entry calm => by cases entry <;> first | rfl | cases calm

theorem silent (offline : Offline entries) : ∀ entry ∈ entries, entry.conveys = false := by
  intro entry mem
  have calm := offline entry mem
  cases entry <;> first | rfl | exact calm

end Offline

/-- The packet in a message to the writer, with its id. -/
def Message.packet? : Message → Option (UInt32 × Bytes)
  | .frame id bytes => some (id, bytes)
  | .close => none

/-- The packets that wait for the writer. -/
def Connection.unsent (connection : Connection) : List (UInt32 × Bytes) :=
  connection.outbound.filterMap Message.packet?

namespace Connection

variable {connection before after : Connection}

/-! ## Who puts messages in the queue -/

/-- What is put in the queue to the writer, and what is recorded of it. -/
inductive Posts (before : Connection) (entries : List Entry) (after : Connection) : Prop
  | nothing (offline : Offline entries) (queue : after.outbound = before.outbound)
  | close (offline : Offline entries) (queue : after.outbound = before.outbound ++ [.close])
  | packet {earlier : List Entry} (command : Command) (data : Bytes) (live : before.dead = false)
    (offline : Offline earlier)
    (recorded : entries = earlier ++ [.issued before.nextReceipt command data])
    (queue : after.outbound = before.outbound ++ [before.nextMessage command data])

theorem Posts.of_keeps (keeps : before.Keeps after) (offline : Offline entries) :
    Posts before entries after :=
  .nothing offline keeps.outbound

theorem posts_issue (earlier : List Entry) (command : Command) (data : Bytes)
    (notices : List Notice) (offline : Offline earlier)
    (accepts : connection.dead = false → connection.outboundOpen = true) :
    connection.Posts (earlier ++ { connection with notices }.issueEntries command data)
      ({ connection with notices }.issue command data).2.2 := by
  rcases connection.dead.eq_false_or_eq_true with dead | live
  · have dead' : { connection with notices }.dead = true := dead
    rw [issueEntries_of_dead dead', issue_of_dead dead', List.append_nil]
    exact .nothing offline rfl
  · have live' : { connection with notices }.dead = false := live
    have accepts' : { connection with notices }.outboundOpen = true := accepts live
    rw [issueEntries_of_open live' accepts', issue_of_open live' accepts']
    exact .packet command data live offline rfl rfl

theorem posts_perform (work : Work)
    (accepts : connection.dead = false → connection.outboundOpen = true) :
    connection.Posts (connection.workEntries work) (connection.perform work).2 := by
  -- Only a piece that disposes issues a command.
  have aside (is_aside : work.aside) (other : ∀ payload, work ≠ .dispose payload) :
      connection.Posts (connection.workEntries work) (connection.perform work).2 :=
    .of_keeps (keeps_perform is_aside) (.of_work connection other)
  cases work with
  | dispose payload =>
    exact posts_issue [.performed (.dispose payload)] .disposeObjects payload
      connection.notices (by simp [Offline, Entry.wire, Entry.conveys]) accepts
  | disconnect =>
    refine .nothing (.of_work connection (by simp)) ?_
    simp only [perform, disconnect, invalidate]
    split
    · rfl
    · split <;> rfl
  | queueClose =>
    have offline : Offline (connection.workEntries .queueClose) := .of_work connection (by simp)
    rcases connection.outboundOpen.eq_false_or_eq_true with accepting | refusing
    · exact .close offline (by simp [perform, accepting])
    · exact .nothing offline (by simp [perform, refusing])
  | replied reply =>
    exact .nothing (.of_work connection (by simp)) (connection.perform_replied reply).2.outbound
  | abandon id failure =>
    exact .nothing (.of_work connection (by simp))
      (connection.perform_abandon id failure).2.outbound
  | suspended => exact .nothing (.of_work connection (by simp)) keeps_noteSuspended.outbound
  | resolve request reply => exact .nothing (.of_work connection (by simp)) rfl
  | fail request failure => exact .nothing (.of_work connection (by simp)) rfl
  | _ => exact aside rfl (by simp)

theorem outbound_withFlow (f : FlowControl → FlowControl) :
    (connection.withFlow f).outbound = connection.outbound := rfl

/-- What a caller begins puts no packet in the queue, unless it issues a command. -/
theorem outbound_start {n : Nat} {operation : Operation}
    (other : ∀ call, operation ≠ .call call) :
    (connection.start n operation).2.2.outbound = connection.outbound := by
  cases operation with
  | call call => exact absurd rfl (other call)
  | cache key kind =>
    simp only [start, lookup]
    cases connection.scope.value? key (·.kind == kind) <;> rfl
  | invalidate =>
    simp only [start, invalidate]
    split <;> rfl
  | measure =>
    simp only [start]
    exact keeps_probe.outbound
  | receive id =>
    simp only [start]
    split <;> rfl
  | acquire object => simp only [start, acquire]
  | cloneLease lease => simp only [start, cloneAll]
  | hold => exact outbound_withFlow _
  | release => exact outbound_withFlow _
  | cloneHandle => simp only [start, retain]
  | dropHandle => simp only [start, Connection.release]
  | _ => simp only [start]

theorem posts_start (n : Nat) (operation : Operation)
    (accepts : connection.dead = false → connection.outboundOpen = true) :
    connection.Posts (connection.start n operation).1 (connection.start n operation).2.2 := by
  by_cases calls : ∃ call, operation = .call call
  · obtain ⟨call, rfl⟩ := calls
    exact posts_issue [] call.command _ connection.notices .nil accepts
  · rw [not_exists] at calls
    exact .nothing (.of_plain_start calls) (outbound_start calls)

theorem outbound_finish (call : Call) (outcome : Except Failure Bytes) :
    (call.finish outcome connection).2.2.outbound = connection.outbound := by
  cases call <;> simp only [Call.finish]
  case idSizes => split <;> rfl
  case suspendAll => split <;> rfl

theorem outbound_store (key : String) (stamp : Stamp) (value : StoredValue) :
    (connection.store key stamp value).2.outbound = connection.outbound := by
  simp only [store]
  split <;> rfl

end Connection

/-! ## What a move does to the writer -/

/-- Whether the writer is past its last packet. -/
def Writer.past : Writer → Bool
  | .draining | .exited => true
  | _ => false

/-- The id of the packet that the writer has handed over and not heard of. -/
def Writer.current? : Writer → Option UInt32
  | .writing id _ => some id
  | _ => none

namespace World

variable {world world' : World}

/-- What a move does to the writer, its queue and what is recorded of the wire. -/
inductive WireStep (world world' : World) : Prop
  | posts {entries : List Entry} (writer : world'.engine.writer = world.engine.writer)
    (journal : world'.journal = world.journal ++ entries)
    (posts : world.connection.Posts entries world'.connection)
  | handed {id : UInt32} {bytes : Bytes} (receiving : world.engine.writer = .receiving)
    (writer : world'.engine.writer = .writing id bytes)
    (journal : world'.journal = world.journal ++ [.handed id bytes])
    (queue : world.connection.outbound = .frame id bytes :: world'.connection.outbound)
  | closing (receiving : world.engine.writer = .receiving)
    (writer : world'.engine.writer = .closing) (journal : world'.journal = world.journal)
    (queue : world.connection.outbound = .close :: world'.connection.outbound)
  | wrote {id : UInt32} {bytes : Bytes} (writing : world.engine.writer = .writing id bytes)
    (writer : world'.engine.writer = .receiving)
    (journal : world'.journal = world.journal ++ [.wrote id (.ok ())])
    (queue : world'.connection.outbound = world.connection.outbound)
  | failed {id : UInt32} {bytes : Bytes} (failure : Failure)
    (writing : world.engine.writer = .writing id bytes)
    (writer : world'.engine.writer = .draining)
    (journal : world'.journal = world.journal ++ [.wrote id (.error failure)])
    (queue : world'.connection.outbound = world.connection.outbound)
  | shut (closing : world.engine.writer = .closing) (writer : world'.engine.writer = .draining)
    (journal : world'.journal = world.journal ++ [.shut])
    (queue : world'.connection.outbound = world.connection.outbound)
  /-- What is first in the queue is given up. -/
  | drained (draining : world.engine.writer = .draining)
    (writer : world'.engine.writer.past = true) (current : world'.engine.writer.current? = none)
    (journal : world'.journal = world.journal)
    (queue : world'.connection.outbound = world.connection.outbound.tail)

theorem wireStep_take : WireStep world (world.step .take) := by
  simp only [step, Engine.take, takeEntries, connection]
  split
  · next ready =>
    cases queued : world.engine.connection.outbound with
    | nil => exact .posts rfl rfl (.nothing .nil rfl)
    | cons message rest =>
      cases message with
      | frame id bytes => exact .handed ready.1 rfl rfl queued
      | close => exact .closing ready.1 rfl (List.append_nil _) queued
  · exact .posts rfl rfl (.nothing .nil rfl)

theorem wireStep_wrote (result : Except Failure Unit) :
    WireStep world (world.step (.wrote result)) := by
  simp only [step, Engine.wrote, wroteEntries]
  cases phase : world.engine.writer with
  | writing id bytes =>
    cases result with
    | ok _ => exact .wrote phase rfl rfl rfl
    | error failure => exact .failed failure phase rfl rfl rfl
  | receiving => exact .posts rfl rfl (.nothing .nil rfl)
  | closing => exact .posts rfl rfl (.nothing .nil rfl)
  | draining => exact .posts rfl rfl (.nothing .nil rfl)
  | exited => exact .posts rfl rfl (.nothing .nil rfl)

theorem wireStep_shut : WireStep world (world.step .shut) := by
  simp only [step, Engine.shut]
  split
  · next closing => exact .shut closing rfl rfl rfl
  · exact .posts rfl rfl (.nothing .nil rfl)

theorem wireStep_drain : WireStep world (world.step .drain) := by
  simp only [step, Engine.drain]
  split
  · next ready =>
    cases queued : world.engine.connection.outbound with
    | nil =>
      refine .drained ready.1 rfl rfl (List.append_nil _) ?_
      simp [record, connection, queued]
    | cons message rest =>
      have past : world.engine.writer.past = true := by rw [ready.1]; rfl
      have current : world.engine.writer.current? = none := by rw [ready.1]; rfl
      cases message with
      | frame id bytes =>
        refine .drained ready.1 past current (List.append_nil _) ?_
        simp [record, connection, queued]
      | close =>
        refine .drained ready.1 past current (List.append_nil _) ?_
        simp [record, connection, queued]
  · exact .posts rfl rfl (.nothing .nil rfl)

/-- A caller that goes on puts packets in the queue only by performing a piece of work. -/
theorem wireStep_caller {move : Move} {n : Nat} (step : CallerStep world move n world')
    (accepts : world.connection.dead = false → world.connection.outboundOpen = true) :
    WireStep world world' := by
  cases step with
  | still => exact .posts rfl (List.append_nil _).symm (.nothing .nil rfl)
  | performed found => exact .posts rfl rfl (Connection.posts_perform _ accepts)
  | @told call issued outcome found polled =>
    refine .posts rfl rfl (.nothing ?_ (Connection.outbound_finish call outcome))
    cases issued <;> simp [outcomeEntries, Offline, Entry.wire, Entry.conveys]
  | rested feed found rests => exact .posts rfl rfl (.nothing .nil rfl)
  | @stored key kind stamp value supplies found fits =>
    exact .posts rfl rfl (.nothing (by simp [Offline, Entry.wire, Entry.conveys])
      (Connection.outbound_store key stamp value))

theorem wireStep_receive (reception : Reception) :
    WireStep world (world.step (.receive reception)) := by
  refine .posts (spares_step _ |>.writer (by simp [Move.actor])).1 rfl (.nothing .nil ?_)
  simp only [step, Engine.received]
  split
  · cases reception with
    | frame frame => exact ((Connection.keeps_report _).trans (accept_connection _ frame)).outbound
    | finished => rfl
    | failed failure => rfl
  · rfl

theorem wireStep_advanceFlow
    (accepts : world.connection.dead = false → world.connection.outboundOpen = true) :
    WireStep world (world.step .advanceFlow) := by
  have writer : (world.step .advanceFlow).engine.writer = world.engine.writer :=
    (spares_step _ |>.writer (by simp [Move.actor])).1
  cases stage : world.engine.flowLoop with
  | captured net =>
    obtain ⟨-, after, -⟩ := Engine.advanceFlow_captured stage
    refine .posts writer rfl ?_
    rw [flowEntries, stage]
    simp only [step, record, connection, after]
    exact Connection.posts_issue [] (FlowControl.command net) [] _ .nil accepts
  | loaded net =>
    refine .posts writer rfl ?_
    simp only [flowEntries, stage, step, Engine.advanceFlow]
    refine .nothing .nil ?_
    split <;> rfl
  | _ =>
    refine .posts writer rfl ?_
    simp only [flowEntries, stage, step, Engine.advanceFlow]
    exact .nothing .nil rfl

/-- A task that performs a piece of its own puts in the queue what the piece does. -/
theorem wireStep_perform {engine : Engine} {works : List Work}
    (writer : engine.writer = world.engine.writer)
    (performed : works = [] ∧ engine.connection = world.connection ∨
      ∃ work rest, works = work :: rest ∧ engine.connection = (world.connection.perform work).2)
    (accepts : world.connection.dead = false → world.connection.outboundOpen = true) :
    WireStep world (world.record engine (world.connection.headEntries works)) := by
  refine .posts writer rfl ?_
  obtain ⟨rfl, same⟩ | ⟨work, rest, rfl, after⟩ := performed
  · exact .nothing .nil (congrArg Connection.outbound same)
  · simp only [record, connection, after]
    exact Connection.posts_perform work accepts

theorem wireStep
    (accepts : world.connection.dead = false → world.connection.outboundOpen = true)
    (move : Move) : WireStep world (world.step move) := by
  have spares : world.engine.Spares move.actor (world.step move).engine := spares_step move
  have writer := spares.writer
  cases move with
  | receive reception => exact wireStep_receive reception
  | stopDispatcher =>
    refine .posts (writer (by simp [Move.actor])).1 rfl (.nothing .nil ?_)
    simp only [step, Engine.stopDispatcher]
    split <;> rfl
  | performDispatcher =>
    refine wireStep_perform (writer (by simp [Move.actor])).1 ?_ accepts
    simp only [Engine.performDispatcher]
    cases world.engine.dispatcherWork with
    | nil => exact .inl ⟨rfl, rfl⟩
    | cons work rest => exact .inr ⟨work, rest, rfl, rfl⟩
  | take => exact wireStep_take
  | wrote result => exact wireStep_wrote result
  | shut => exact wireStep_shut
  | drain => exact wireStep_drain
  | performWriter =>
    refine wireStep_perform ?_ ?_ accepts
    · simp only [Engine.performWriter]
      split <;> rfl
    · simp only [Engine.performWriter]
      cases world.engine.writerWork with
      | nil => exact .inl ⟨rfl, rfl⟩
      | cons work rest => exact .inr ⟨work, rest, rfl, rfl⟩
  | wakeFlow =>
    refine .posts (writer (by simp [Move.actor])).1 rfl (.nothing .nil ?_)
    simp only [step, Engine.wakeFlow]
    split <;> rfl
  | advanceFlow => exact wireStep_advanceFlow accepts
  | stopFlow =>
    refine .posts (writer (by simp [Move.actor])).1 rfl (.nothing .nil ?_)
    simp only [step, Engine.stopFlow]
    split <;> rfl
  | performFlow =>
    refine wireStep_perform (writer (by simp [Move.actor])).1 ?_ accepts
    simp only [Engine.performFlow]
    cases world.engine.flowWork with
    | nil => exact .inl ⟨rfl, rfl⟩
    | cons work rest => exact .inr ⟨work, rest, rfl, rfl⟩
  | start operation =>
    exact .posts rfl rfl (Connection.posts_start _ operation accepts)
  | advance n caller => exact wireStep_caller (callerStep rfl) accepts
  | block n caller => exact wireStep_caller (callerStep rfl) accepts
  | supply n result => exact wireStep_caller (callerStep rfl) accepts
  | cancel n => exact wireStep_caller (callerStep rfl) accepts

/-! ## What every run keeps -/

/-- The packets that were handed over, given up or are queued are those of the commands that were
issued, in their order, and the writer stops for good when a packet cannot be written or the
transport is closed. -/
structure Wired (world : World) : Prop where
  /-- Nothing is given up before the writer is past its last packet. -/
  ordered : ∃ dropped, packets world.journal =
    handed world.journal ++ dropped ++ world.connection.unsent ∧
      (world.engine.writer.past = false → dropped = [])
  written : (handed world.journal).map (·.1) =
    (results world.journal).map (·.1) ++ world.engine.writer.current?.toList
  ended : world.journal.countP Entry.closes + world.journal.countP Entry.fails =
    if world.engine.writer.past then 1 else 0
  final : world.journal.Pairwise fun earlier later => earlier.finishes → later.conveys = false
  /-- The transport is closed only when everything has been handed over. -/
  closing : world.engine.writer = .closing ∨ .shut ∈ world.journal →
    world.connection.dead = true ∧ handed world.journal = packets world.journal

namespace Wired

/-- A writer that is not past its last packet has not ended. -/
theorem not_ended (wired : Wired world) (present : world.engine.writer.past = false) :
    ∀ entry ∈ world.journal, entry.finishes = false := by
  have none := wired.ended
  rw [present, if_neg Bool.false_ne_true, Nat.add_eq_zero_iff, List.countP_eq_zero,
    List.countP_eq_zero] at none
  intro entry mem
  rw [Entry.finishes, Bool.or_eq_false_iff]
  exact ⟨Bool.eq_false_iff.mpr (none.1 entry mem), Bool.eq_false_iff.mpr (none.2 entry mem)⟩

theorem not_shut (wired : Wired world) (present : world.engine.writer.past = false) :
    .shut ∉ world.journal := by
  intro mem
  have ends := wired.not_ended present _ mem
  cases ends

/-- What the writer does before its end is recorded behind nothing that ends it. -/
theorem final_append (wired : Wired world) (present : world.engine.writer.past = false)
    (entry : Entry) :
    (world.journal ++ [entry]).Pairwise fun earlier later =>
      earlier.finishes → later.conveys = false := by
  refine List.pairwise_append.mpr ⟨wired.final, List.pairwise_singleton _ _, ?_⟩
  intro earlier mem later _ ends
  rw [wired.not_ended present earlier mem] at ends
  cases ends

/-- What does not concern the writer may be recorded at any time. -/
theorem final_of_silent (wired : Wired world) (silent : ∀ entry ∈ entries, entry.conveys = false) :
    (world.journal ++ entries).Pairwise fun earlier later =>
      earlier.finishes → later.conveys = false := by
  refine List.pairwise_append.mpr ⟨wired.final, ?_, fun _ _ later mem _ => silent later mem⟩
  exact List.pairwise_of_forall_mem_list fun _ _ later mem _ => silent later mem

theorem shut_of_append (silent : ∀ entry ∈ entries, entry.conveys = false)
    (mem : .shut ∈ world.journal ++ entries) : .shut ∈ world.journal :=
  (List.mem_append.mp mem).resolve_right fun mem => by cases silent _ mem

/-- Nothing but the queue changes. -/
theorem offline (wired : Wired world) (turns : Turns world world')
    (writer : world'.engine.writer = world.engine.writer)
    (journal : world'.journal = world.journal ++ entries) (offline : Offline entries)
    (unsent : world'.connection.unsent = world.connection.unsent) : Wired world' := by
  refine ⟨?_, ?_, ?_, ?_, ?_⟩
  · rw [journal, packets_append, handed_append, offline.packets, offline.handed, List.append_nil,
      List.append_nil, unsent, writer]
    exact wired.ordered
  · rw [journal, handed_append, results_append, offline.handed, offline.results, List.append_nil,
      List.append_nil, writer]
    exact wired.written
  · rw [journal, List.countP_append, List.countP_append, offline.closes, offline.fails, writer]
    exact wired.ended
  · rw [journal]
    exact wired.final_of_silent offline.silent
  · intro closing
    rw [writer, journal] at closing
    obtain ⟨dead, all⟩ := wired.closing (closing.imp_right (shut_of_append offline.silent))
    rw [journal, packets_append, handed_append, offline.packets, offline.handed, List.append_nil,
      List.append_nil]
    exact ⟨turns.dead dead, all⟩

/-- A command is issued, and its packet is queued. -/
theorem packet (wired : Wired world) {earlier : List Entry} {command : Command} {data : Bytes}
    (writer : world'.engine.writer = world.engine.writer)
    (journal : world'.journal =
      world.journal ++ (earlier ++ [.issued world.connection.nextReceipt command data]))
    (offline : Offline earlier) (live : world.connection.dead = false)
    (queue : world'.connection.outbound =
      world.connection.outbound ++ [world.connection.nextMessage command data]) :
    Wired world' := by
  obtain ⟨dropped, ordered, none⟩ := wired.ordered
  have silent : ∀ entry ∈ earlier ++ [.issued world.connection.nextReceipt command data],
      entry.conveys = false := by
    intro entry mem
    obtain mem | mem := List.mem_append.mp mem
    · exact offline.silent entry mem
    · rw [List.mem_singleton.mp mem]; rfl
  refine ⟨⟨dropped, ?_, fun present => none (writer ▸ present)⟩, ?_, ?_, ?_, fun closing => ?_⟩
  · rw [Connection.unsent] at ordered
    simp [journal, offline.packets, offline.handed, ordered, Connection.unsent, queue,
      Connection.nextMessage, Connection.nextReceipt, Entry.packet?, Entry.handed?,
      Message.packet?]
  · simpa [journal, offline.handed, offline.results, writer, Entry.handed?, Entry.result?]
      using wired.written
  · simp only [journal, writer, List.countP_append, offline.closes, offline.fails]
    exact wired.ended
  · rw [journal]
    exact wired.final_of_silent silent
  · -- Whoever closes the transport has torn the connection down before.
    rw [writer, journal] at closing
    have dead := (wired.closing (closing.imp_right (shut_of_append silent))).1
    rw [live] at dead
    cases dead

/-- The writer does something with the transport. -/
theorem convey (wired : Wired world) (turns : Turns world world') {entry : Entry}
    (present : world.engine.writer.past = false)
    (journal : world'.journal = world.journal ++ [entry]) (conveys : entry.conveys)
    (queue : world.connection.unsent = entry.handed?.toList ++ world'.connection.unsent)
    (written : world.engine.writer.current?.toList ++ entry.handed?.toList.map (·.1) =
      entry.result?.toList.map (·.1) ++ world'.engine.writer.current?.toList)
    (ended : [entry].countP Entry.closes + [entry].countP Entry.fails =
      if world'.engine.writer.past then 1 else 0)
    (closing : world'.engine.writer = .closing ∨ entry = .shut →
      world.engine.writer = .closing ∧ entry.handed? = none) : Wired world' := by
  obtain ⟨dropped, ordered, none⟩ := wired.ordered
  have packet : entry.packet? = Option.none := by
    cases entry <;> first | rfl | cases conveys
  have before := wired.ended
  rw [present, if_neg Bool.false_ne_true] at before
  refine ⟨⟨[], ?_, fun _ => rfl⟩, ?_, ?_, ?_, ?_⟩
  · simp [journal, ordered, none present, packet, queue]
  · rw [journal, handed_append, results_append, List.map_append, wired.written]
    simpa using written
  · rw [journal, List.countP_append, List.countP_append]
    omega
  · rw [journal]
    exact wired.final_append present entry
  · intro close
    have close : world'.engine.writer = .closing ∨ entry = .shut := by
      refine close.imp_right fun mem => ?_
      rw [journal, List.mem_append, List.mem_singleton] at mem
      exact (mem.resolve_left (wired.not_shut present)).symm
    obtain ⟨close, nothing⟩ := closing close
    obtain ⟨dead, all⟩ := wired.closing (.inl close)
    exact ⟨turns.dead dead, by simp [journal, all, packet, nothing]⟩

/-- The writer is told to close: nothing is queued behind that. -/
theorem close (wired : Wired world) (shutdown : Shutdown world) (closed : Sealed world)
    (turns : Turns world world') (receiving : world.engine.writer = .receiving)
    (writer : world'.engine.writer = .closing) (journal : world'.journal = world.journal)
    (queue : world.connection.outbound = .close :: world'.connection.outbound) :
    Wired world' := by
  obtain ⟨dropped, ordered, none⟩ := wired.ordered
  have present : world.engine.writer.past = false := by rw [receiving]; rfl
  have rest : world'.connection.outbound = [] :=
    closed.final (show world.connection.outbound = [] ++ _ from queue)
  have all : handed world.journal = packets world.journal := by
    simp [ordered, none present, Connection.unsent, queue, rest, Message.packet?]
  have dead : world.connection.dead = true :=
    shutdown.queued (.inr (by rw [queue]; exact List.mem_cons_self))
  have written := wired.written
  have ended := wired.ended
  rw [receiving] at written ended
  refine ⟨⟨[], ?_, fun _ => rfl⟩, ?_, ?_, ?_, fun _ => ⟨turns.dead dead, ?_⟩⟩
  · simp [journal, all, Connection.unsent, rest]
  · rw [journal, writer]; exact written
  · rw [journal, writer]; exact ended
  · rw [journal]; exact wired.final
  · rw [journal]; exact all

/-- What is first in the queue is given up. -/
theorem drain (wired : Wired world) (turns : Turns world world')
    (draining : world.engine.writer = .draining) (writer : world'.engine.writer.past = true)
    (current : world'.engine.writer.current? = none)
    (journal : world'.journal = world.journal)
    (queue : world'.connection.outbound = world.connection.outbound.tail) : Wired world' := by
  obtain ⟨dropped, ordered, -⟩ := wired.ordered
  have written := wired.written
  have ended := wired.ended
  rw [draining] at written ended
  refine ⟨?_, ?_, ?_, ?_, ?_⟩
  · refine ⟨dropped ++ (world.connection.outbound.head?.bind Message.packet?).toList, ?_, ?_⟩
    · rw [journal, ordered, Connection.unsent, Connection.unsent, queue]
      cases world.connection.outbound with
      | nil => simp
      | cons message rest => cases message <;> simp [List.filterMap_cons, Message.packet?]
    · rw [writer]; simp
  · rw [journal, current]; exact written
  · rw [journal, writer]; exact ended
  · rw [journal]; exact wired.final
  · rintro (closing | mem)
    · rw [closing] at writer
      cases writer
    · rw [journal] at mem ⊢
      exact (wired.closing (.inr mem)).imp_left turns.dead

theorem step (wired : Wired world) (shutdown : Shutdown world) (closed : Sealed world)
    (turns : Turns world world') (step : WireStep world world') : Wired world' := by
  cases step with
  | posts writer journal posts =>
    cases posts with
    | nothing offline queue =>
      exact wired.offline turns writer journal offline (congrArg (List.filterMap _) queue)
    | close offline queue =>
      refine wired.offline turns writer journal offline ?_
      rw [Connection.unsent, queue, List.filterMap_append]
      exact List.append_nil _
    | packet command data live offline recorded queue =>
      exact wired.packet writer (recorded ▸ journal) offline live queue
  | @handed id bytes receiving writer journal queue =>
    refine wired.convey turns (by rw [receiving]; rfl) journal rfl ?_ ?_ ?_ ?_
    · rw [Connection.unsent, queue]; rfl
    · rw [receiving, writer]; rfl
    · rw [writer]; rfl
    · rw [writer]; simp
  | closing receiving writer journal queue =>
    exact wired.close shutdown closed turns receiving writer journal queue
  | @wrote id bytes writing writer journal queue =>
    refine wired.convey turns (by rw [writing]; rfl) journal rfl ?_ ?_ ?_ ?_
    · rw [Connection.unsent, Connection.unsent, queue]; rfl
    · rw [writing, writer]; rfl
    · rw [writer]; rfl
    · rw [writer]; simp
  | @failed id bytes failure writing writer journal queue =>
    refine wired.convey turns (by rw [writing]; rfl) journal rfl ?_ ?_ ?_ ?_
    · rw [Connection.unsent, Connection.unsent, queue]; rfl
    · rw [writing, writer]; rfl
    · rw [writer]; rfl
    · rw [writer]; simp
  | shut closing writer journal queue =>
    refine wired.convey turns (by rw [closing]; rfl) journal rfl ?_ ?_ ?_ ?_
    · rw [Connection.unsent, Connection.unsent, queue]; rfl
    · rw [closing, writer]; rfl
    · rw [writer]; rfl
    · exact fun _ => ⟨closing, rfl⟩
  | drained draining writer current journal queue =>
    exact wired.drain turns draining writer current journal queue

end Wired

theorem wired_ofConfig (config : Config) : Wired (ofConfig config) where
  ordered := ⟨[], rfl, fun _ => rfl⟩
  written := rfl
  ended := rfl
  final := .nil
  closing := by simp [ofConfig]

theorem wired_play (config : Config) (moves : List Move) : Wired (play config moves) := by
  refine play_induction (P := fun _ world => Wired world) (wired_ofConfig config) ?_ moves
  intro moves move wired
  exact wired.step (shutdown_play config moves) (sealed_play config moves)
    (turns_play config moves move) (wireStep (shutdown_play config moves).accepts move)

/-! ## How the transport is closed -/

/-- The transport was closed once, and nothing was handed to it afterwards. -/
def ClosedOnce (journal : List Entry) : Prop :=
  journal.countP Entry.closes = 1 ∧
    ∀ before after, journal = before ++ .shut :: after → handed after = []

/-- Nothing is handed to the transport behind an entry that ends the writer. -/
theorem Wired.handed_after (wired : Wired world) {before after : List Entry} {entry : Entry}
    (split : world.journal = before ++ entry :: after) (finishes : entry.finishes) :
    handed after = [] := by
  have final := wired.final
  rw [split] at final
  have later := (List.pairwise_cons.mp (List.pairwise_append.mp final).2.1).1
  refine List.filterMap_eq_nil_iff.mpr fun next mem => ?_
  have silent := later next mem finishes
  cases next <;> first | rfl | cases silent

/-- A writer that has exited leaves a dead connection. -/
theorem dead_of_exited (config : Config) (moves : List Move)
    (exited : (play config moves).engine.writer = .exited) :
    (play config moves).connection.dead = true := by
  revert exited
  refine play_induction (P := fun _ world => world.engine.writer = .exited →
    world.connection.dead = true) (by simp [ofConfig]) (fun moves move ih exited => ?_) moves
  have shutdown := shutdown_play config moves
  apply (turns_play config moves move).dead
  have step : WriterStep (play config moves).engine ((play config moves).step move).engine :=
    writer_step move
  cases step with
  | still writer work => exact ih (writer ▸ exited)
  | performed first writer left after => exact ih (writer ▸ exited)
  | @took message rest receiving idle first writer work =>
    rw [writer] at exited
    cases message <;> cases exited
  | wrote writing writer => rw [writer] at exited; cases exited
  | failed failure writing writer left => rw [writer] at exited; cases exited
  | shut closing writer => exact shutdown.closing closing
  | drained draining idle writer =>
    refine (shutdown.draining (.inl draining)).resolve_right fun waits => ?_
    rw [idle] at waits
    cases waits

/-- A writer that has exited leaves a dead connection. It has closed the transport once, with
nothing handed over afterwards, just if no packet failed to be written, and otherwise never. -/
theorem closedOnce_iff (config : Config) (moves : List Move)
    (exited : (play config moves).engine.writer = .exited) :
    let world := play config moves
    world.connection.dead = true ∧
      (ClosedOnce world.journal ↔ ∀ id failure, .wrote id (.error failure) ∉ world.journal) ∧
      ∀ id failure, .wrote id (.error failure) ∈ world.journal →
        world.journal.countP Entry.closes = 0 := by
  intro world
  have wired : Wired world := wired_play config moves
  have ended : world.journal.countP Entry.closes + world.journal.countP Entry.fails = 1 := by
    have ended := wired.ended
    rwa [show world.engine.writer = .exited from exited] at ended
  have never {id failure} (failed : .wrote id (.error failure) ∈ world.journal) :
      world.journal.countP Entry.closes = 0 := by
    have some : world.journal.countP Entry.fails ≠ 0 :=
      fun none => countP_fails_eq_zero.mp none id failure failed
    omega
  refine ⟨dead_of_exited config moves exited, ⟨fun once id failure failed => ?_, fun all => ?_⟩,
    fun _ _ => never⟩
  · rw [ClosedOnce, never failed] at once
    exact absurd once.1 (by decide)
  · have none := countP_fails_eq_zero.mpr all
    exact ⟨by omega, fun before after split => wired.handed_after split rfl⟩

/-- A command is written, then the connection is closed, and the writer goes on to its exit. -/
def parting : List Move :=
  [.start (.call .version), .take, .wrote (.ok ()), .start .close] ++
    List.replicate 7 (.advance 1 .task) ++ [.take, .shut, .drain]

theorem closedOnce_parting :
    (play {} parting).engine.writer = .exited ∧ (play {} parting).connection.dead = true ∧
      ClosedOnce (play {} parting).journal := by
  have exited : (play {} parting).engine.writer = .exited := by decide +kernel
  obtain ⟨dead, once, -⟩ := closedOnce_iff {} parting exited
  exact ⟨exited, dead, once.mpr (countP_fails_eq_zero.mp (by decide +kernel))⟩

/-- A command cannot be written, and the writer goes on to its exit. -/
def broken : List Move :=
  [.start (.call .version), .take, .wrote (.error (.stream (.other "broken")))] ++
    List.replicate 7 .performWriter ++ [.drain, .drain]

theorem not_closedOnce_broken :
    (play {} broken).engine.writer = .exited ∧ (play {} broken).connection.dead = true ∧
      (play {} broken).connection.outbound = [] ∧ ¬ClosedOnce (play {} broken).journal := by
  refine ⟨by decide +kernel, by decide +kernel, by decide +kernel, fun once => ?_⟩
  exact absurd once.1 (by decide +kernel)

end World

end DebugLink
