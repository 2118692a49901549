import DebugLink.Proofs.Bookkeeping
import DebugLink.Proofs.Dispatch
import DebugLink.Proofs.Refusal
import DebugLink.Proofs.Sending
import DebugLink.Session.Schedule

/-!
# Reentry: client code on the dispatcher

A transport may run client code while the dispatcher reads from it, and that code may use the
connection. It issues commands like anybody else. If it waits for one it is refused, and by then the
command is registered and its packet is queued. So there is a request that nobody waits for. It is
settled like any other: the reply finds it and nothing is reported (`Settled.dispatch_matched`), and
until then a command that lets the debuggee run keeps the scope from becoming active.

Since whoever waits on the dispatcher is refused, the dispatcher needs nobody else to get through
what comes up on it, however packets and client code follow each other (`exists_duties`). Whoever
awaits the reply anywhere else is never refused, and gets the outcome of the command.

Main statement: `reentry_harmless`.
-/

namespace DebugLink

/-! ## The place of a packet -/

section

variable {journal : List Entry} {receipt : Receipt} {command : Command}

/-- The packets are queued in the order of the commands. -/
theorem packet_of_issue {i : Nat} (issued : (issues journal)[i]? = some (receipt, command)) :
    ∃ data, (packets journal)[i]? = some
      (receipt.id, CommandPacket.encode ⟨receipt.id, command.set, command.number, data⟩) := by
  induction journal generalizing i with
  | nil => cases issued
  | cons entry rest ih =>
    cases entry with
    | issued other command' data =>
      cases i with
      | zero =>
        obtain ⟨rfl, rfl⟩ := Prod.mk.inj (Option.some.inj issued)
        exact ⟨data, rfl⟩
      | succ i => exact ih issued
    | _ => exact ih issued

/-- The number of a command is its place among the commands. -/
theorem World.Numbered.issue_at {world : World} (numbered : Numbered world)
    (mem : (receipt, command) ∈ issues world.journal) :
    (issues world.journal)[receipt.serial]? = some (receipt, command) := by
  obtain ⟨i, found⟩ := List.mem_iff_getElem?.mp mem
  have place : (DebugLink.receipts world.journal)[i]? = some receipt := by
    rw [DebugLink.receipts, List.getElem?_map, found]
    rfl
  rw [numbered.receipts, List.getElem?_map, Option.map_eq_some_iff] at place
  obtain ⟨serial, here, rfl⟩ := place
  obtain ⟨below, rfl⟩ := List.getElem?_eq_some_iff.mp here
  have same : (List.range world.connection.issued)[i] = i := List.getElem_range below
  rw [same] at found ⊢
  exact found

end

/-! ## A late reply -/

namespace Connection

variable {connection : Connection}

/-- Disposing of objects is not reported. -/
theorem notices_flushed : connection.flushed.notices = connection.notices := by
  unfold flushed
  split
  · rfl
  · split <;> rfl

/-- Disposing of objects takes no outcome back. -/
theorem outcomes_flushed :
    ∃ more, connection.flushed.outcomes = connection.outcomes ++ more := by
  unfold flushed
  split
  · exact ⟨[], (List.append_nil _).symm⟩
  · split
    · exact ⟨[], (List.append_nil _).symm⟩
    · exact ⟨_, rfl⟩

/-- A packet with a reply that finds its request does what the reply does. -/
theorem dispatch_matched (accepts : connection.Accepts) {frame : Bytes} {reply : ReplyPacket}
    {request : Request} (decoded : Packet.decode frame = .ok (.reply reply))
    (found : connection.request? reply.id = some request) :
    connection.dispatch frame =
      ((connection.report (.frameReceived frame)).answered reply).flushed := by
  rw [dispatch, accept, decoded]
  exact run_matched (by exact accepts) (by exact found)

end Connection

/-! ## What comes up on the dispatcher -/

/-- What the dispatcher deals with before it reads on. -/
inductive Duty
  /-- A packet has arrived. -/
  | packet (frame : Bytes)
  /-- Client code makes a call and waits for its outcome, by blocking or by awaiting it. -/
  | visit (call : Call) (blocks : Bool)

namespace Duty

/-- Whether the connection is closed, whatever comes of it. -/
def closes : Duty → Bool
  | packet _ => false
  | visit call _ => call.closes

/-- What comes of it. Of a call there comes only what issuing its command does. -/
def effect (connection : Connection) : Duty → Connection
  | packet frame => connection.dispatch frame
  | visit call _ => (connection.begin call).2.2.run (connection.begin call).2.1

end Duty

/-- Whether a move is of the dispatcher with a number, or of client code that runs on it. -/
def onDispatcher (name : Nat) : Move → Bool
  | .receive (.frame _) | .performDispatcher | .start (.call _) => true
  | .advance _ caller | .block _ caller => caller = .dispatcher name
  | _ => false

/-- The receipt of a command that is issued. -/
theorem Connection.receipt_of_issue {connection : Connection} {command : Command} {data : Bytes}
    {receipt : Receipt} (issued : (connection.issue command data).1 = .ok receipt) :
    receipt = connection.nextReceipt := by
  rcases connection.dead.eq_false_or_eq_true with dead | live
  · rw [issue_of_dead dead] at issued
    cases issued
  · rcases connection.outboundOpen.eq_false_or_eq_true with accepts | refuses
    · rw [issue_of_open live accepts] at issued
      exact (Except.ok.inj issued).symm
    · rw [issue_of_closed live refuses] at issued
      cases issued

namespace World

variable {world : World}

/-- A caller performs its pieces to their end, if only it makes moves. -/
theorem exists_advance {n : Nat} {works : List Work} {stage : Stage} (caller : Caller)
    (found : world.activities[n]? = some ⟨works, stage⟩) :
    ∃ k, let after := (List.replicate k (.advance n caller)).foldl step world
      after.engine = { world.engine with connection := world.connection.run works } ∧
        after.activities[n]? = some ⟨[], stage⟩ := by
  let Has (works : List Work) (after : World) : Prop :=
    after.engine = { world.engine with connection := after.connection } ∧
      after.activities[n]? = some ⟨works, stage⟩
  have performs {work rest after} (has : Has (work :: rest) after) :
      (after.step (.advance n caller)).connection = (after.connection.perform work).2 ∧
        Has ((after.connection.perform work).1 ++ rest) (after.step (.advance n caller)) := by
    obtain ⟨engine, found⟩ := has
    have made : after.step (.advance n caller) =
        after.recordCaller n ⟨(after.connection.perform work).1 ++ rest, stage⟩
          (after.connection.workEntries work) (after.connection.perform work).2 := by
      simp only [step, goOn, found]
    rw [made]
    refine ⟨rfl, ?_, List.getElem?_set_self (List.getElem?_eq_some_iff.mp found).1⟩
    rw [recordCaller, engine]
    rfl
  obtain ⟨k, run, engine, left⟩ :=
    exists_run (.advance n caller) Has performs (show Has works world from ⟨rfl, found⟩)
  refine ⟨k, ?_, left⟩
  rw [engine, run]

/-- Whoever makes a call on the dispatcher has done when it waits, whether or not its command was
issued, and leaves the connection alone. -/
theorem engine_wait {n : Nat} {call : Call} {issued : Except Failure Receipt} {name : Nat}
    {wait : Move} (found : world.activities[n]? = some ⟨[], .calling call issued⟩)
    (stays : call.closes = false)
    (own : ∀ receipt, issued = .ok receipt → receipt.connection = name)
    (waits : wait = .advance n (.dispatcher name) ∨ wait = .block n (.dispatcher name)) :
    (world.step wait).engine = world.engine := by
  cases issued with
  | ok receipt =>
    obtain rfl := own receipt rfl
    rw [step_refused found stays waits]
    rfl
  | error failure =>
    have told (poll : Receipt → Option (Except Failure Bytes)) :
        (world.goOn n poll).engine = world.engine := by
      have polled : outcomeOf poll (.error failure) = some (.error failure) := rfl
      rw [goOn_failed found stays polled]
      rfl
    obtain rfl | rfl := waits <;> exact told _

/-- Client code that runs on the dispatcher comes to its end without anybody else. -/
theorem exists_visit (call : Call) (blocks : Bool) (stays : call.closes = false) :
    ∃ more : List Move, (∀ move ∈ more, onDispatcher world.connection.name move) ∧
      (more.foldl step world).engine =
        { world.engine with connection := (Duty.visit call blocks).effect world.connection } := by
  let here := Caller.dispatcher world.connection.name
  let n := world.activities.length
  have found : (world.step (.start (.call call))).activities[n]? = some
      ⟨(world.connection.begin call).2.1, .calling call (world.connection.begin call).1⟩ :=
    List.getElem?_concat_length
  obtain ⟨k, engine, found⟩ := exists_advance here found
  let wait : Move := if blocks then .block n here else .advance n here
  have waits : wait = .advance n here ∨ wait = .block n here := by
    cases blocks
    · exact .inl rfl
    · exact .inr rfl
  refine ⟨.start (.call call) :: (List.replicate k (.advance n here) ++ [wait]), ?_, ?_⟩
  · intro move mem
    simp only [List.mem_cons, List.mem_append, List.mem_replicate, List.not_mem_nil, or_false]
      at mem
    obtain rfl | ⟨-, rfl⟩ | rfl := mem
    · rfl
    · exact decide_eq_true rfl
    · obtain eq | eq := waits <;> rw [eq] <;> exact decide_eq_true rfl
  · rw [List.foldl_cons, List.foldl_append, List.foldl_cons, List.foldl_nil]
    refine (engine_wait found stays (fun receipt issued => ?_) waits).trans engine
    rw [Connection.receipt_of_issue issued]
    rfl

/-- The dispatcher and the client code on it deal with one thing without anybody else. -/
theorem exists_duty (reading : world.engine.dispatcher = .reading)
    (idle : world.engine.dispatcherWork = []) (duty : Duty) (stays : duty.closes = false) :
    ∃ more : List Move, (∀ move ∈ more, onDispatcher world.connection.name move) ∧
      (more.foldl step world).engine =
        { world.engine with connection := duty.effect world.connection } := by
  cases duty with
  | packet frame =>
    obtain ⟨n, dispatched⟩ := dispatch_foldl world frame reading idle
    refine ⟨_, fun move mem => ?_, dispatched⟩
    obtain rfl | mem := List.mem_cons.mp mem
    · rfl
    · obtain ⟨-, rfl⟩ := List.mem_replicate.mp mem
      rfl
  | visit call blocks => exact exists_visit call blocks stays

/-- The dispatcher gets through all that comes up on it without anybody else. -/
theorem exists_duties (config : Config) (moves : List Move)
    (reading : (play config moves).engine.dispatcher = .reading)
    (idle : (play config moves).engine.dispatcherWork = []) (duties : List Duty)
    (stay : ∀ duty ∈ duties, duty.closes = false) :
    ∃ more : List Move, (∀ move ∈ more, onDispatcher (play config moves).connection.name move) ∧
      (play config (moves ++ more)).engine =
        { (play config moves).engine with
          connection := duties.foldl Duty.effect (play config moves).connection } := by
  induction duties generalizing moves with
  | nil =>
    refine ⟨[], by simp, ?_⟩
    rw [List.append_nil]
    rfl
  | cons duty duties ih =>
    obtain ⟨stays, stay⟩ := List.forall_mem_cons.mp stay
    obtain ⟨first, own, dealt⟩ := exists_duty reading idle duty stays
    have dealt : (play config (moves ++ first)).engine =
        { (play config moves).engine with
          connection := duty.effect (play config moves).connection } := by
      rw [play, List.foldl_append]
      exact dealt
    obtain ⟨rest, owns, last⟩ := ih (moves ++ first) (by rw [dealt]; exact reading)
      (by rw [dealt]; exact idle) stay
    refine ⟨first ++ rest, fun move mem => ?_, ?_⟩
    · obtain mem | mem := List.mem_append.mp mem
      · exact own move mem
      · rw [name_play] at owns ⊢
        exact owns move mem
    · rw [← List.append_assoc, last, connection, dealt]
      rfl

/-! ## Whoever waits elsewhere -/

end World

namespace Session

variable {session : Session} {serial : Nat} {receipt : Receipt} {continuation : Continuation}

theorem jobStage_setJob (stage : JobStage) :
    (session.setJob serial stage).jobStage? serial =
      (session.jobStage? serial).map fun _ => stage := by
  have same : ((·.serial == serial) ∘ fun job : Job =>
      if job.serial = serial then { job with stage } else job) = (·.serial == serial) := by
    funext job
    by_cases here : job.serial = serial <;> simp [here]
  rw [jobStage?, jobStage?, setJob, List.find?_map, same]
  cases found : session.jobs.find? (·.serial == serial) with
  | none => rfl
  | some job =>
    have here : job.serial = serial := by simpa using List.find?_some found
    simp [here]

/-- A continuation is given the outcome of its command and nothing else, wherever it was attached:
it is a task that awaits it. -/
theorem queued_stepContinuation
    (waits : session.jobStage? serial = some (.awaiting receipt continuation))
    (outcome : Except Failure Bytes) :
    (session.stepContinuation serial).jobStage? serial = some (.queued outcome continuation) ↔
      session.connection.outcome? receipt = some outcome := by
  have polled : receipt.poll .task session.connection = session.connection.outcome? receipt := rfl
  rw [stepContinuation, waits]
  simp only [polled]
  cases handed : session.connection.outcome? receipt with
  | none => simp [waits]
  | some other =>
    have queued : ({ session.setJob serial (.queued other continuation) with
        pool := session.pool.submit serial } : Session).jobStage? serial =
          some (.queued other continuation) := by
      refine (jobStage_setJob _).trans ?_
      rw [waits]
      rfl
    rw [queued]
    simp

end Session

namespace World

variable {world : World} {receipt : Receipt}

namespace Settled

/-- The request of a command that is not settled is found under its id. -/
theorem exists_request (settled : Settled world) (mem : receipt ∈ receipts world.journal)
    (unsettled : settlement receipt world.journal = none) :
    ∃ request, world.connection.request? receipt.id = some request ∧
      request.receipt world.connection.name = receipt := by
  obtain ⟨request, pending, rfl⟩ := settled.exists_pending mem unsettled
  refine ⟨request, ?_, rfl⟩
  rw [← Option.mem_toList, ← settled.filter_id]
  exact List.mem_filter.mpr ⟨pending, beq_self_eq_true _⟩

/-- The reply to a command that is not settled yet is matched. Nothing is reported but that a packet
has arrived, and the outcome is there for whoever looks for it. -/
theorem dispatch_matched (settled : Settled world) (numbered : Numbered world)
    (accepts : world.connection.Accepts) (mem : receipt ∈ receipts world.journal)
    (unsettled : settlement receipt world.journal = none) {frame : Bytes} {reply : ReplyPacket}
    (decoded : Packet.decode frame = .ok (.reply reply)) (own : reply.id = receipt.id) :
    (world.connection.dispatch frame).notices =
        world.connection.notices ++ [.frameReceived frame] ∧
      (world.connection.dispatch frame).outcome? receipt = some reply.result := by
  obtain ⟨request, found, rfl⟩ := settled.exists_request mem unsettled
  rw [← own] at found
  have pending : request ∈ world.connection.pending := List.mem_of_find?_eq_some found
  have none : world.connection.outcomes.lookup request.serial = none := by
    rw [List.lookup_eq_none_iff]
    intro known mem
    have owed : known.1 ∈ world.owed.map (·.1) :=
      List.mem_map_of_mem (List.mem_append_left _ mem)
    rw [bne_iff_ne]
    intro same
    exact settled.not_owed numbered pending (same ▸ owed)
  rw [Connection.dispatch_matched accepts decoded found]
  refine ⟨Connection.notices_flushed, ?_⟩
  obtain ⟨more, outcomes⟩ := @Connection.outcomes_flushed
    ((world.connection.report (.frameReceived frame)).answered reply)
  have answered : ((world.connection.report (.frameReceived frame)).answered reply).outcomes =
      world.connection.outcomes ++ [(request.serial, reply.result)] := by
    show _ ++ ((world.connection.request? reply.id).toList.map _) = _
    rw [found]
    rfl
  rw [Connection.outcome?, outcomes, answered, List.lookup_append, List.lookup_append]
  show ((world.connection.outcomes.lookup request.serial).or
    (List.lookup request.serial [(request.serial, reply.result)])).or _ = _
  rw [none, List.lookup_cons_self]
  rfl

/-- The reply to a command that is not settled yet goes to its request. -/
theorem perform_matched (settled : Settled world) (mem : receipt ∈ receipts world.journal)
    (unsettled : settlement receipt world.journal = none) {reply : ReplyPacket}
    (own : reply.id = receipt.id) :
    ∃ request, request.receipt world.connection.name = receipt ∧
      world.connection.perform (.replied reply) =
        ([.resolve request reply, .flush], (world.connection.take receipt.id).2) := by
  obtain ⟨request, found, same⟩ := settled.exists_request mem unsettled
  refine ⟨request, same, ?_⟩
  rw [Connection.perform, Connection.replied, Connection.take, own, found]
  rfl

end Settled

/-- A command is pending until it is settled. -/
theorem pending_iff_unsettled (config : Config) (moves : List Move) {command : Command}
    (mem : (receipt, command) ∈ issues (play config moves).journal) :
    (∃ request ∈ (play config moves).connection.pending,
      request.receipt (play config moves).connection.name = receipt ∧
        request.command = command) ↔
      settlement receipt (play config moves).journal = none := by
  have settled := settled_play config moves
  constructor
  · rintro ⟨request, pending, rfl, -⟩
    exact (settled.of_mem_pending pending).2
  · intro unsettled
    obtain ⟨request, pending, same⟩ := settled.exists_pending (mem_receipts mem) unsettled
    refine ⟨request, pending, same, ?_⟩
    have issued := mem_issues_of_pending config moves pending
    have distinct : ((issues (play config moves).journal).map (·.1.serial)).Nodup := by
      have nodup := (numbered_play config moves).nodup_serials
      rwa [receipts, List.map_map] at nodup
    rw [same] at issued
    exact congrArg Prod.snd (List.inj_on_of_nodup_map distinct issued mem rfl)

/-- A report of a suspension is believed just if every command that lets the debuggee run has met
its fate. -/
theorem active_suspended_iff (config : Config) (moves : List Move) :
    ((play config moves).connection.perform .suspended).2.scope.active = true ↔
      ∀ issue ∈ issues (play config moves).journal, issue.2.resumes →
        (fate issue.1 (play config moves).journal).isSome := by
  have calm := calm_play config moves
  have reported : ((play config moves).connection.perform .suspended).2.scope =
      (play config moves).connection.scope.suspend := Connection.keeps_noteSuspended.scope
  rw [reported, active_suspend, or_iff_right_of_imp calm]
  exact (awaited_play config moves).resumes_eq_nil_iff

/-- A command that lets the debuggee run keeps the scope from becoming active until it is
settled. -/
theorem barred_of_unsettled (config : Config) (moves : List Move) {command : Command}
    (mem : (receipt, command) ∈ issues (play config moves).journal)
    (unsettled : settlement receipt (play config moves).journal = none)
    (resumes : command.resumes) :
    (play config moves).connection.scope.active = false ∧
      ((play config moves).connection.perform .suspended).2.scope.active = false := by
  have waits := fate_of_unsettled unsettled
  constructor
  · rw [Bool.eq_false_iff]
    intro active
    have none := calm_play config moves active
    have decided := (awaited_play config moves).resumes_eq_nil_iff.mp none _ mem resumes
    rw [waits] at decided
    cases decided
  · rw [Bool.eq_false_iff, ne_eq, active_suspended_iff]
    intro all
    have decided := all _ mem resumes
    rw [waits] at decided
    cases decided

/-- A caller that waits is refused at once. From then on everything happens as if it had dropped
what it waited for. -/
structure Refused (world : World) (n : Nat) (call : Call) (receipt : Receipt) (wait : Move) :
    Prop where
  issued : (receipt, call.command) ∈ issues world.journal
  told : (call.finish (.error receipt.refusal) world.connection).1 = .error receipt.refusal
  engine : (world.step wait).engine = world.engine
  /-- It has nothing left to do, so it never reports a suspension either. -/
  rests : ∀ more : List Move, (more.foldl step (world.step wait)).activities[n]? =
    some ⟨[], .concluding call (.ok receipt)⟩
  harmless : ∀ more : List Move,
    let after := more.foldl step (world.step wait)
    let dropped := more.foldl step (world.step (.cancel n))
    after.engine = dropped.engine ∧
      ∃ rest, after.journal =
          world.journal ++ .answered receipt (.error receipt.refusal) :: rest ∧
        dropped.journal = world.journal ++ rest

theorem refused_play (config : Config) (moves : List Move) {n : Nat} {call : Call} {wait : Move}
    (found : (play config moves).activities[n]? = some ⟨[], .calling call (.ok receipt)⟩)
    (stays : call.closes = false)
    (waits : wait = .advance n (.dispatcher receipt.connection) ∨
      wait = .block n (.dispatcher receipt.connection)) :
    Refused (play config moves) n call receipt wait where
  issued := held_play config moves (List.mem_of_getElem? found) rfl
  told := call.finish_refusal receipt _
  engine := by
    rw [step_refused found stays waits]
    rfl
  rests more := by
    refine getElem_foldl_step ?_ (.inr ⟨call, .ok receipt, rfl⟩) more
    rw [step_refused found stays waits]
    exact List.getElem?_set_self (List.getElem?_eq_some_iff.mp found).1
  harmless more := by
    have alike := (alike_refused found stays waits).run more
    obtain ⟨rest, journal, journal'⟩ := alike.journal
    exact ⟨alike.engine.symm, rest, by simpa using journal, journal'⟩

/-- What becomes of a command, whether or not anybody waits for it. -/
structure Attended (world : World) (receipt : Receipt) (command : Command) : Prop where
  registered : (∃ request ∈ world.connection.pending,
      request.receipt world.connection.name = receipt ∧ request.command = command) ↔
    settlement receipt world.journal = none
  /-- Its packet has the place of its number. -/
  queued : ∃ data, (packets world.journal)[receipt.serial]? = some
    (receipt.id, CommandPacket.encode ⟨receipt.id, command.set, command.number, data⟩)
  matched : settlement receipt world.journal = none →
    ∀ reply : ReplyPacket, reply.id = receipt.id →
      ∃ request, request.receipt world.connection.name = receipt ∧
        world.connection.perform (.replied reply) =
          ([.resolve request reply, .flush], (world.connection.take receipt.id).2)
  /-- If the dispatcher is left alone, the reply settles the command and nothing is reported. -/
  silent : settlement receipt world.journal = none →
    ∀ frame reply, Packet.decode frame = .ok (.reply reply) → reply.id = receipt.id →
      (world.connection.dispatch frame).notices =
          world.connection.notices ++ [.frameReceived frame] ∧
        (world.connection.dispatch frame).outcome? receipt = some reply.result
  barred : settlement receipt world.journal = none → command.resumes →
    world.connection.scope.active = false ∧
      (world.connection.perform .suspended).2.scope.active = false
  /-- Whoever awaits its reply anywhere else is not refused. -/
  awaited : ∀ caller, caller ≠ .dispatcher receipt.connection →
    receipt.poll caller world.connection = world.connection.outcome? receipt
  /-- Nor is a continuation, wherever it was attached. -/
  continued : ∀ session : Session, session.connection = world.connection →
    ∀ serial continuation, session.jobStage? serial = some (.awaiting receipt continuation) →
      ∀ outcome, (session.stepContinuation serial).jobStage? serial =
          some (.queued outcome continuation) ↔
        world.connection.outcome? receipt = some outcome
  truly : ∀ outcome, world.connection.outcome? receipt = some outcome →
    settlement receipt world.journal = some outcome

theorem attended_play (config : Config) (moves : List Move) {command : Command}
    (mem : (receipt, command) ∈ issues (play config moves).journal) :
    Attended (play config moves) receipt command where
  registered := pending_iff_unsettled config moves mem
  queued := packet_of_issue ((numbered_play config moves).issue_at mem)
  matched unsettled _ own :=
    (settled_play config moves).perform_matched (mem_receipts mem) unsettled own
  silent unsettled _ _ decoded own :=
    (settled_play config moves).dispatch_matched (numbered_play config moves)
      (shutdown_play config moves).accepts (mem_receipts mem) unsettled decoded own
  barred := barred_of_unsettled config moves mem
  awaited _ elsewhere := if_neg elsewhere
  continued session same serial continuation waits outcome := by
    rw [← same]
    exact Session.queued_stepContinuation waits outcome
  truly _ := (settled_play config moves).settlement_of_outcome (numbered_play config moves)
    (mem_receipts mem)

/-- Client code on the dispatcher of a live connection issues commands like anybody else, and one
that lets the debuggee run ends the scope at once. If it waits for one there it is refused at once,
whichever way it waits, and all goes on as if it had dropped what it waited for: a debuggee that it
meant to suspend is not taken to be suspended. The command stays registered until it is settled, and
its packet is handed to the transport in its turn, and once. Its reply is matched and settles it,
without a word; until then, if it lets the debuggee run, no report of a suspension is believed. The
dispatcher gets through whatever packets and client code come up on it, without anybody else.
Whoever awaits the reply anywhere else gets the outcome of the command, as soon as the pieces of
work that are left are performed. -/
theorem reentry_harmless (config : Config) (moves : List Move) :
    let world := play config moves
    let connection := world.connection
    let journal := world.journal
    (connection.dead = false → ∀ call,
      let after := world.step (.start (.call call))
      (∃ works, after.activities =
        world.activities ++ [⟨works, .calling call (.ok connection.nextReceipt)⟩]) ∧
      after.journal = journal ++
        [.issued connection.nextReceipt call.command (call.payload connection.idSizes)] ∧
      (call.command.resumes → after.connection.scope.active = false ∧
        after.connection.scope.values = [] ∧
        connection.scope.epoch < after.connection.scope.epoch)) ∧
    (∀ (n : Nat) (call : Call) (receipt : Receipt) (wait : Move),
      world.activities[n]? = some ⟨[], .calling call (.ok receipt)⟩ → call.closes = false →
      (wait = .advance n (.dispatcher receipt.connection) ∨
        wait = .block n (.dispatcher receipt.connection)) →
      Refused world n call receipt wait) ∧
    (∀ receipt command, (receipt, command) ∈ issues journal → Attended world receipt command) ∧
    handed journal <+: packets journal ∧
    ((∀ id failure, .wrote id (.error failure) ∉ journal) →
      packets journal = handed journal ++ connection.unsent) ∧
    ((connection.perform .suspended).2.scope.active = true ↔ ∀ issue ∈ issues journal,
      issue.2.resumes → (fate issue.1 journal).isSome) ∧
    (world.engine.dispatcher = .reading → world.engine.dispatcherWork = [] →
      ∀ duties : List Duty, (∀ duty ∈ duties, duty.closes = false) →
        ∃ more : List Move, (∀ move ∈ more, onDispatcher connection.name move) ∧
          (play config (moves ++ more)).engine =
            { world.engine with connection := duties.foldl Duty.effect connection }) ∧
    ∃ more : List Move, (∀ move ∈ more, performs move) ∧
      ∀ receipt ∈ receipts journal, ∀ outcome, settlement receipt journal = some outcome →
        (play config (moves ++ more)).connection.outcome? receipt = some outcome := by
  intro world connection journal
  have shutdown : Shutdown world := shutdown_play config moves
  have wired : Wired world := wired_play config moves
  refine ⟨?_, fun n call receipt wait => ?_, fun receipt command => attended_play config moves, ?_,
    wired.packets_eq, active_suspended_iff config moves, exists_duties config moves,
    exists_outcome config moves⟩
  · intro live call after
    obtain ⟨sent, recorded, calling⟩ := step_call live (shutdown.accepts live) call
    refine ⟨calling, recorded, fun resumes => ?_⟩
    have scope : after.connection.scope = connection.scope.expectResume connection.nextId := by
      rw [show after.connection = _ from sent]
      exact if_pos resumes
    rw [scope]
    exact ⟨rfl, rfl, Scope.epoch_lt_expectResume _⟩
  · intro found stays waits
    exact refused_play config moves found stays waits
  · obtain ⟨dropped, ordered, -⟩ := wired.ordered
    exact ⟨dropped ++ connection.unsent, by rw [ordered, List.append_assoc]⟩

/-- Client code on the dispatcher lets the debuggee run, and is about to wait for that. -/
def nested : List Move :=
  [.start (.call .resumeAll), .advance 0 (.dispatcher 0), .advance 0 (.dispatcher 0)]

theorem reentry_harmless_nested :
    let world := play {} nested
    let wait := Move.block 0 (.dispatcher 0)
    let after := play {} (nested ++ [wait])
    world.activities[0]? = some ⟨[], .calling .resumeAll (.ok ⟨0, 1, 0⟩)⟩ ∧
      Refused world 0 .resumeAll ⟨0, 1, 0⟩ wait ∧
      settlement ⟨0, 1, 0⟩ after.journal = none ∧
      (after.connection.perform .suspended).2.scope.active = false ∧
      (after.connection.dispatch (ReplyPacket.encode ⟨1, 0, []⟩)).outcome? ⟨0, 1, 0⟩ =
        some (.ok []) := by
  intro world wait after
  obtain ⟨-, refused, -⟩ := reentry_harmless {} nested
  obtain ⟨-, -, attended, -⟩ := reentry_harmless {} (nested ++ [wait])
  have issued : issues after.journal = [(⟨0, 1, 0⟩, .resume)] := rfl
  have command := attended ⟨0, 1, 0⟩ .resume (by rw [issued]; exact List.mem_singleton_self _)
  have unsettled : settlement ⟨0, 1, 0⟩ after.journal = none := rfl
  have decoded : Packet.decode (ReplyPacket.encode ⟨1, 0, []⟩) = .ok (.reply ⟨1, 0, []⟩) := by
    decide +kernel
  refine ⟨rfl, refused 0 .resumeAll ⟨0, 1, 0⟩ wait rfl rfl (.inr rfl), unsettled,
    (command.barred unsettled rfl).2, ?_⟩
  exact (command.silent unsettled _ _ decoded rfl).2

end World

end DebugLink
