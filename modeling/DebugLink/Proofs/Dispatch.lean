import DebugLink.Connection.Run
import DebugLink.Proofs.Issue

/-!
# Dispatch: an inbound packet dealt with at once

The dispatcher performs what a packet leaves to do piece by piece, and others may come in between.
If nobody does, the packet has been dealt with in one go: that is `Connection.dispatch`, and
`World.dispatch_foldl` says that the dispatcher's moves come to it.

An inbound packet is a reply, a batch of events or of no use (`Inbound`), and what it does is
written out as a change of the connection's fields (`Inbound.effect`). A reply settles its request,
and then the disposals are sent, if there are any: `flushed` says what becomes of them, on a
connection that takes messages as long as it lives. Apart from what is reported, dispatching is that
effect (`Connection.dispatch_eq`).
-/

namespace DebugLink

/-- What an inbound packet is to a connection. -/
inductive Inbound
  | answer (reply : ReplyPacket)
  | events (batch : EventBatch)
  /-- It cannot be decoded, it is an event packet without a payload, or no event packet at all. -/
  | unusable

def Inbound.ofFrame (frame : Bytes) : Inbound :=
  match Packet.decode frame with
  | .error _ => .unusable
  | .ok (.reply reply) => .answer reply
  | .ok (.command packet) =>
    if packet.commandSet = Command.events then
      match EventBatch.ofPacket packet with
      | .error _ => .unusable
      | .ok batch => .events batch
    else .unusable

namespace Connection

variable {connection : Connection}

/-- A packet is dealt with, and nobody comes in between. -/
def dispatch (connection : Connection) (frame : Bytes) : Connection :=
  let accepted := (connection.report (.frameReceived frame)).accept frame
  accepted.2.run accepted.1

/-- As long as a connection lives its writer takes messages. -/
def Accepts (connection : Connection) : Prop :=
  connection.dead = false → connection.outboundOpen = true

/-- The request of a reply, if there is one, is settled. -/
def answered (reply : ReplyPacket) (connection : Connection) : Connection :=
  let request := (connection.request? reply.id).toList
  { connection with
    pending := connection.pending.filter (·.id != reply.id)
    scope := connection.scope.complete reply.id
    outcomes := connection.outcomes ++ request.map fun request => (request.serial, reply.result)
    measurements := connection.measurements ++
      request.flatMap fun request => request.probes.map (·, .ok ()) }

/-- The disposals are sent in one command. -/
def disposed (connection : Connection) : Connection :=
  let cleared := { connection with disposals := connection.disposals.clear }
  let payload := disposePayload connection.idSizes.object connection.disposals.counts
  { cleared.send .disposeObjects payload with sent := connection.sent + 1 }

/-- The disposals, if there are any, are sent, unless the connection goes down. -/
def flushed (connection : Connection) : Connection :=
  if connection.disposals.counts.isEmpty then connection
  else if connection.shuttingDown ∨ connection.dead then
    { connection with disposals := connection.disposals.clear }
  else connection.disposed

/-- A batch is published, and the debuggee is suspended if the batch says so. -/
def announced (batch : EventBatch) (connection : Connection) : Connection :=
  { connection with
    scope := if batch.suspendPolicy = suspendAllPolicy then connection.scope.suspend
      else connection.scope
    feed := connection.feed.publish batch }

end Connection

/-- What a packet does to a connection. -/
def Inbound.effect : Inbound → Connection → Connection
  | .answer reply, connection => (connection.answered reply).flushed
  | .events batch, connection => connection.announced batch
  | .unusable, connection => connection

namespace Connection

variable {connection : Connection}

theorem flushed_of_none (none : connection.disposals.counts.isEmpty) :
    connection.flushed = connection :=
  if_pos none

theorem flushed_of_down (some : ¬connection.disposals.counts.isEmpty)
    (down : connection.shuttingDown ∨ connection.dead) :
    connection.flushed = { connection with disposals := connection.disposals.clear } := by
  rw [flushed, if_neg some, if_pos down]

theorem flushed_of_up (some : ¬connection.disposals.counts.isEmpty)
    (up : ¬(connection.shuttingDown ∨ connection.dead)) :
    connection.flushed = connection.disposed := by
  rw [flushed, if_neg some, if_neg up]

/-- What has no part in the disposals can be changed before or after they are sent. -/
theorem flushed_change (change : Connection → Connection)
    (disposals : (change connection).disposals = connection.disposals)
    (down : ((change connection).shuttingDown ∨ (change connection).dead) =
      (connection.shuttingDown ∨ connection.dead))
    (cleared : { change connection with disposals := connection.disposals.clear } =
      change { connection with disposals := connection.disposals.clear })
    (disposed : (change connection).disposed = change connection.disposed) :
    (change connection).flushed = change connection.flushed := by
  simp only [flushed, disposals, down, cleared, disposed]
  split
  · rfl
  · split <;> rfl

/-- What the disposals have no part in stays when they are sent. -/
theorem scope_flushed : connection.flushed.scope = connection.scope := by
  unfold flushed
  split
  · rfl
  · split <;> rfl

theorem Accepts.flushed (accepts : connection.Accepts) : connection.flushed.Accepts := by
  unfold Connection.flushed
  split
  · exact accepts
  · split <;> exact accepts

/-! ## What is performed -/

theorem run_flush (accepts : connection.Accepts) :
    connection.run [.flush] = connection.flushed := by
  rw [run_cons, perform]
  by_cases none : connection.disposals.counts.isEmpty
  · rw [flushed_of_none none, if_pos none]
    exact run_nil _
  · rw [if_neg none]
    show run [.sendBatch _] _ = _
    rw [run_cons, perform]
    by_cases down : connection.shuttingDown ∨ connection.dead
    · rw [flushed_of_down none down, if_pos (by exact down)]
      exact run_nil _
    · rw [flushed_of_up none down, if_neg (by exact down)]
      have live : connection.dead = false := eq_false_of_ne_true (not_or.mp down).2
      show run [.dispose _] _ = _
      rw [run_cons, perform, issue_of_open (by exact live) (by exact accepts live)]
      show run [.countSent] _ = _
      rw [run_cons]
      exact run_nil _

theorem flushed_notices (notices : List Notice) :
    { connection with notices }.flushed = { connection.flushed with notices } :=
  flushed_change (fun connection => { connection with notices }) rfl rfl rfl rfl

/-- A reply that finds its request settles it, and is not reported. -/
theorem run_matched (accepts : connection.Accepts) {reply : ReplyPacket} {request : Request}
    (found : connection.request? reply.id = some request) :
    connection.run [.replied reply] = (connection.answered reply).flushed := by
  have left : connection.perform (.replied reply) =
      ([.resolve request reply, .flush], (connection.take reply.id).2) := by
    rw [perform, replied, take, found]
  rw [run_cons, left]
  show run [.resolve request reply, .flush] _ = _
  rw [run_cons]
  show run [.flush] _ = _
  rw [run_flush (by exact accepts), answered, found]
  simp [settle, perform, take]

/-- The request of a reply is settled before anything is flushed. -/
theorem run_replied (accepts : connection.Accepts) (reply : ReplyPacket) :
    ∃ notices, connection.run [.replied reply] =
      { (connection.answered reply).flushed with notices } := by
  cases found : connection.request? reply.id with
  | none =>
    refine ⟨connection.notices ++ [.unknownReply reply.id], ?_⟩
    rw [run_cons, perform, replied, take, found]
    show run [.flush] _ = _
    rw [run_flush (by exact accepts), ← flushed_notices, answered, found]
    simp [report]
  | some request => exact ⟨_, run_matched accepts found⟩

theorem noteSuspended_eq :
    ∃ notices, connection.noteSuspended =
      { connection with scope := connection.scope.suspend, notices } := by
  unfold noteSuspended
  by_cases active : connection.scope.active
  · exact ⟨connection.notices, by simp [Scope.suspend, active]⟩
  · by_cases none : connection.scope.resumes = []
    · exact ⟨_, by simp [Scope.suspend, active, none]; rfl⟩
    · exact ⟨_, by simp [Scope.suspend, active, none]; rfl⟩

theorem run_events (batch : EventBatch) :
    ∃ notices, connection.run
        (if batch.suspendPolicy = suspendAllPolicy then [.suspended, .publish batch]
          else [.publish batch]) =
      { connection.announced batch with notices } := by
  have published (connection : Connection) : connection.run [.publish batch] =
      { connection with feed := connection.feed.publish batch } := by
    rw [run_cons]
    exact run_nil _
  unfold announced
  split
  · obtain ⟨notices, noted⟩ := @noteSuspended_eq connection
    refine ⟨notices, ?_⟩
    rw [run_cons]
    show run [.publish batch] connection.noteSuspended = _
    rw [published, noted]
  · exact ⟨connection.notices, published connection⟩

/-- What a packet does it does whatever was reported. -/
theorem effect_notices (inbound : Inbound) (notices : List Notice) :
    inbound.effect { connection with notices } = { inbound.effect connection with notices } := by
  cases inbound with
  | answer reply => exact @flushed_notices (connection.answered reply) notices
  | events batch => rfl
  | unusable => rfl

/-- Apart from what is reported, a packet that is dispatched has its effect and no other. -/
theorem dispatch_eq (accepts : connection.Accepts) (frame : Bytes) :
    ∃ notices, connection.dispatch frame =
      { (Inbound.ofFrame frame).effect connection with notices } := by
  have reported {notice : Notice} (inbound : Inbound) {last : Connection}
      (run : ∃ notices, last = { inbound.effect (connection.report notice) with notices }) :
      ∃ notices, last = { inbound.effect connection with notices } := by
    obtain ⟨notices, rfl⟩ := run
    exact ⟨notices, by rw [report, effect_notices]⟩
  unfold dispatch accept Inbound.ofFrame
  cases Packet.decode frame with
  | error fault => exact ⟨_, run_nil _⟩
  | ok packet =>
    cases packet with
    | reply reply => exact reported (.answer reply) (run_replied (by exact accepts) reply)
    | command packet =>
      by_cases events : packet.commandSet = Command.events
      · simp only [if_pos events]
        cases EventBatch.ofPacket packet with
        | error fault => exact ⟨_, run_nil _⟩
        | ok batch => exact reported (.events batch) (run_events batch)
      · simp only [if_neg events]
        exact ⟨_, run_nil _⟩

end Connection

/-! ## The dispatcher's moves -/

namespace World

/-- Whoever has pieces to perform performs them to their end, if nobody else makes moves. -/
theorem exists_run (move : Move) (Has : List Work → World → Prop)
    (performs : ∀ {work rest world}, Has (work :: rest) world →
      (world.step move).connection = (world.connection.perform work).2 ∧
        Has ((world.connection.perform work).1 ++ rest) (world.step move))
    {works : List Work} {world : World} (has : Has works world) :
    ∃ n, let after := (List.replicate n move).foldl step world
      after.connection = world.connection.run works ∧ Has [] after := by
  induction left : Connection.cost works world.connection using Nat.strongRecOn
    generalizing works world with
  | ind cost ih =>
    cases works with
    | nil => exact ⟨0, (Connection.run_nil _).symm, has⟩
    | cons work rest =>
      obtain ⟨performed, has⟩ := performs has
      have less := world.connection.cost_perform_lt work rest
      rw [left, ← performed] at less
      obtain ⟨n, last, none⟩ := ih _ less has rfl
      refine ⟨n + 1, last.trans ?_, none⟩
      rw [performed, Connection.run_cons]

/-- The dispatcher performs its pieces to their end, if only it makes moves. -/
theorem exists_performDispatcher (world : World) :
    ∃ n, ((List.replicate n Move.performDispatcher).foldl step world).engine =
      { world.engine with
        connection := world.connection.run world.engine.dispatcherWork, dispatcherWork := [] } := by
  let Has (works : List Work) (after : World) : Prop := after.engine =
    { world.engine with connection := after.connection, dispatcherWork := works }
  have performs {work rest after} (has : Has (work :: rest) after) :
      (after.step .performDispatcher).connection = (after.connection.perform work).2 ∧
        Has ((after.connection.perform work).1 ++ rest) (after.step .performDispatcher) := by
    have works : after.engine.dispatcherWork = work :: rest := by rw [has]
    have performed : (after.step .performDispatcher).engine =
        { after.engine with
          connection := (after.connection.perform work).2
          dispatcherWork := (after.connection.perform work).1 ++ rest } := by
      simp only [step, record, Engine.performDispatcher, works]
      rfl
    have changed : (after.step .performDispatcher).connection =
        (after.connection.perform work).2 := congrArg Engine.connection performed
    refine ⟨changed, performed.trans ?_⟩
    rw [changed, has]
  obtain ⟨n, last, none⟩ := exists_run .performDispatcher Has performs (show Has _ world from rfl)
  exact ⟨n, none.trans (by rw [last])⟩

/-- A packet that is received and dealt with by the dispatcher alone is dispatched. -/
theorem dispatch_foldl (world : World) (frame : Bytes)
    (reading : world.engine.dispatcher = .reading) (idle : world.engine.dispatcherWork = []) :
    ∃ n, ((Move.receive (.frame frame) :: List.replicate n .performDispatcher).foldl step
        world).engine =
      { world.engine with connection := world.connection.dispatch frame } := by
  have received : (world.step (.receive (.frame frame))).engine =
      { world.engine with
        connection := ((world.connection.report (.frameReceived frame)).accept frame).2
        dispatcherWork := ((world.connection.report (.frameReceived frame)).accept frame).1 } := by
    simp only [step, record, Engine.received, reading, idle, and_self, if_true]
    rfl
  obtain ⟨n, last⟩ := exists_performDispatcher (world.step (.receive (.frame frame)))
  refine ⟨n, ?_⟩
  rw [List.foldl_cons, last, connection, received, Connection.dispatch, ← idle]

end World

end DebugLink
