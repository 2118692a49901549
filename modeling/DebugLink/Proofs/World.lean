import DebugLink.Connection.Caller
import DebugLink.Engine
import Mathlib.Data.List.Induction

/-!
# World: an engine among its callers, one atomic step at a time

A `World` is an engine with everybody who uses its connection. What one caller is doing is an
`Activity`: it begins with an `Operation`, may leave pieces of work to perform, and may wait for a
reply, for a value that is being computed or for its turn to go on.

A `Move` is one atomic step of one of them: of the dispatcher, the writer, the flow loop or a
caller. `World.step` makes a move, and one that is not possible changes nothing. What is read, what
becomes of a packet and who goes on when is up to the moves, so the lists of moves are all the
interleavings there are, and `World.play` is what comes of one of them.

A world keeps a journal of what happened, in order. No step looks at it.
-/

namespace DebugLink

/-- Something that happened. -/
inductive Entry
  /-- A command was issued and its caller was handed a receipt. -/
  | issued (receipt : Receipt) (command : Command) (data : Bytes)
  | performed (work : Work)
  /-- A live connection was torn down. -/
  | tornDown
  /-- A packet was handed to the transport. -/
  | handed (id : UInt32) (frame : Bytes)
  | wrote (id : UInt32) (result : Except Failure Unit)
  /-- The transport was closed. -/
  | shut
  /-- A caller got an outcome for its receipt. -/
  | answered (receipt : Receipt) (outcome : Except Failure Bytes)
  /-- A caller found a value. -/
  | found (key : String) (value : StoredValue)
  /-- A caller found no value of a kind, and began to compute one. -/
  | missed (caller : Nat) (key : String) (kind : ValueKind) (stamp : Stamp)
  /-- A caller stored what it had computed, or came too late for that. -/
  | stored (caller : Nat) (key : String) (value : StoredValue) (kept : Bool)
  /-- A caller invalidated the scope. -/
  | invalidated
  | acquired (object : ObjectId) (lease : Option LeaseId)
  | probed (probe : ProbeId)
  | subscribed (id : SubscriptionId)
  | delivered (id : SubscriptionId) (delivery : Delivery)

namespace Connection

variable (connection : Connection)

/-- What is to be recorded if a command is issued. -/
def issueEntries (command : Command) (data : Bytes) : List Entry :=
  match (connection.issue command data).1 with
  | .ok receipt => [.issued receipt command data]
  | .error _ => []

/-- What is to be recorded if a piece of work is performed. -/
def workEntries (work : Work) : List Entry :=
  .performed work :: match work with
    | .dispose payload => connection.issueEntries .disposeObjects payload
    | .disconnect => if connection.dead then [] else [.tornDown]
    | _ => []

/-- What is to be recorded if the first of some pieces is performed. -/
def headEntries : List Work → List Entry
  | [] => []
  | work :: _ => connection.workEntries work

end Connection

/-! ## Callers -/

/-- What a caller waits for, or was about to do when it had to let others go first. -/
inductive Stage
  /-- It waits for the outcome of a command, unless the command was refused. -/
  | calling (call : Call) (issued : Except Failure Receipt)
  /-- It has an outcome, and does what the call is for. -/
  | concluding (call : Call) (issued : Except Failure Receipt)
  /-- It computes a value. -/
  | computing (key : String) (kind : ValueKind) (stamp : Stamp)
  /-- It has received a batch and has not counted it. -/
  | counting (id : SubscriptionId)
  /-- It has counted a batch and has not applied the policy. -/
  | judging
  /-- It has counted a request to hold or release and has not woken the flow loop. -/
  | waking
  | done

/-- What a caller is doing. It goes on only when no pieces are left. -/
structure Activity where
  works : List Work := []
  stage : Stage := .done

/-- What a caller can begin. -/
inductive Operation
  /-- Issues a command, to wait for its outcome. -/
  | call (call : Call)
  /-- Looks a value up, to compute it if there is none. -/
  | cache (key : String) (kind : ValueKind)
  /-- Reports that the debuggee is suspended. -/
  | noteSuspended
  | invalidate
  | acquire (object : ObjectId)
  | cloneLease (lease : LeaseId)
  | dropLease (lease : LeaseId)
  /-- Drops a value that it was given. -/
  | dropValue (value : StoredValue)
  | flush
  | setIdSizes (sizes : IdSizes)
  | measure
  | subscribe
  | receive (id : SubscriptionId)
  | unsubscribe (id : SubscriptionId)
  | hold
  | release
  | cloneHandle
  | dropHandle
  | close

namespace Connection

variable (connection : Connection)

/-- The connection with its flow control changed. -/
def withFlow (f : FlowControl → FlowControl) : Connection :=
  { connection with feed := { connection.feed with flow := f connection.feed.flow } }

/-- The first step of an operation, made by the caller with a number: what is to be recorded, what
the caller is doing from then on, and the connection. -/
def start (caller : Nat) : Operation → List Entry × Activity × Connection
  | .call call =>
    let (issued, works, connection') := connection.begin call
    (connection.issueEntries call.command (call.payload connection.idSizes),
      { works, stage := .calling call issued }, connection')
  | .cache key kind =>
    match connection.lookup key kind with
    | (some value, connection) => ([.found key value], {}, connection)
    | (none, connection) =>
      ([.missed caller key kind connection.scope.stamp],
        { stage := .computing key kind connection.scope.stamp }, connection)
  | .noteSuspended => ([], { works := [.suspended] }, connection)
  | .invalidate =>
    let (works, connection) := connection.invalidate
    ([.invalidated], { works }, connection)
  | .acquire object =>
    let (lease, connection) := connection.acquire object
    ([.acquired object lease], {}, connection)
  | .cloneLease lease => ([], {}, connection.cloneAll [lease])
  | .dropLease lease => ([], { works := [.release lease] }, connection)
  | .dropValue value => ([], { works := [.discard [value]] }, connection)
  | .flush => ([], { works := [.flush] }, connection)
  | .setIdSizes idSizes => ([], {}, { connection with idSizes })
  | .measure =>
    let (probe, connection) := connection.probe
    ([.probed probe], {}, connection)
  | .subscribe =>
    let (id, feed) := connection.feed.subscribe
    ([.subscribed id], {}, { connection with feed })
  | .receive id =>
    match connection.feed.pop id with
    | (some (.events batch), feed) =>
      ([.delivered id (.events batch)], { stage := .counting id }, { connection with feed })
    | (some .disconnected, feed) => ([.delivered id .disconnected], {}, { connection with feed })
    | (none, feed) => ([], {}, { connection with feed })
  | .unsubscribe id => ([], {}, { connection with feed := connection.feed.drop id })
  | .hold => ([], { stage := .waking }, connection.withFlow (·.bump 1))
  | .release => ([], { stage := .waking }, connection.withFlow (·.bump (-1)))
  | .cloneHandle => ([], {}, connection.retain)
  | .dropHandle =>
    let (works, connection) := connection.release
    ([], { works }, connection)
  | .close => ([], { works := [.close] }, connection)

end Connection

/-! ## Moves -/

/-- One atomic step of somebody. -/
inductive Move
  -- The dispatcher
  | receive (reception : Reception)
  | stopDispatcher
  | performDispatcher
  -- The writer
  | take
  | wrote (result : Except Failure Unit)
  | shut
  | drain
  | performWriter
  -- The flow loop
  | wakeFlow
  | advanceFlow
  | stopFlow
  | performFlow
  -- The callers
  | start (operation : Operation)
  /-- A caller goes on, where it runs. If it needs an outcome it awaits it. -/
  | advance (n : Nat) (caller : Caller)
  /-- A caller goes on, where it runs. If it needs an outcome it blocks. -/
  | block (n : Nat) (caller : Caller)
  /-- A computation comes to its end. -/
  | supply (n : Nat) (result : Except Failure StoredValue)
  /-- A caller waits no longer, and drops what it waited for. -/
  | cancel (n : Nat)

/-- An engine, its callers and what has happened. -/
structure World where
  engine : Engine
  activities : List Activity := []
  journal : List Entry := []

namespace World

/-- A new connection that nobody has used. -/
def ofConfig (config : Config) : World where
  engine := { connection := .ofConfig config }

variable (world : World)

/-- The connection. -/
def connection : Connection :=
  world.engine.connection

/-- The pieces of work that somebody other than the dispatcher has still to perform. -/
def others : List Work :=
  world.engine.writerWork ++ world.engine.flowWork ++ world.activities.flatMap Activity.works

/-- Every piece of work that somebody has still to perform. -/
def works : List Work :=
  world.engine.dispatcherWork ++ world.others

/-- The engine has made a step. -/
def record (engine : Engine) (entries : List Entry) : World :=
  { world with engine, journal := world.journal ++ entries }

/-- The caller with a number has made a step. -/
def recordCaller (n : Nat) (activity : Activity) (entries : List Entry)
    (connection : Connection) : World where
  engine := { world.engine with connection }
  activities := world.activities.set n activity
  journal := world.journal ++ entries

/-- A caller begins something. -/
def start (operation : Operation) : World :=
  let (entries, activity, connection) := world.connection.start world.activities.length operation
  { engine := { world.engine with connection }
    activities := world.activities ++ [activity]
    journal := world.journal ++ entries }

/-- The outcome of a command that was issued or refused. -/
def outcomeOf (poll : Receipt → Option (Except Failure Bytes)) :
    Except Failure Receipt → Option (Except Failure Bytes)
  | .ok receipt => poll receipt
  | .error failure => some (.error failure)

/-- What is to be recorded of an outcome. -/
def outcomeEntries (outcome : Except Failure Bytes) : Except Failure Receipt → List Entry
  | .ok receipt => [.answered receipt outcome]
  | .error _ => []

/-- A caller goes on: it performs a piece, or makes the next step of its operation. -/
def goOn (n : Nat) (poll : Receipt → Option (Except Failure Bytes)) : World :=
  match world.activities[n]? with
  | none => world
  | some ⟨work :: rest, stage⟩ =>
    let (more, connection) := world.connection.perform work
    world.recordCaller n ⟨more ++ rest, stage⟩ (world.connection.workEntries work) connection
  | some ⟨[], .calling call issued⟩ =>
    match outcomeOf poll issued with
    | none => world
    | some outcome =>
      let (_, works, connection) := call.finish outcome world.connection
      world.recordCaller n ⟨works, .concluding call issued⟩ (outcomeEntries outcome issued)
        connection
  | some ⟨[], .counting id⟩ =>
    world.recordCaller n ⟨[], .judging⟩ []
      { world.connection with feed := world.connection.feed.countReceived id }
  | some ⟨[], .judging⟩ =>
    world.recordCaller n {} [] { world.connection with feed := world.connection.feed.applyPolicy }
  | some ⟨[], .waking⟩ => world.recordCaller n {} [] (world.connection.withFlow .wake)
  | some _ => world

/-- A computation comes to its end. A value is stored, unless it comes too late. -/
def supply (n : Nat) (result : Except Failure StoredValue) : World :=
  match world.activities[n]?, result with
  | some ⟨[], .computing _ _ _⟩, .error _ => world.recordCaller n {} [] world.connection
  | some ⟨[], .computing key kind stamp⟩, .ok value =>
    if value.kind = kind then
      let (works, connection) := world.connection.store key stamp value
      world.recordCaller n { works }
        [.stored n key value (world.connection.scope.honours stamp)] connection
    else world
  | _, _ => world

/-- A caller waits no longer. -/
def cancel (n : Nat) : World :=
  match world.activities[n]? with
  | some ⟨[], .calling _ _⟩ | some ⟨[], .computing _ _ _⟩ =>
    world.recordCaller n {} [] world.connection
  | _ => world

/-- What is to be recorded when the writer takes the next message. -/
def takeEntries : List Entry :=
  if world.engine.writer = .receiving ∧ world.engine.writerWork = [] then
    match world.connection.outbound with
    | .frame id bytes :: _ => [.handed id bytes]
    | _ => []
  else []

/-- What is to be recorded when the transport is done with a packet. -/
def wroteEntries (result : Except Failure Unit) : List Entry :=
  match world.engine.writer with
  | .writing id _ => [.wrote id result]
  | _ => []

/-- What is to be recorded when the flow loop goes on. -/
def flowEntries : List Entry :=
  match world.engine.flowLoop with
  | .captured net =>
    (world.connection.report (.flowCommand net (FlowControl.command net).number)).issueEntries
      (FlowControl.command net) []
  | _ => []

/-- Makes a move. -/
def step : Move → World
  | .receive reception => world.record (world.engine.received reception) []
  | .stopDispatcher => world.record world.engine.stopDispatcher []
  | .performDispatcher =>
    world.record world.engine.performDispatcher
      (world.connection.headEntries world.engine.dispatcherWork)
  | .take => world.record world.engine.take world.takeEntries
  | .wrote result => world.record (world.engine.wrote result) (world.wroteEntries result)
  | .shut => world.record world.engine.shut (if world.engine.writer = .closing then [.shut] else [])
  | .drain => world.record world.engine.drain []
  | .performWriter =>
    world.record world.engine.performWriter (world.connection.headEntries world.engine.writerWork)
  | .wakeFlow => world.record world.engine.wakeFlow []
  | .advanceFlow => world.record world.engine.advanceFlow world.flowEntries
  | .stopFlow => world.record world.engine.stopFlow []
  | .performFlow =>
    world.record world.engine.performFlow (world.connection.headEntries world.engine.flowWork)
  | .start operation => world.start operation
  | .advance n caller => world.goOn n (·.poll caller world.connection)
  | .block n caller => world.goOn n (·.wait caller world.connection)
  | .supply n result => world.supply n result
  | .cancel n => world.cancel n

/-- Makes moves one after the other on a new connection. -/
def play (config : Config) (moves : List Move) : World :=
  moves.foldl step (ofConfig config)

@[simp]
theorem play_nil (config : Config) : play config [] = ofConfig config := rfl

theorem play_append (config : Config) (moves : List Move) (move : Move) :
    play config (moves ++ [move]) = (play config moves).step move := by
  rw [play, List.foldl_append]; rfl

/-- What holds at first and is kept by every step holds always. -/
theorem play_induction {config : Config} {P : List Move → World → Prop}
    (init : P [] (ofConfig config))
    (step : ∀ moves move, P moves (play config moves) →
      P (moves ++ [move]) ((play config moves).step move))
    (moves : List Move) : P moves (play config moves) := by
  induction moves using List.reverseRecOn with
  | nil => exact init
  | append_singleton moves move ih =>
    rw [play_append]
    exact step moves move ih

/-- What is noted of each of some moves. -/
def gather {α : Type} (note : World → Move → List α) (world : World) : List Move → List α
  | [] => []
  | move :: moves => note world move ++ gather note (world.step move) moves

theorem gather_append {α : Type} (note : World → Move → List α) (world : World)
    (moves more : List Move) :
    gather note world (moves ++ more) =
      gather note world moves ++ gather note (moves.foldl step world) more := by
  induction moves generalizing world with
  | nil => rfl
  | cons move moves ih => simp [gather, ih]

theorem gather_concat {α : Type} (note : World → Move → List α) (config : Config)
    (moves more : List Move) (move : Move) :
    gather note (play config moves) (more ++ [move]) =
      gather note (play config moves) more ++ note (play config (moves ++ more)) move := by
  have here : more.foldl step (play config moves) = play config (moves ++ more) :=
    List.foldl_append.symm
  rw [gather_append, here, gather, gather, List.append_nil]

theorem gather_play {α : Type} (note : World → Move → List α) (config : Config)
    (moves : List Move) (move : Move) :
    gather note (ofConfig config) (moves ++ [move]) =
      gather note (ofConfig config) moves ++ note (play config moves) move :=
  gather_concat note config [] moves move

end World

end DebugLink
