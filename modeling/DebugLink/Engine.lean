import DebugLink.Connection.Run

/-!
# Engine: the three tasks behind a connection

The dispatcher is the only reader of the transport: it hands replies to their requests and event
packets to the feed, and never waits for anything else. The writer is the only writer: it takes
messages from the outbound queue, one at a time. The flow loop turns requests to hold or release
events into commands.

Each task is a small machine, and each function below is one step of one of them; a step that is
not possible changes nothing. Between its steps a task may have pieces of work to perform, and goes
on only when there are none. What the transport does is not decided here: it tells the engine what
was read (`received`), what became of a packet (`wrote`), and that it is closed (`shut`).
-/

namespace DebugLink

/-- Where the writer stands. -/
inductive Writer
  | receiving
  /-- A packet has been handed to the transport. -/
  | writing (id : UInt32) (frame : Bytes)
  /-- The transport is being closed. -/
  | closing
  /-- Whatever is queued will not be written. -/
  | draining
  | exited
  deriving DecidableEq, Repr

/-- Where the dispatcher stands. -/
inductive Dispatcher
  | reading
  | stopped
  deriving DecidableEq, Repr

/-- What an attempt to read a packet comes to. -/
inductive Reception
  | frame (frame : Bytes)
  /-- The debuggee has closed the transport. -/
  | finished
  | failed (failure : Failure)
  deriving DecidableEq, Repr

/-- A connection with its three tasks and the work that each has still to perform. -/
structure Engine where
  connection : Connection
  writer : Writer := .receiving
  writerWork : List Work := []
  dispatcher : Dispatcher := .reading
  dispatcherWork : List Work := []
  flowLoop : FlowLoop := .waiting
  flowWork : List Work := []

/-- What an inbound packet leaves to do. One that cannot be used is reported and does nothing. -/
def Connection.accept (connection : Connection) (frame : Bytes) : List Work × Connection :=
  match Packet.decode frame with
  | .error fault => ([], connection.report (.undecodable fault))
  | .ok (.reply reply) => ([.replied reply], connection)
  | .ok (.command packet) =>
    if packet.commandSet = Command.events then
      match EventBatch.ofPacket packet with
      | .error fault => ([], connection.report (.refusedEvents fault))
      | .ok batch =>
        (if batch.suspendPolicy = suspendAllPolicy then [.suspended, .publish batch]
          else [.publish batch], connection)
    else
      ([], connection.report (.ignoredCommand packet.id packet.commandSet packet.command))

namespace Engine

variable (engine : Engine)

/-! ## The dispatcher -/

/-- The dispatcher performs a piece of its work. -/
def performDispatcher : Engine :=
  match engine.dispatcherWork with
  | [] => engine
  | work :: works =>
    let (more, connection) := engine.connection.perform work
    { engine with connection, dispatcherWork := more ++ works }

/-- The dispatcher has read something. After the end of the transport or a failure it tears the
connection down and stops. -/
def received (reception : Reception) : Engine :=
  if engine.dispatcher = .reading ∧ engine.dispatcherWork = [] then
    match reception with
    | .frame frame =>
      let (dispatcherWork, connection) :=
        (engine.connection.report (.frameReceived frame)).accept frame
      { engine with connection, dispatcherWork }
    | .finished => { engine with dispatcher := .stopped, dispatcherWork := [.disconnect] }
    | .failed failure =>
      { engine with
        connection := engine.connection.report (.readFailed failure)
        dispatcher := .stopped
        dispatcherWork := [.disconnect] }
  else engine

/-- The dispatcher sees that the connection is closed, and stops. -/
def stopDispatcher : Engine :=
  if engine.dispatcher = .reading ∧ engine.dispatcherWork = [] ∧ engine.connection.closed then
    { engine with dispatcher := .stopped, dispatcherWork := [.disconnect] }
  else engine

/-! ## The writer -/

/-- The writer performs a piece of its work. -/
def performWriter : Engine :=
  match engine.writerWork with
  | [] => engine
  | work :: works =>
    let (more, connection) := engine.connection.perform work
    { engine with connection, writerWork := more ++ works }

/-- The writer takes the next message. -/
def take : Engine :=
  if engine.writer = .receiving ∧ engine.writerWork = [] then
    match engine.connection.outbound with
    | [] => engine
    | .frame id bytes :: rest =>
      { engine with
        connection := { engine.connection with outbound := rest }.report (.frameSent bytes)
        writer := .writing id bytes }
    | .close :: rest =>
      { engine with
        connection := { engine.connection with outbound := rest }
        writer := .closing }
  else engine

/-- The transport has written the packet, or has failed to. After a failure the request gets that
failure for its outcome, the connection is torn down, and nothing more is written. -/
def wrote (result : Except Failure Unit) : Engine :=
  match engine.writer, result with
  | .writing _ _, .ok () => { engine with writer := .receiving }
  | .writing id _, .error failure =>
    { engine with
      connection := engine.connection.report (.writeFailed id failure)
      writer := .draining
      writerWork := [.abandon id failure, .disconnect] }
  | _, _ => engine

/-- The transport is closed. -/
def shut : Engine :=
  if engine.writer = .closing then { engine with writer := .draining } else engine

/-- The writer takes no more messages. A packet that was queued is given up, and with the last
message the writer exits. -/
def drain : Engine :=
  if engine.writer = .draining ∧ engine.writerWork = [] then
    let connection := { engine.connection with outboundOpen := false }
    match connection.outbound with
    | [] => { engine with connection, writer := .exited }
    | .frame id _ :: rest =>
      { engine with
        connection := { connection with outbound := rest }
        writerWork := [.abandon id .disconnected] }
    | .close :: rest => { engine with connection := { connection with outbound := rest } }
  else engine

/-! ## The flow loop -/

/-- Changes the flow control of the connection. -/
def updateFlow (f : FlowControl → FlowControl) : Engine :=
  { engine with
    connection := { engine.connection with
      feed := { engine.connection.feed with flow := f engine.connection.feed.flow } } }

/-- The flow loop performs a piece of its work. -/
def performFlow : Engine :=
  match engine.flowWork with
  | [] => engine
  | work :: works =>
    let (more, connection) := engine.connection.perform work
    { engine with connection, flowWork := more ++ works }

/-- The flow loop takes a wake-up. -/
def wakeFlow : Engine :=
  if engine.flowLoop = .waiting ∧ engine.flowWork = [] ∧ engine.connection.feed.flow.woken then
    { engine.updateFlow ({ · with woken := false }) with flowLoop := .awake }
  else engine

/-- The flow loop sees that the connection is closed, and stops. -/
def stopFlow : Engine :=
  if engine.flowLoop = .waiting ∧ engine.flowWork = [] ∧ engine.connection.closed then
    { engine with flowLoop := .stopped }
  else engine

/-- The flow loop, once awake, reads the count, then subtracts what it has read, then sends the
command for it. If that fails it stops. -/
def advanceFlow : Engine :=
  match engine.flowLoop with
  | .awake => { engine with flowLoop := .loaded engine.connection.feed.flow.net }
  | .loaded net =>
    if net = 0 then { engine with flowLoop := .waiting }
    else { engine.updateFlow (·.bump (-net)) with flowLoop := .captured net }
  | .captured net =>
    let command := FlowControl.command net
    let connection := engine.connection.report (.flowCommand net command.number)
    match connection.issue command [] with
    | (.ok _, flowWork, connection) => { engine with connection, flowLoop := .waiting, flowWork }
    | (.error _, flowWork, connection) => { engine with connection, flowLoop := .stopped, flowWork }
  | _ => engine

/-! ## The whole -/

/-- Whether anybody holds on to the connection: a user, the dispatcher or the writer. -/
def alive : Bool :=
  engine.connection.handles != 0 || engine.dispatcher != .stopped || !engine.dispatcherWork.isEmpty
    || engine.writer != .exited

end Engine

end DebugLink
