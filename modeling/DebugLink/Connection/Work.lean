import DebugLink.Connection

/-!
# Connection.Work: what happens to a connection, one atomic piece at a time

Everything that changes a connection is cut into pieces of `Work`, each of which happens at once:
it is what is done while the connection's state is held, and no more. A piece may leave further
pieces behind, which have to be performed after it by whoever performed it, while others may come
in between. A settled reply, for instance, leaves the flush of the disposals behind, and that
leaves the sending of the batch behind.

`Connection.perform` is one piece; `Connection.Run` performs a piece with all that it leaves behind.
Cached values are never dropped where the state is changed but by a piece of their own, because to
drop one may give up a lease, and that changes the state again.
-/

namespace DebugLink

/-- One atomic piece of work on a connection. -/
inductive Work
  /-- A reply has come in. -/
  | replied (reply : ReplyPacket)
  /-- A command will get no reply, for the given reason. -/
  | abandon (id : UInt32) (failure : Failure)
  /-- The outcome of a request that is no longer pending is handed to its caller. -/
  | resolve (request : Request) (reply : ReplyPacket)
  | fail (request : Request) (failure : Failure)
  /-- The debuggee is reported to be suspended as a whole. -/
  | suspended
  | publish (batch : EventBatch)
  /-- Cached values are dropped. -/
  | discard (values : List StoredValue)
  /-- A clone of a lease is dropped. -/
  | release (lease : LeaseId)
  /-- The last clone of a lease is gone. -/
  | reclaim (object : ObjectId) (retained : UInt32)
  | queueDisposal (object : ObjectId) (retained : UInt32)
  /-- The disposals are taken to be sent. -/
  | flush
  | sendBatch (counts : List (ObjectId × UInt32))
  | dispose (payload : Bytes)
  | countSent
  /-- The connection is closed by its owner. -/
  | close
  | disconnect
  | clearDisposals
  | closeFeed
  | markClosed
  | queueClose
  deriving DecidableEq, Repr

namespace Connection

variable (connection : Connection)

/-! ## Requests -/

/-- Records the outcome of a request and what became of its probes. -/
def settle (request : Request) (outcome : Except Failure Bytes) (measured : Except Failure Unit) :
    Connection :=
  { connection with
    outcomes := connection.outcomes ++ [(request.serial, outcome)]
    measurements := connection.measurements ++ request.probes.map (·, measured) }

/-- Makes a request pending. One that is still pending under the same id gets no reply any more. -/
def register (request : Request) : Connection :=
  let replaced := connection.pending.filter (·.id == request.id)
  let connection := replaced.foldl
    (fun connection old => connection.settle old (.error .disconnected) (.error .disconnected))
    connection
  { connection with pending := connection.pending.filter (·.id != request.id) ++ [request] }

/-- Takes the request with an id out of the pending ones, and out of the resuming commands. -/
def take (id : UInt32) : Option Request × Connection :=
  (connection.request? id,
    { connection with
      pending := connection.pending.filter (·.id != id)
      scope := connection.scope.complete id })

/-- What a resuming command does to the scope: it ends, and its values are to be dropped. -/
def leaveScope (id : UInt32) : List Work × Connection :=
  let scope := connection.scope.expectResume id
  ([.discard connection.scope.contents],
    { connection with scope }.report (.scopeInvalidated scope.epoch))

/-- Issues a command: it gets the next id, becomes pending and is queued for the writer, all at
once, so that packets are written in the order of their ids. A dead connection issues nothing. If
the writer takes no messages any more, the request is withdrawn. -/
def issue (command : Command) (data : Bytes) :
    Except Failure Receipt × List Work × Connection :=
  if connection.dead then (.error .disconnected, [], connection)
  else
    let id := connection.nextId
    let request : Request :=
      { id, serial := connection.issued, command, probes := connection.probes }
    let connection := register
      { connection with nextId := idAfter id, probes := [] } request
    let (evicted, connection) :=
      if command.resumes then connection.leaveScope id else ([], connection)
    if connection.outboundOpen then
      let packet : CommandPacket := ⟨id, command.set, command.number, data⟩
      (.ok { connection := connection.name, id, serial := request.serial },
        evicted ++ [.countSent],
        { connection with
          issued := connection.issued + 1
          outbound := connection.outbound ++ [.frame id packet.encode] })
    else
      let (_, connection) := connection.take id
      (.error .disconnected, evicted,
        { connection with
          measurements := connection.measurements ++
            request.probes.map (·, .error .disconnected) })

/-! ## The scope -/

/-- Records that the debuggee is suspended as a whole, unless that is not believed. -/
def noteSuspended : Connection :=
  let scope := connection.scope.suspend
  let connection' := { connection with scope }
  if connection.scope.active then connection
  else if scope.active then connection'.report (.scopeActive scope.epoch)
  else connection.report (.suspendIgnored connection.scope.resumes.length)

/-- The scope ends and its values are to be dropped. -/
def invalidate : List Work × Connection :=
  if connection.scope.dormant then ([], connection)
  else
    let scope := connection.scope.invalidate
    ([.discard connection.scope.contents],
      { connection with scope }.report (.scopeInvalidated scope.epoch))

/-! ## Pieces of work -/

/-- A reply goes to its request and is reported if there is none. Either way the disposals are
flushed. -/
def replied (reply : ReplyPacket) : List Work × Connection :=
  match connection.take reply.id with
  | (some request, connection) => ([.resolve request reply, .flush], connection)
  | (none, connection) => ([.flush], connection.report (.unknownReply reply.id))

/-- The connection is dead from here on. What was pending fails, and the rest of the shutdown
follows piece by piece. A dead connection does not die again. -/
def disconnect : List Work × Connection :=
  if connection.dead then ([], connection)
  else
    let drained := connection.pending
    let (evicted, connection) := invalidate
      { connection with
        dead := true
        leases := connection.leases.clear
        measurements := connection.measurements ++
          connection.probes.map (·, .error .disconnected)
        probes := []
        pending := []
        scope := { connection.scope with resumes := [] } }
    (evicted ++ drained.map (.fail · .disconnected) ++
      [.clearDisposals, .closeFeed, .markClosed, .queueClose], connection)

/-- The object of a lease that is gone is forgotten. Its count is given back, unless the connection
is going down. -/
def reclaim (object : ObjectId) (retained : UInt32) : List Work × Connection :=
  let connection := { connection with leases := connection.leases.prune object }
  if connection.dead ∨ connection.shuttingDown then ([], connection)
  else ([.queueDisposal object retained], connection)

/-- Performs one piece of work. The pieces it leaves behind come first. -/
def perform : Work → List Work × Connection
  | .replied reply => connection.replied reply
  | .abandon id failure =>
    match connection.take id with
    | (some request, connection) => ([.fail request failure], connection)
    | (none, connection) => ([], connection)
  | .resolve request reply => ([], connection.settle request reply.result (.ok ()))
  | .fail request failure =>
    ([], connection.settle request (.error failure) (.error .disconnected))
  | .suspended => ([], connection.noteSuspended)
  | .publish batch => ([], { connection with feed := connection.feed.publish batch })
  | .discard values => ((values.flatMap StoredValue.owned).map .release, connection)
  | .release lease =>
    match connection.leases.drop lease with
    | (some gone, leases) => ([.reclaim gone.object gone.retained], { connection with leases })
    | (none, leases) => ([], { connection with leases })
  | .reclaim object retained => connection.reclaim object retained
  | .queueDisposal object retained =>
    let disposals := connection.disposals.push object retained
    (if disposals.isFull then [.flush] else [], { connection with disposals })
  | .flush =>
    if connection.disposals.counts.isEmpty then ([], connection)
    else ([.sendBatch connection.disposals.counts],
      { connection with disposals := connection.disposals.clear })
  | .sendBatch counts =>
    if connection.shuttingDown ∨ connection.dead then ([], connection)
    else ([.dispose (disposePayload connection.idSizes.object counts)], connection)
  | .dispose payload => (connection.issue .disposeObjects payload).2
  | .countSent => ([], { connection with sent := connection.sent + 1 })
  | .close =>
    if connection.dead then ([], connection)
    else ([.disconnect], { connection with shuttingDown := true })
  | .disconnect => connection.disconnect
  | .clearDisposals => ([], { connection with disposals := connection.disposals.clear })
  | .closeFeed => ([], { connection with feed := connection.feed.close })
  | .markClosed => ([], { connection with closed := true })
  | .queueClose =>
    ([], { connection with
      outbound := if connection.outboundOpen then connection.outbound ++ [.close]
        else connection.outbound })

end Connection

end DebugLink
