import DebugLink.Call
import DebugLink.Connection.Run

/-!
# Connection.Caller: what the users of a connection do with it

A user issues commands and waits for their outcomes, looks values up in the suspend scope and
stores what was computed, and acquires leases. Whether it may wait depends on where it runs
(`Caller`). The dispatcher of a connection is what delivers replies, so code that runs on it is
refused at once if it waits for one; a task may suspend itself but must not block, and only a
thread of its own may do that.

What is done here is one atomic piece each, like those of `Connection.Work`; those that leave
pieces behind return them.
-/

namespace DebugLink

/-- Where code runs. -/
inductive Caller
  /-- On the dispatcher of a connection. -/
  | dispatcher (connection : Nat)
  | task
  | thread
  deriving DecidableEq, Repr

namespace Receipt

variable (receipt : Receipt)

/-- What awaiting a reply yields now, or `none` if there is nothing to do but to go on waiting. -/
def poll (caller : Caller) (connection : Connection) : Option (Except Failure Bytes) :=
  if caller = .dispatcher receipt.connection then
    some (.error (.misuse (.waitOnDispatcher receipt.id)))
  else connection.outcome? receipt

/-- What blocking on a reply yields now, or `none` if there is nothing to do but to stay blocked. -/
def wait (caller : Caller) (connection : Connection) : Option (Except Failure Bytes) :=
  if caller = .dispatcher receipt.connection then
    some (.error (.misuse (.waitOnDispatcher receipt.id)))
  else if caller = .thread then connection.outcome? receipt
  else some (.error (.misuse (.blockTask receipt.id)))

end Receipt

namespace Connection

variable (connection : Connection)

/-- Issues the command of a call. -/
def begin (call : Call) : Except Failure Receipt × List Work × Connection :=
  connection.issue call.command (call.payload connection.idSizes)

/-- One more handle. -/
def retain : Connection :=
  { connection with handles := connection.handles + 1 }

/-- One handle less. With the last one the connection is closed. -/
def release : List Work × Connection :=
  (if connection.handles = 1 then [.close] else [],
    { connection with handles := connection.handles - 1 })

/-- A probe for the next command. On a dead connection there will be none. -/
def probe : ProbeId × Connection :=
  let connection' := { connection with nextProbe := connection.nextProbe + 1 }
  (connection.nextProbe,
    if connection.dead then
      { connection' with
        measurements := connection.measurements ++ [(connection.nextProbe, .error .disconnected)] }
    else { connection' with probes := connection.probes ++ [connection.nextProbe] })

/-- A clone of the lease on an object. The null object has none. -/
def acquire (object : ObjectId) : Option LeaseId × Connection :=
  let (lease, leases) := connection.leases.acquire object
  (lease, { connection with leases })

/-- One more clone of each of some leases. -/
def cloneAll (ids : List LeaseId) : Connection :=
  { connection with leases := ids.foldl LeaseTable.clone connection.leases }

/-- The value under a key, if it is of the kind asked for; the caller gets clones of its leases. -/
def lookup (key : String) (kind : ValueKind) : Option StoredValue × Connection :=
  match connection.scope.value? key (·.kind == kind) with
  | some value => (some value, connection.cloneAll value.owned)
  | none => (none, connection)

/-- Stores a copy of a computed value if its stamp is honoured. The caller keeps its own. -/
def store (key : String) (stamp : Stamp) (value : StoredValue) : List Work × Connection :=
  let (unheld, scope) := connection.scope.store key stamp value
  let connection' := { connection.cloneAll value.owned with scope }
  ([.discard unheld],
    if connection.scope.honours stamp then connection'
    else connection'.report (.valueDiscarded key stamp.epoch connection.scope.epoch))

end Connection

end DebugLink
