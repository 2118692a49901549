import DebugLink.Config
import DebugLink.EventFeed
import DebugLink.Lease
import DebugLink.Notice
import DebugLink.Scope

/-!
# Connection: the state that all users of one connection share

A connection numbers the commands it issues, keeps a `Request` for each until it is settled, and
queues their packets for the writer. Beside the requests it holds the suspend scope with its cached
values, the leases on remote objects with the batch of those to be disposed of, the event feed, and
the probes that wait for the next command in order to measure its round trip.

A caller keeps a `Receipt`, by which it finds the outcome of its request once there is one.
Receipts carry a serial number as well as the packet id, because packet ids come round again.
-/

namespace DebugLink

/-- A value computed from the debuggee's state. Lists of leases own one clone of each. -/
inductive StoredValue
  | number (n : UInt64)
  | text (s : String)
  | leases (ids : List LeaseId)
  /-- A value of another type, by the type's name: what it says and the leases it owns. -/
  | other (type content : String) (ids : List LeaseId)
  deriving DecidableEq, Repr

/-- The kinds of cached values. A value is only found by who asks for its kind. -/
inductive ValueKind
  | number | text | leases
  | other (type : String)
  deriving DecidableEq, Repr

namespace StoredValue

def kind : StoredValue → ValueKind
  | number _ => .number
  | text _ => .text
  | leases _ => .leases
  | other type _ _ => .other type

/-- The leases a value owns a clone of. -/
def owned : StoredValue → List LeaseId
  | leases ids | other _ _ ids => ids
  | _ => []

end StoredValue

/-- The identity of a probe that measures the round trip of one command. -/
abbrev ProbeId := Nat

/-- A command that was issued and is not settled. -/
structure Request where
  id : UInt32
  /-- The number of commands that were issued before it. -/
  serial : Nat
  command : Command
  /-- The probes that its reply resolves. -/
  probes : List ProbeId
  deriving DecidableEq, Repr

/-- The caller's side of a request. -/
structure Receipt where
  /-- Which connection the request was issued on. -/
  connection : Nat
  id : UInt32
  serial : Nat
  deriving DecidableEq, Repr

/-- A message to the writer. -/
inductive Message
  | frame (id : UInt32) (bytes : Bytes)
  /-- Close the transport and stop. -/
  | close
  deriving DecidableEq, Repr

/-- The state of a connection. Outcomes and notices are kept in the order in which they arose. -/
structure Connection where
  /-- Which connection this is. -/
  name : Nat := 0
  /-- How many handles its users hold. -/
  handles : Nat := 1
  pending : List Request := []
  scope : Scope StoredValue := {}
  leases : LeaseTable := {}
  idSizes : IdSizes
  nextId : UInt32 := 1
  /-- How many commands were issued. -/
  issued : Nat := 0
  dead : Bool := false
  shuttingDown : Bool := false
  /-- The probes that wait for the next command. -/
  probes : List ProbeId := []
  nextProbe : ProbeId := 0
  disposals : Disposals
  feed : EventFeed
  /-- The queue to the writer. -/
  outbound : List Message := []
  /-- Whether the writer still takes messages. -/
  outboundOpen : Bool := true
  /-- Whether the engine has been told that the connection is closed. -/
  closed : Bool := false
  /-- How many commands were counted as sent. -/
  sent : Nat := 0
  outcomes : List (Nat × Except Failure Bytes) := []
  measurements : List (ProbeId × Except Failure Unit) := []
  notices : List Notice := []

namespace Connection

/-- A new connection. -/
def ofConfig (config : Config) : Connection where
  idSizes := config.idSizes
  disposals := { threshold := config.disposeThreshold }
  feed := { flow := { high := config.highWatermark, low := config.lowWatermark } }

variable (connection : Connection)

/-- Reports something. -/
def report (notice : Notice) : Connection :=
  { connection with notices := connection.notices ++ [notice] }

/-- The outcome of a request, once there is one. -/
def outcome? (receipt : Receipt) : Option (Except Failure Bytes) :=
  connection.outcomes.lookup receipt.serial

/-- What became of a probe, once it is known. -/
def measurement? (probe : ProbeId) : Option (Except Failure Unit) :=
  connection.measurements.lookup probe

/-- The id behind an id. Zero is skipped. -/
def idAfter (id : UInt32) : UInt32 :=
  if id + 1 = 0 then 1 else id + 1

/-- The request with an id. -/
def request? (id : UInt32) : Option Request :=
  connection.pending.find? (·.id == id)

/-- No request is pending and no batch waits to be received. -/
def idle : Bool :=
  connection.pending.isEmpty && connection.feed.deepest == 0

/-- The connection described for a log. -/
def describe : String :=
  s!"JdwpConnection \x7b connected: {!connection.dead}, pending: {connection.pending.length}, " ++
  s!"suspend_epoch: {connection.scope.epoch}, " ++
  s!"pending_resumes: {connection.scope.resumes.length}, " ++
  s!"cached: {connection.scope.size}, objects: {connection.leases.size}, " ++
  s!"subscribers: {connection.feed.registered.length} \x7d"

end Connection

end DebugLink
