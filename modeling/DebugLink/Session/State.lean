import DebugLink.Session.Transport
import DebugLink.JobPool

/-!
# Session.State: a connection with everybody around it

A `Session` is the engine between its scripted transport, the tasks that wait to be run, the calls
and jobs that have not come to their end, and what users hold under names.

Calls are futures: they make progress only when they are polled. Jobs are continuations and
threads; a continuation waits for its outcome as a task and then runs on the worker pool. A call on
its way and a visit that waits each hold a handle on the connection, unless all they need is a
probe; a job holds one if it was given one.
-/

namespace DebugLink

namespace Session

/-- Things that are kept under names, of which each is used once. -/
abbrev Names (α : Type) := List (String × α)

namespace Names

variable {α : Type} (names : Names α)

def erase (name : String) : Names α :=
  names.filter (·.1 != name)

def put (name : String) (value : α) : Names α :=
  erase names name ++ [(name, value)]

def get? (name : String) : Option α :=
  names.lookup name

end Names

/-- How far a call has come. -/
inductive CallStage
  | awaiting (call : Call) (receipt : Receipt)
  | probing (probe : ProbeId)
  /-- A value is being computed, and then will be offered. -/
  | computing (key : String) (kind : ValueKind) (stamp : Stamp)
      (offer : Option (Except Failure Offer))
  | finished (answer : Answer)

/-- A call that has not been reported. -/
structure RunningCall where
  serial : Nat
  name : String
  stage : CallStage

/-- Whether a call holds a handle on the connection. -/
def CallStage.holdsHandle : CallStage → Bool
  | awaiting .. | computing .. => true
  | probing _ | finished _ => false

/-- How far a job has come. -/
inductive JobStage
  /-- A thread blocks on a reply. -/
  | waiting (receipt : Receipt)
  /-- A thread is about to issue a command. -/
  | starting (command : Command) (data : Bytes)
  /-- A thread blocks on the command that it has issued. -/
  | blocked (receipt : Receipt)
  /-- A task awaits the outcome that its continuation is for. -/
  | awaiting (receipt : Receipt) (continuation : Continuation)
  /-- A continuation waits for a worker. -/
  | queued (outcome : Except Failure Bytes) (continuation : Continuation)
  /-- A continuation blocks on a command of its own. -/
  | nested (outcome : Except Failure Bytes) (receipt : Receipt)
  | finished (answer : Answer)

/-- A continuation or a thread. -/
structure Job where
  serial : Nat
  stage : JobStage
  /-- Whether it holds a handle on the connection until it has come to its end. -/
  holdsHandle : Bool

/-- How many messages a task takes in one turn at most. -/
def turnLimit : Nat := 128

/-- After how many turns the tasks that rest go on at the latest. -/
def roundLength : Nat := 61

/-- Something that is run whenever it can go on. -/
inductive Task
  | writer
  | dispatcher
  | flowLoop
  | continuation (job : Nat)
  /-- Waits for the end of a continuation. -/
  | attendant (job : Nat)
  deriving DecidableEq, Repr

end Session

open Session in
/-- A connection with everybody around it. -/
structure Session where
  engine : Engine
  inlet : Inlet
  outlet : Outlet := {}
  /-- The tasks to be run, in the order in which they were woken or added. -/
  tasks : List Task := [.writer, .dispatcher, .flowLoop]
  /-- Tasks that have used up their turn, last first. They rest until no other task can go on or the
  round is over. -/
  resting : List Task := []
  /-- How many messages the first of the tasks may still take in its turn. -/
  allowance : Nat := turnLimit
  /-- How many turns there have been in this round. -/
  turns : Nat := 0
  pool : JobPool Nat
  calls : List RunningCall := []
  jobs : List Job := []
  /-- The next serial number of a call or a job. -/
  next : Nat := 0
  /-- What was answered to visits in this step. -/
  visits : List Answer := []
  handles : List String := ["main"]
  replies : Names Receipt := []
  /-- Who can offer a value to which call. -/
  suppliers : Names Nat := []
  leases : Names LeaseId := []
  subscriptions : Names SubscriptionId := []
  joins : Names Nat := []

namespace Session

variable (session : Session)

/-- A session that begins. -/
def ofConfig (config : Config) (streaming : Bool) : Session where
  engine := { connection := .ofConfig config }
  inlet := if streaming then .stream config.maxPacketSize .start [] [] else .packets []
  outlet := { streaming }
  pool := { size := config.workers }

/-- The connection. -/
def connection : Connection :=
  session.engine.connection

/-- The session with its connection changed. -/
def withConnection (connection : Connection) : Session :=
  { session with engine := { session.engine with connection } }

/-- Whether the dispatcher still reads. -/
def reading : Bool :=
  session.engine.dispatcher = .reading

/-! ## Tasks -/

/-- The stage of the job with a serial number. -/
def jobStage? (serial : Nat) : Option JobStage :=
  (session.jobs.find? (·.serial == serial)).map Job.stage

/-- The stage of the call with a serial number. -/
def callStage? (serial : Nat) : Option CallStage :=
  (session.calls.find? (·.serial == serial)).map RunningCall.stage

/-- Whether a task can go on. -/
def ready : Task → Bool
  | .writer =>
    !session.engine.writerWork.isEmpty || match session.engine.writer with
      | .receiving => !session.connection.outbound.isEmpty
      | .writing .. => !session.outlet.stalled
      | .closing | .draining => true
      | .exited => false
  | .dispatcher =>
    !session.engine.dispatcherWork.isEmpty || match session.engine.dispatcher with
      | .reading => session.connection.closed || session.inlet.ready
      | .stopped => session.inlet != .gone
  | .flowLoop =>
    !session.engine.flowWork.isEmpty || match session.engine.flowLoop with
      | .waiting => session.connection.closed || session.connection.feed.flow.woken
      | .stopped => false
      | _ => true
  | .continuation serial =>
    match session.jobStage? serial with
    | some (.awaiting receipt _) => (receipt.poll .task session.connection).isSome
    | _ => false
  | .attendant _ => false

/-- Every task there is. Those that a reply wakes come before those that are woken when the
connection is closed, and the writer, which is told last, comes last. -/
def allTasks : List Task :=
  session.jobs.map (fun job => .continuation job.serial) ++ [.dispatcher, .flowLoop, .writer]

/-- Puts the tasks that can go on behind those that wait already. One that rests is not woken. -/
def wake : Session :=
  let waiting := session.tasks ++ session.resting
  { session with
    tasks := session.tasks ++
      session.allTasks.filter fun task => session.ready task && !waiting.contains task }

/-! ## What users hold -/

/-- Performs work on the connection to its end and wakes whom it concerns. -/
def perform (works : List Work) : Session :=
  (session.withConnection (session.connection.run works)).wake

/-- Performs what an operation on the connection has left behind. -/
def performAfter (result : List Work × Connection) : Session :=
  (session.withConnection result.2).perform result.1

/-- Issues a command and performs what that leaves behind. -/
def issue (command : Command) (data : Bytes) : Except Failure Receipt × Session :=
  let (issued, works, connection) := session.connection.issue command data
  (issued, session.performAfter (works, connection))

/-- Issues the command of a call. -/
def begin (call : Call) : Except Failure Receipt × Session :=
  let (issued, works, connection) := session.connection.begin call
  (issued, session.performAfter (works, connection))

/-- A handle on the connection is dropped. -/
def releaseHandle : Session :=
  session.performAfter session.connection.release

/-- A handle on the connection is cloned. -/
def retainHandle : Session :=
  session.withConnection session.connection.retain

/-- Changes the stage of a job. -/
def setJob (serial : Nat) (stage : JobStage) : Session :=
  { session with
    jobs := session.jobs.map fun job =>
      if job.serial = serial then { job with stage } else job }

/-- Adds a job under a name and gives it a handle on the connection if it is to hold one. -/
def addJob (name : String) (stage : JobStage) (holdsHandle : Bool) : Session :=
  let session := if holdsHandle then session.retainHandle else session
  { session with
    jobs := session.jobs ++ [{ serial := session.next, stage, holdsHandle }]
    joins := Names.put session.joins name session.next
    next := session.next + 1 }

/-- Adds a continuation for a reply, with its attendant. Like every new task they are run once,
whether or not the outcome is there, and therefore wait behind those that were woken before. -/
def addContinuation (name : String) (receipt : Receipt) (continuation : Continuation)
    (holdsHandle : Bool) : Session :=
  let added := session.addJob name (.awaiting receipt continuation) holdsHandle
  { added with
    tasks := added.tasks ++ [.continuation session.next, .attendant session.next] }

/-- Changes the stage of a call. -/
def setCall (serial : Nat) (stage : CallStage) : Session :=
  { session with
    calls := session.calls.map fun call =>
      if call.serial = serial then { call with stage } else call }

/-- Drops the calls of a name, which are at most one, with the handle that it holds. -/
def dropCallsNamed (name : String) : Session :=
  let (dropped, kept) := session.calls.partition (·.name == name)
  dropped.foldl
    (fun session call => if call.stage.holdsHandle then session.releaseHandle else session)
    { session with calls := kept }

/-- Adds a call under a name, in place of the one that has it. -/
def addCall (name : String) (stage : CallStage) : Session :=
  let session := session.dropCallsNamed name
  { session with
    calls := session.calls ++ [{ serial := session.next, name, stage }]
    next := session.next + 1 }

end Session

end DebugLink
