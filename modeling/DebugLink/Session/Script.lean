import DebugLink.Connection.Caller

/-!
# Session.Script: what a scripted session does and what it answers

A script plays everybody around a connection at once: the debuggee, the transport, and the users of
the connection with whatever they hold. It is a list of `Step`s, each with one `Action`, and every
step has an `Answer`. What users hold is kept under names.
-/

namespace DebugLink.Session

/-- What a script has to offer for a value to be cached: which of the two is taken depends on the
kind of value that is wanted. -/
structure Offer where
  number : UInt64 := 0
  text : String := ""
  deriving DecidableEq, Repr

/-- What a continuation does with the outcome of its request. -/
inductive Continuation
  | hand
  | crash (message : String)
  /-- Issues another command, blocks on it, and hands on both outcomes. -/
  | nest (command : Command) (data : Bytes)
  deriving DecidableEq, Repr

/-- User code that the transport runs on the dispatcher before it goes on reading. -/
inductive Visit
  | await (call : Call)
  | block (command : Command) (data : Bytes)
  /-- Issues a command and attaches a continuation, which is kept under a name. -/
  | attach (name : String) (command : Command) (data : Bytes)
  deriving DecidableEq, Repr

/-- What a step does. -/
inductive Action
  -- The debuggee
  | deliver (bytes : Bytes)
  | hangUp
  | failRead (failure : Failure)
  | visit (visit : Visit)
  -- The transport
  | failWrite (failure : Failure)
  | failClose (failure : Failure)
  | stall (on : Bool)
  | settle
  -- Commands
  | issue (name : String) (command : Command) (data : Bytes)
  | await (name : String)
  | wait (name : String)
  | dropReply (name : String)
  /-- A thread blocks on a reply. -/
  | waitOnThread (name : String)
  | attach (name : String) (continuation : Continuation)
  /-- A command is issued and blocked on, here or on a thread. -/
  | blockHere (command : Command) (data : Bytes)
  | blockOnThread (name : String) (command : Command) (data : Bytes)
  | join (name : String)
  | call (name : String) (call : Call)
  | measure (name : String)
  | dropCall (name : String)
  -- Cached values
  | cache (key : String) (kind : ValueKind) (offer : Except Failure Offer)
  | beginCache (name key : String) (kind : ValueKind)
  | endCache (name : String) (offer : Except Failure Offer)
  | noteSuspended
  | invalidate
  -- Leases
  | acquire (object : ObjectId) (name : Option String)
  | cloneLease (name copy : String)
  | dropLease (name : String)
  | showLease (name : String)
  | sameLease (a b : String)
  | flush
  | setIdSizes (sizes : Except WireFault IdSizes)
  | idSizes
  -- Events
  | subscribe (name : String)
  | receive (name : String)
  | tryReceive (name : String)
  | depth (name : String)
  | dropSubscription (name : String)
  | hold
  | release
  -- Handles on the connection
  | cloneHandle (name : String)
  | dropHandle (name : String)
  | close
  | describe
  /-- Nothing that is known. -/
  | unknown

/-- One step of a script. -/
structure Step where
  action : Action
  /-- Nothing runs after the action. -/
  rush : Bool := false
  /-- Threads run too, until so many packets are written. -/
  untilWrites : Option Nat := none

/-- A cached value as its user sees it. -/
inductive ShownValue
  | number (n : UInt64)
  | text (s : String)
  | lease (object : ObjectId) (retained : UInt32)
  deriving DecidableEq, Repr

/-- A received batch, decoded at the widths in force. -/
structure ReceivedBatch where
  batch : EventBatch
  events : Except WireFault EventSet
  /-- How many batches are left. -/
  depth : Nat

/-- What a step answers. -/
inductive Answer
  | ok
  | flag (b : Bool)
  | failure (failure : Failure)
  | payload (data : Bytes)
  | issued (id : UInt32)
  /-- There is no outcome yet. -/
  | pending
  /-- There is none and there will be none. -/
  | nothing
  | result (result : CallResult)
  | measured
  | value (value : Except Failure ShownValue) (computed : Bool)
  | computing
  | lease (object : ObjectId) (retained : UInt32)
  /-- The null object has no lease. -/
  | noLease
  | leaseDetails (object : ObjectId) (retained : UInt32)
  | idSizes (sizes : IdSizes)
  | depth (depth : Nat)
  | received (batch : ReceivedBatch)
  | disconnected
  | text (s : String)
  | crashed (message : String)
  | both (outcome nested : Except Failure Bytes)
  | noSuchName
  | noConnection
  | unknownAction

namespace Answer

/-- The answer for the outcome of a request. -/
def ofOutcome : Except Failure Bytes → Answer
  | .ok data => payload data
  | .error fault => failure fault

/-- The answer for the result of a call. -/
def ofResult : Except Failure CallResult → Answer
  | .ok found => result found
  | .error fault => failure fault

/-- The answer for a command that was issued, or was not. -/
def ofIssued : Except Failure Receipt → Answer
  | .ok receipt => issued receipt.id
  | .error fault => failure fault

end Answer

/-- What can be seen of a connection after a step. -/
structure Snapshot where
  connected : Bool
  suspended : Bool
  epoch : Nat
  pending : Nat
  sent : Nat
  idle : Bool
  objects : Nat
  disposals : Nat
  pendingResumes : Nat
  cached : Nat
  subscribers : Nat
  deriving DecidableEq, Repr

/-- A call that has come to its end. -/
structure FinishedCall where
  /-- Calls that were started later have larger numbers. -/
  serial : Nat
  name : String
  answer : Answer

/-- What is answered to a step. -/
structure Report where
  answer : Answer
  /-- The calls that have finished, in the order in which they were started. -/
  done : List FinishedCall
  notices : List Notice
  /-- What was answered to visits. -/
  visits : List Answer
  /-- The packets that were written. -/
  wire : List Bytes
  /-- Only users with a handle see the connection. -/
  snapshot : Option Snapshot
  held : Bool
  net : Int32
  writes : Nat
  closes : Nat

end DebugLink.Session
