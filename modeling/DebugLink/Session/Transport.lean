import DebugLink.Engine
import DebugLink.Session.Script
import DebugLink.Stream.Source

/-!
# Session.Transport: the two ends of a scripted transport

The `Inlet` is what the debuggee has sent and the dispatcher has not read: whole packets, or a byte
stream that packets are cut out of. The `Outlet` records what is written, and can be made to wait
or to fail.
-/

namespace DebugLink

/-- A failure as a byte stream reports it. -/
def Failure.onStream : Failure → StreamFault
  | stream fault => fault
  | other => .other other.message

/-- What is received when an attempt to read a stream has come to an end. -/
def FrameReader.Outcome.reception? : FrameReader.Outcome → Option Reception
  | frame bytes => some (.frame bytes)
  | finished => some .finished
  | failed failure => some (.failed failure)
  | starved => none

namespace Session

/-- Something that waits to be read. -/
inductive Arrival
  | reception (reception : Reception)
  | visit (visit : Visit)
  deriving DecidableEq, Repr

/-- What waits to be read. -/
inductive Inlet
  | packets (queue : List Arrival)
  /-- A stream. The bytes are what is left of the chunk that was taken last. -/
  | stream (limit : Nat) (reader : FrameReader) (bytes : Bytes) (source : Source)
  /-- The reader is gone, and what waited with it. -/
  | gone
  deriving DecidableEq, Repr

namespace Inlet

/-- Adds something to a queue of packets, or a chunk to a stream. -/
def push (arrival : Arrival) (chunk : Option Chunk) : Inlet → Inlet
  | packets queue => packets (queue ++ [arrival])
  | stream limit reader bytes source => stream limit reader bytes (source ++ chunk.toList)
  | gone => gone

/-- The debuggee sends bytes: one packet, or part of a stream. -/
def deliver (bytes : Bytes) : Inlet → Inlet :=
  push (.reception (.frame bytes)) (some (.bytes bytes))

/-- The debuggee closes the transport. -/
def finish : Inlet → Inlet :=
  push (.reception .finished) (some .finish)

/-- Reading fails once. -/
def fail (failure : Failure) : Inlet → Inlet :=
  push (.reception (.failed failure)) (some (.fault failure.onStream))

/-- Whether user code can be run in between. A stream runs none. -/
def runsVisits : Inlet → Bool
  | packets _ => true
  | _ => false

/-- User code waits to be run. -/
def visit (visit : Visit) : Inlet → Inlet :=
  push (.visit visit) none

/-- Whether there is anything to look at. -/
def ready : Inlet → Bool
  | packets queue => !queue.isEmpty
  | stream _ _ bytes source => !bytes.isEmpty || !source.isEmpty
  | gone => false

/-- How many visits wait. -/
def visits : Inlet → Nat
  | packets queue => queue.countP fun
    | .visit _ => true
    | _ => false
  | _ => 0

/-- How many arrivals there may be at most. -/
def size : Inlet → Nat
  | packets queue => queue.length
  | stream _ _ bytes source => bytes.length + source.length + source.remaining.length
  | gone => 0

end Inlet

/-- The end that is written to. -/
structure Outlet where
  /-- Whether it is a byte stream. -/
  streaming : Bool := false
  /-- Whether writes wait. -/
  stalled : Bool := false
  /-- What the next write fails with. -/
  writeFailure : Option Failure := none
  /-- What the next close fails with. Nobody is told. -/
  closeFailure : Option Failure := none
  /-- The packets that were written in this step. -/
  wire : List Bytes := []
  writes : Nat := 0
  closes : Nat := 0
  deriving DecidableEq, Repr

namespace Outlet

variable (outlet : Outlet)

/-- The next write fails. A stream reports the failure in its own way. -/
def failWrite (failure : Failure) : Outlet :=
  { outlet with
    writeFailure := some (if outlet.streaming then .stream failure.onStream else failure) }

/-- Writes a packet. -/
def write (frame : Bytes) : Except Failure Unit × Outlet :=
  match outlet.writeFailure with
  | some failure => (.error failure, { outlet with writeFailure := none })
  | none =>
    (.ok (), { outlet with wire := outlet.wire ++ [frame], writes := outlet.writes + 1 })

/-- Closes the transport. -/
def close : Outlet :=
  { outlet with closeFailure := none, closes := outlet.closes + 1 }

end Outlet

end Session

end DebugLink
