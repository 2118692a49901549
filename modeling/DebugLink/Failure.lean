import DebugLink.RemoteFault

/-!
# Failure: why a request or a connection did not work

Every operation that can go wrong goes wrong with a `Failure`. Each constructor keeps its cause as
data; `Failure.message` has all the wording, and `Failure.meansGone` singles out the failures
that mean the debuggee is gone.
-/

namespace DebugLink

/-- What went wrong with a byte stream. -/
inductive StreamFault
  /-- The stream ended inside something that was being read. -/
  | earlyEnd
  /-- The sink takes no more bytes. -/
  | sinkFull
  /-- Any other fault, in words. -/
  | other (text : String)
  deriving DecidableEq, Repr

/-- The wording of a fault. -/
def StreamFault.message : StreamFault → String
  | .earlyEnd => "early eof"
  | .sinkFull => "write zero"
  | .other text => text

/-- A use of the connection that can never work. -/
inductive Misuse
  /-- Waiting on the dispatcher for a reply that only the dispatcher can deliver. -/
  | waitOnDispatcher (id : UInt32)
  /-- Blocking a task instead of suspending it. -/
  | blockTask (id : UInt32)
  /-- Any other misuse, in words. -/
  | other (text : String)
  deriving DecidableEq, Repr

/-- The wording of a misuse. -/
def Misuse.message : Misuse → String
  | .waitOnDispatcher id =>
    s!"Waiting for reply id={id} on the dispatcher task would deadlock"
  | .blockTask id => s!"Blocking wait for reply id={id} on an async task; use .await"
  | .other text => text

/-- A setting, or a pair of settings, that no connection can run with. -/
inductive ConfigFault
  | noDisposeThreshold
  | watermarksCrossed (low high : Nat)
  | noWorkers
  | packetSizeBelowHeader (limit : Nat)
  /-- Any other fault, in words. -/
  | other (text : String)
  deriving DecidableEq, Repr

/-- The wording of a fault. -/
def ConfigFault.message : ConfigFault → String
  | .noDisposeThreshold => "dispose_threshold must be at least 1"
  | .watermarksCrossed low high =>
    s!"event_queue_low_watermark ({low}) must be below event_queue_high_watermark ({high})"
  | .noWorkers => "worker_threads must be at least 1"
  | .packetSizeBelowHeader limit => s!"max_packet_size ({limit}) is smaller than a packet header"
  | .other text => text

/-- Why a request or a connection did not work. -/
inductive Failure
  | stream (fault : StreamFault)
  | wireFormat (fault : WireFault)
  /-- The debuggee answered with an error code. -/
  | remote (fault : RemoteFault)
  /-- The connection is gone. -/
  | disconnected
  | misuse (cause : Misuse)
  | invalidHandshake
  | invalidConfig (fault : ConfigFault)
  deriving DecidableEq, Repr

namespace Failure

/-- The wording of a failure. -/
def message : Failure → String
  | stream fault => "IO error: " ++ fault.message
  | wireFormat fault => "Wire format error: " ++ fault.message
  | remote fault => fault.message
  | disconnected => "VM disconnected"
  | misuse cause => "Programmer error: " ++ cause.message
  | invalidHandshake => "Invalid handshake"
  | invalidConfig fault => "Invalid configuration: " ++ fault.message

/-- Whether the failure means that the debuggee is gone. A debuggee that answers that it is dead
counts. -/
def meansGone : Failure → Bool
  | disconnected => true
  | remote fault => fault.kind == .vmDead
  | _ => false

end Failure

end DebugLink
