import DebugLink.Failure
import DebugLink.Packet.Dump

/-!
# Notice: what a connection reports about itself

Whatever happens to a connection that no caller is told about is reported by a `Notice`: packets
as they pass, transitions of the suspend scope, and inbound packets that cannot be used. Each
constructor keeps its cause; `Notice.lines` has the wording.
-/

namespace DebugLink

/-- How much a notice matters. -/
inductive Severity
  | trace | warning | error
  deriving DecidableEq, Repr

/-- Something that happened to a connection. -/
inductive Notice
  | frameSent (frame : Bytes)
  | frameReceived (frame : Bytes)
  /-- A suspension was not believed. -/
  | suspendIgnored (inFlight : Nat)
  | scopeActive (epoch : Nat)
  | scopeInvalidated (epoch : Nat)
  /-- A computed value came too late to be stored. -/
  | valueDiscarded (key : String) (computedIn now : Nat)
  | flowCommand (net : Int32) (command : UInt8)
  | unknownReply (id : UInt32)
  | undecodable (fault : WireFault)
  | refusedEvents (fault : WireFault)
  /-- The debuggee sent a command that is not an event packet. -/
  | ignoredCommand (id : UInt32) (set command : UInt8)
  | unsupportedEvent (kind : UInt8)
  | readFailed (failure : Failure)
  | writeFailed (id : UInt32) (failure : Failure)
  deriving DecidableEq, Repr

namespace Notice

/-- How much a notice matters. -/
def severity : Notice → Severity
  | frameSent _ | frameReceived _ | suspendIgnored _ | scopeActive _ | scopeInvalidated _
  | valueDiscarded .. | flowCommand .. => .trace
  | unknownReply _ | undecodable _ | refusedEvents _ | ignoredCommand .. | unsupportedEvent _ =>
    .warning
  | readFailed _ | writeFailed .. => .error

/-- The wording of a notice, one line unless it shows a packet. -/
def lines : Notice → List String
  | frameSent frame => (dump frame).map (">> " ++ ·)
  | frameReceived frame => (dump frame).map ("<< " ++ ·)
  | suspendIgnored inFlight => [s!"Suspend ignored, {inFlight} resume command(s) in flight"]
  | scopeActive epoch => [s!"Suspend scope active, epoch={epoch}"]
  | scopeInvalidated epoch => [s!"Suspend scope invalidated, epoch={epoch}"]
  | valueDiscarded key computedIn now =>
    [s!"Discarding cache value for {key} computed in epoch {computedIn} (now {now})"]
  | flowCommand net command => [s!"Flow control net={net.toInt}, sending command {command}"]
  | unknownReply id => [s!"Received reply for unknown command id={id}"]
  | undecodable fault => ["Failed to decode packet: " ++ Failure.message (.wireFormat fault)]
  | refusedEvents fault =>
    ["Failed to accept event packet: " ++ Failure.message (.wireFormat fault)]
  | ignoredCommand id set command =>
    [s!"Ignoring command id={id} set={set} cmd={command} from debuggee"]
  | unsupportedEvent kind => [s!"Unsupported event kind: {kind}"]
  | readFailed failure => ["Failed to read packet: " ++ failure.message]
  | writeFailed id failure => [s!"Failed to write command id={id}: {failure.message}"]

end Notice

end DebugLink
