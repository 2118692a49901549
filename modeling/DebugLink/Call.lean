import DebugLink.Connection.Work

/-!
# Call: commands with an answer of their own

A call is a command together with what its reply means to the caller. `Call.command` and
`Call.payload` say what is sent, and `Call.finish` turns the outcome of the request into the
caller's result and does to the connection what the call is for: a debuggee that was suspended is
noted to be, agreed widths come into force, and a connection that was given up is closed.
-/

namespace DebugLink

/-- What is reported when the debuggee is asked for its version. -/
structure VmVersion where
  description : String
  protocolMajor : Int32
  protocolMinor : Int32
  vmVersion : String
  vmName : String
  deriving DecidableEq, Repr

namespace Reader

def vmVersion : Reader VmVersion := do
  let description ← text
  let protocolMajor ← int32
  let protocolMinor ← int32
  let vmVersion ← text
  let vmName ← text
  return { description, protocolMajor, protocolMinor, vmVersion, vmName }

/-- A width, which is written as a number of bytes. -/
def idSize : Reader IdSize := do
  let width ← int32
  match IdSize.ofWidth width.toInt with
  | .ok size => return size
  | .error fault => throw fault

def idSizes : Reader IdSizes := do
  let field ← idSize
  let method ← idSize
  let object ← idSize
  let referenceType ← idSize
  let frame ← idSize
  return { field, method, object, referenceType, frame }

end Reader

/-- A command with what its reply means. -/
inductive Call
  | version
  /-- Ask for the widths of ids, and use them from then on. -/
  | idSizes
  | suspendAll
  /-- Resume every thread. A debuggee that is gone counts as resumed. -/
  | resumeAll
  | suspendThread (thread : ObjectId)
  | resumeThread (thread : ObjectId)
  /-- Detach from the debuggee and close the connection. -/
  | dispose
  /-- End the debuggee and close the connection. -/
  | exit (code : Int32)
  /-- Any command, with the payload of its reply. -/
  | send (command : Command) (data : Bytes)
  deriving DecidableEq, Repr

/-- What a call answers. -/
inductive CallResult
  | done
  | version (version : VmVersion)
  | idSizes (sizes : IdSizes)
  | payload (data : Bytes)
  deriving DecidableEq, Repr

namespace Call

/-- The command of a call. -/
def command : Call → Command
  | version => .version
  | idSizes => .idSizes
  | suspendAll => .suspend
  | resumeAll => .resume
  | suspendThread _ => .suspendThread
  | resumeThread _ => .resumeThread
  | dispose => .dispose
  | exit _ => .exit
  | send command _ => command

/-- What is sent along with the command, at the widths in force. -/
def payload (sizes : IdSizes) : Call → Bytes
  | suspendThread thread | resumeThread thread => Payload.putId sizes.object thread
  | exit code => Payload.putInt32 code
  | send _ data => data
  | _ => []

/-- A result of which a debuggee that is gone is no failure. -/
def unlessGone (outcome : Except Failure Bytes) : Except Failure CallResult :=
  match outcome with
  | .ok _ => .ok .done
  | .error failure => if failure.meansGone then .ok .done else .error failure

/-- What a reader finds in a payload. -/
def parsed {α : Type} (reader : Reader α) (data : Bytes) : Except Failure α :=
  (reader.parse data).mapError .wireFormat

/-- The caller's result, and what the call does to the connection once its outcome is known. -/
def finish (call : Call) (outcome : Except Failure Bytes) (connection : Connection) :
    Except Failure CallResult × List Work × Connection :=
  match call with
  | version =>
    (outcome.bind fun data => CallResult.version <$> parsed Reader.vmVersion data, [], connection)
  | idSizes =>
    match outcome.bind (parsed Reader.idSizes) with
    | .ok sizes => (.ok (.idSizes sizes), [], { connection with idSizes := sizes })
    | .error failure => (.error failure, [], connection)
  | suspendAll =>
    match outcome with
    | .ok _ => (.ok .done, [.suspended], connection)
    | .error failure => (.error failure, [], connection)
  | resumeAll => (unlessGone outcome, [], connection)
  | suspendThread _ | resumeThread _ => (outcome.map fun _ => .done, [], connection)
  | dispose | exit _ => (unlessGone outcome, [.close], connection)
  | send .. => (outcome.map .payload, [], connection)

end Call

end DebugLink
