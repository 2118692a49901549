import DebugLink.Packet

/-!
# Event: composite event packets

The debuggee reports what happens to it in command packets whose payload is a suspend policy, a
count and that many events. The connection passes such a payload on as an `EventBatch`, looking at
nothing but the policy; `EventBatch.parse` decodes it where it is received.

An event's size follows from its kind, so nothing behind an event of an unknown kind can be read:
such an event is reported as `unknown` and ends the set.
-/

namespace DebugLink

/-- What happened, with the ids it happened to. -/
inductive EventDetails
  | vmStart (thread : ObjectId)
  | vmDeath
  | threadStart (thread : ObjectId)
  | threadDeath (thread : ObjectId)
  | classPrepare (thread : ObjectId) (refType : ReferenceTypeId) (signature : String)
      (status : Int32)
  | breakpoint (thread : ObjectId) (location : Location)
  | step (thread : ObjectId) (location : Location)
  /-- An exception with the location that will catch it, if any. -/
  | exception (thread : ObjectId) (location : Location) (exception : ObjectId)
      (catchLocation : Option Location)
  | methodEntry (thread : ObjectId) (location : Location)
  | methodExit (thread : ObjectId) (location : Location)
  | unknown (kind : UInt8)
  deriving DecidableEq, Repr

/-- One event: its kind's number, the request it answers, and what happened. -/
structure Event where
  kind : UInt8
  requestId : Int32
  details : EventDetails
  deriving DecidableEq, Repr

/-- The events of one packet, which all happened at once. -/
structure EventSet where
  suspendPolicy : UInt8
  events : List Event
  deriving DecidableEq, Repr

/-- The unknown kind that ended the set, if one did. -/
def EventSet.unknownKind? (set : EventSet) : Option UInt8 :=
  match set.events.getLast? with
  | some ⟨_, _, .unknown kind⟩ => some kind
  | _ => none

namespace Reader

def location (sizes : IdSizes) : Reader Location := do
  let typeTag ← uint8
  let classId ← id sizes.referenceType
  let methodId ← id sizes.method
  let index ← uint64
  return ⟨typeTag, classId, methodId, index⟩

/-- A thread and a location in it. -/
def threadAndLocation (sizes : IdSizes) (build : ObjectId → Location → EventDetails) :
    Reader EventDetails := do
  let thread ← id sizes.object
  let location ← location sizes
  return build thread location

def exceptionDetails (sizes : IdSizes) : Reader EventDetails := do
  let thread ← id sizes.object
  let thrownAt ← location sizes
  let _tag ← uint8
  let exception ← id sizes.object
  let caughtAt ← location sizes
  return .exception thread thrownAt exception (if caughtAt.classId = 0 then none else some caughtAt)

def classPrepareDetails (sizes : IdSizes) : Reader EventDetails := do
  let thread ← id sizes.object
  let _tag ← uint8
  let refType ← id sizes.referenceType
  let signature ← text
  let status ← int32
  return .classPrepare thread refType signature status

/-- The fields of an event by its kind. Of an unknown kind none can be read. -/
def eventDetails (sizes : IdSizes) (kind : UInt8) : Reader EventDetails :=
  match kind.toNat with
  | 1 => threadAndLocation sizes .step
  | 2 => threadAndLocation sizes .breakpoint
  | 4 => exceptionDetails sizes
  | 6 => .threadStart <$> id sizes.object
  | 7 => .threadDeath <$> id sizes.object
  | 8 => classPrepareDetails sizes
  | 40 => threadAndLocation sizes .methodEntry
  | 41 => threadAndLocation sizes .methodExit
  | 90 => .vmStart <$> id sizes.object
  | 99 => return .vmDeath
  | _ => return .unknown kind

def event (sizes : IdSizes) : Reader Event := do
  let kind ← uint8
  let requestId ← int32
  let details ← eventDetails sizes kind
  return ⟨kind, requestId, details⟩

/-- The next `count` events, or those up to the first of an unknown kind. -/
def events (sizes : IdSizes) : (count : Nat) → Reader (List Event)
  | 0 => return []
  | count + 1 => do
    let event ← event sizes
    match event.details with
    | .unknown _ => return [event]
    | _ => return event :: (← events sizes count)

/-- The payload of a composite event packet. -/
def eventSet (sizes : IdSizes) : Reader EventSet := do
  let suspendPolicy ← uint8
  let count ← int32
  if count < 0 then throw (.negativeEventCount count.toInt)
  let events ← events sizes count.toInt.toNat
  return ⟨suspendPolicy, events⟩

end Reader

/-- The events that a payload reports. -/
def EventSet.parse (data : Bytes) (sizes : IdSizes) : Except WireFault EventSet :=
  (Reader.eventSet sizes).parse data

/-- The payload of one composite event packet, which has at least a suspend policy. -/
structure EventBatch where
  id : UInt32
  suspendPolicy : UInt8
  rest : Bytes
  deriving DecidableEq, Repr

namespace EventBatch

/-- The batch in an event packet. -/
def ofPacket (packet : CommandPacket) : Except WireFault EventBatch :=
  match packet.data with
  | [] => .error (.emptyEventPacket packet.id)
  | policy :: rest => .ok ⟨packet.id, policy, rest⟩

/-- The whole payload. -/
def data (batch : EventBatch) : Bytes :=
  batch.suspendPolicy :: batch.rest

/-- The batch's events, read at the identifier widths in force. -/
def parse (batch : EventBatch) (sizes : IdSizes) : Except WireFault EventSet :=
  EventSet.parse batch.data sizes

end EventBatch

end DebugLink
