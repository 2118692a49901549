import DebugLink.Payload

/-!
# RemoteFault: the debuggee's own errors

A reply with a non-zero error code becomes a `RemoteFault`: the code, the category it falls into,
and for the code `internal` the diagnostic that the reply may carry. Codes are open-ended, so a
category is assigned to every number and the symbolic name of one that is not in the table is
`UNKNOWN_ERROR`.
-/

namespace DebugLink

/-- What a failed command means to the caller. -/
inductive FaultClass
  | objectCollected
  | invalidModule
  | vmDead
  | outOfMemory
  | classNotPrepared
  | invalidStackFrame
  | opaqueFrame
  | unsupported
  | indexOutOfBounds
  | typeMismatch
  | invalidThreadState
  | internal
  deriving DecidableEq, Repr

namespace FaultClass

/-- The category in words. -/
def description : FaultClass → String
  | objectCollected => "object has been collected"
  | invalidModule => "invalid module"
  | vmDead => "VM is dead"
  | outOfMemory => "VM out of memory"
  | classNotPrepared => "class not prepared"
  | invalidStackFrame => "invalid stack frame"
  | opaqueFrame => "opaque frame"
  | unsupported => "operation not implemented"
  | indexOutOfBounds => "index out of bounds"
  | typeMismatch => "inconsistent debug info"
  | invalidThreadState => "illegal thread state"
  | internal => "internal error"

/-- The category of a code; whatever is not listed is an internal error. -/
def ofCode (code : UInt16) : FaultClass :=
  match code.toNat with
  | 10 => invalidThreadState
  | 20 => objectCollected
  | 22 => classNotPrepared
  | 30 | 33 => invalidStackFrame
  | 32 => opaqueFrame
  | 34 => typeMismatch
  | 42 => invalidModule
  | 99 => unsupported
  | 110 => outOfMemory
  | 112 => vmDead
  | 503 | 504 => indexOutOfBounds
  | _ => internal

end FaultClass

namespace ErrorCode

/-- The code whose reply may carry a diagnostic string. -/
def internal : UInt16 := 113

/-- The symbolic names of the codes the protocol defines. -/
def names : List (Nat × String) := [
  (0, "NONE"),
  (10, "INVALID_THREAD"),
  (11, "INVALID_THREAD_GROUP"),
  (12, "INVALID_PRIORITY"),
  (13, "THREAD_NOT_SUSPENDED"),
  (14, "THREAD_SUSPENDED"),
  (15, "THREAD_NOT_ALIVE"),
  (20, "INVALID_OBJECT"),
  (21, "INVALID_CLASS"),
  (22, "CLASS_NOT_PREPARED"),
  (23, "INVALID_METHODID"),
  (24, "INVALID_LOCATION"),
  (25, "INVALID_FIELDID"),
  (30, "INVALID_FRAMEID"),
  (31, "NO_MORE_FRAMES"),
  (32, "OPAQUE_FRAME"),
  (33, "NOT_CURRENT_FRAME"),
  (34, "TYPE_MISMATCH"),
  (35, "INVALID_SLOT"),
  (40, "DUPLICATE"),
  (41, "NOT_FOUND"),
  (42, "INVALID_MODULE"),
  (50, "INVALID_MONITOR"),
  (51, "NOT_MONITOR_OWNER"),
  (52, "INTERRUPT"),
  (60, "INVALID_CLASS_FORMAT"),
  (61, "CIRCULAR_CLASS_DEFINITION"),
  (62, "FAILS_VERIFICATION"),
  (63, "ADD_METHOD_NOT_IMPLEMENTED"),
  (64, "SCHEMA_CHANGE_NOT_IMPLEMENTED"),
  (65, "INVALID_TYPESTATE"),
  (66, "HIERARCHY_CHANGE_NOT_IMPLEMENTED"),
  (67, "DELETE_METHOD_NOT_IMPLEMENTED"),
  (68, "UNSUPPORTED_VERSION"),
  (69, "NAMES_DONT_MATCH"),
  (70, "CLASS_MODIFIERS_CHANGE_NOT_IMPLEMENTED"),
  (71, "METHOD_MODIFIERS_CHANGE_NOT_IMPLEMENTED"),
  (99, "NOT_IMPLEMENTED"),
  (100, "NULL_POINTER"),
  (101, "ABSENT_INFORMATION"),
  (102, "INVALID_EVENT_TYPE"),
  (103, "ILLEGAL_ARGUMENT"),
  (110, "OUT_OF_MEMORY"),
  (111, "ACCESS_DENIED"),
  (112, "VM_DEAD"),
  (113, "INTERNAL"),
  (115, "UNATTACHED_THREAD"),
  (500, "INVALID_TAG"),
  (502, "ALREADY_INVOKING"),
  (503, "INVALID_INDEX"),
  (504, "INVALID_LENGTH"),
  (506, "INVALID_STRING"),
  (507, "INVALID_CLASS_LOADER"),
  (508, "INVALID_ARRAY"),
  (509, "TRANSPORT_LOAD"),
  (510, "TRANSPORT_INIT"),
  (511, "NATIVE_METHOD"),
  (512, "INVALID_COUNT")]

/-- The symbolic name of a code, if the protocol defines one. -/
def name? (code : UInt16) : Option String :=
  names.lookup code.toNat

/-- The symbolic name of a code. -/
def name (code : UInt16) : String :=
  (name? code).getD "UNKNOWN_ERROR"

end ErrorCode

/-- A non-zero error code, categorised. -/
structure RemoteFault where
  code : UInt16
  kind : FaultClass
  /-- What the debuggee said about it. -/
  detail : Option String
  deriving DecidableEq, Repr

namespace RemoteFault

/-- The fault that a reply's error code and payload report. Only `internal` has a detail, and only
if the payload begins with a string. -/
def ofReply (code : UInt16) (data : Bytes) : RemoteFault where
  code := code
  kind := FaultClass.ofCode code
  detail := if code = ErrorCode.internal then (Reader.text.parse data).toOption else none

/-- The wording of a fault. -/
def message (fault : RemoteFault) : String :=
  let base := s!"JDWP error code {fault.code} ({ErrorCode.name fault.code}): "
  let text := base ++ fault.kind.description
  match fault.detail with
  | none => text
  | some detail => text ++ " (remote exception) " ++ detail

end RemoteFault

end DebugLink
