import DebugLink.Call
import DebugLink.Config

/-!
# Document: settings, widths and events as JSON values

`Document` is the value of a JSON text. The functions here write the library's own types as
documents; `Document.Draft` reads texts and `Document.Decode` turns what it read into those types
again. Field names are those of the textual formats.
-/

namespace DebugLink

/-- The value of a JSON text. Numbers are integers. -/
inductive Document
  | null
  | bool (b : Bool)
  | integer (n : Int)
  | text (s : String)
  | list (items : List Document)
  | object (fields : List (String × Document))
  deriving Repr

namespace Document

/-- A number that is never negative. -/
def natural (n : Nat) : Document := .integer n

def ofIdSize (size : IdSize) : Document := natural size.bytes

def ofIdSizes (sizes : IdSizes) : Document := .object [
  ("field", ofIdSize sizes.field),
  ("method", ofIdSize sizes.method),
  ("object", ofIdSize sizes.object),
  ("reference_type", ofIdSize sizes.referenceType),
  ("frame", ofIdSize sizes.frame)]

def ofConfig (config : Config) : Document := .object [
  ("dispose_threshold", natural config.disposeThreshold),
  ("event_queue_high_watermark", natural config.highWatermark),
  ("event_queue_low_watermark", natural config.lowWatermark),
  ("worker_threads", natural config.workers),
  ("max_packet_size", natural config.maxPacketSize),
  ("id_sizes", ofIdSizes config.idSizes)]

def ofLocation (location : Location) : Document := .object [
  ("type_tag", natural location.typeTag.toNat),
  ("class_id", natural location.classId.toNat),
  ("method_id", natural location.methodId.toNat),
  ("index", natural location.index.toNat)]

/-- The fields of an event, behind a field that names its variant. -/
def ofEventDetails (details : EventDetails) : Document :=
  let variant (name : String) (fields : List (String × Document)) : Document :=
    .object (("type", .text name) :: fields)
  let id (n : UInt64) : Document := natural n.toNat
  match details with
  | .vmStart thread => variant "VMStart" [("thread", id thread)]
  | .vmDeath => variant "VMDeath" []
  | .threadStart thread => variant "ThreadStart" [("thread", id thread)]
  | .threadDeath thread => variant "ThreadDeath" [("thread", id thread)]
  | .classPrepare thread refType signature status => variant "ClassPrepare" [
      ("thread", id thread), ("ref_type", id refType), ("signature", .text signature),
      ("status", .integer status.toInt)]
  | .breakpoint thread location =>
    variant "Breakpoint" [("thread", id thread), ("location", ofLocation location)]
  | .step thread location =>
    variant "Step" [("thread", id thread), ("location", ofLocation location)]
  | .exception thread location exception catchLocation => variant "Exception" [
      ("thread", id thread), ("location", ofLocation location), ("exception", id exception),
      ("catch_location", catchLocation.elim .null ofLocation)]
  | .methodEntry thread location =>
    variant "MethodEntry" [("thread", id thread), ("location", ofLocation location)]
  | .methodExit thread location =>
    variant "MethodExit" [("thread", id thread), ("location", ofLocation location)]
  | .unknown kind => variant "Unknown" [("kind", natural kind.toNat)]

def ofEvent (event : Event) : Document := .object [
  ("kind", natural event.kind.toNat),
  ("request_id", .integer event.requestId.toInt),
  ("details", ofEventDetails event.details)]

def ofEventSet (set : EventSet) : Document := .object [
  ("suspend_policy", natural set.suspendPolicy.toNat),
  ("events", .list (set.events.map ofEvent))]

def ofVmVersion (version : VmVersion) : Document := .object [
  ("description", .text version.description),
  ("jdwp_major", .integer version.protocolMajor.toInt),
  ("jdwp_minor", .integer version.protocolMinor.toInt),
  ("vm_version", .text version.vmVersion),
  ("vm_name", .text version.vmName)]

end Document

end DebugLink
