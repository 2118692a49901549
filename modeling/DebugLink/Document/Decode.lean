import DebugLink.Document.Draft

/-!
# Document.Decode: settings, widths and events read from JSON texts

A text is decoded front to back and refused at its first fault. A structure may be written as an
object, where unknown fields are skipped, a repeated field is a fault and a missing one is found
out at the end, or as the list of its fields in order. The details of an event name their variant
in a field `type`, which may stand anywhere among the others: these are gathered first, and only
then read.
-/

namespace DebugLink

/-- Why a text does not decode. -/
inductive DocumentFault
  /-- A syntax error, or a value of the wrong kind. -/
  | malformed
  | missingField (name : String)
  | wireFormat (fault : WireFault)
  deriving DecidableEq, Repr

/-- What a fault says about itself, if anything. -/
def DocumentFault.message? : DocumentFault → Option String
  | malformed => none
  | missingField name => some ("missing field `" ++ name ++ "`")
  | wireFormat fault => some (Failure.message (.wireFormat fault))

/-- A reader of drafts. -/
abbrev Decode (α : Type) := Draft → Except DocumentFault α

namespace Decode

/-! ## Single values -/

/-- An integer within bounds. -/
def integer (low high : Int) : Decode Int
  | .number (.integer n) => if low ≤ n ∧ n ≤ high then .ok n else .error .malformed
  | _ => .error .malformed

/-- An unsigned integer of a type that has so many values. -/
def unsigned (size : Nat) : Decode Nat := fun draft =>
  Int.toNat <$> integer 0 (size - 1) draft

/-- An unsigned integer of 64 bits, which is what sizes and ids are. -/
def word : Decode Nat := unsigned UInt64.size

def uint8 : Decode UInt8 := fun draft => UInt8.ofNat <$> unsigned UInt8.size draft

def uint64 : Decode UInt64 := fun draft => UInt64.ofNat <$> word draft

def int32 : Decode Int32 := fun draft =>
  Int32.ofInt <$> integer Int32.minValue.toInt Int32.maxValue.toInt draft

def text : Decode String
  | .text (some s) => .ok s
  | _ => .error .malformed

/-- A value, or `none` if `null` is written. -/
def optional {α : Type} (decode : Decode α) : Decode (Option α)
  | .null => .ok none
  | draft => some <$> decode draft

/-- Any value, which is not looked at. -/
def skipped : Decode Unit := fun draft =>
  if draft.intact then .ok () else .error .malformed

/-- A list of values of one kind. -/
def list {α : Type} (decode : Decode α) : Decode (List α)
  | .list items closed => do
    let values ← items.mapM decode
    if closed then return values else throw .malformed
  | _ => .error .malformed

/-! ## Structures -/

/-- How a structure is put together: its fields in order, what is known before the first of them,
and how a field's value is taken in. -/
structure Assembly (σ : Type) where
  fields : List String
  blank : σ
  /-- Whether a list may leave out fields at the end. -/
  partialLists : Bool := false
  set : σ → String → Draft → Except DocumentFault σ

namespace Assembly

variable {σ : Type} (assembly : Assembly σ)

/-- Takes in the fields of an object; `seen` are the names that have been met. -/
def setNamed (state : σ) (seen : List String) :
    List (Option String × Draft) → Except DocumentFault σ
  | [] => .ok state
  | (none, _) :: _ => .error .malformed
  | (some name, draft) :: rest => do
    if seen.contains name then throw .malformed
    else if assembly.fields.contains name then
      setNamed (← assembly.set state name draft) (name :: seen) rest
    else
      skipped draft
      setNamed state seen rest

/-- Takes in the items of a list for the fields `names`. -/
def setListed (state : σ) : (names : List String) → List Draft → Except DocumentFault σ
  | [], [] => .ok state
  | [], _ :: _ => .error .malformed
  | _ :: _, [] => if assembly.partialLists then .ok state else .error .malformed
  | name :: names, draft :: rest => do
    setListed (← assembly.set state name draft) names rest

/-- What is known after the whole value. -/
def run (draft : Draft) : Except DocumentFault σ :=
  match draft with
  | .object fields closed => do
    let state ← assembly.setNamed assembly.blank [] fields
    if closed then return state else throw .malformed
  | .list items closed => do
    let state ← assembly.setListed assembly.blank assembly.fields items
    if closed then return state else throw .malformed
  | _ => .error .malformed

end Assembly

/-- The value of a field that has to be there. -/
def required {α : Type} (name : String) : Option α → Except DocumentFault α
  | some value => .ok value
  | none => .error (.missingField name)

/-! ## The library's types -/

def idSize : Decode IdSize := fun draft => do
  let width ← int32 draft
  match IdSize.ofWidth width.toInt with
  | .ok size => return size
  | .error fault => throw (.wireFormat fault)

def idSizes : Decode IdSizes := fun draft => do
  let names := ["field", "method", "object", "reference_type", "frame"]
  let known ← Assembly.run
    { fields := names, blank := []
      set := fun known name draft => return (name, ← idSize draft) :: known } draft
  let size (name : String) : Except DocumentFault IdSize := required name (known.lookup name)
  return {
    field := ← size "field"
    method := ← size "method"
    object := ← size "object"
    referenceType := ← size "reference_type"
    frame := ← size "frame" }

/-- Settings that are not written keep their defaults. -/
def config : Decode Config :=
  Assembly.run {
    fields := ["dispose_threshold", "event_queue_high_watermark", "event_queue_low_watermark",
      "worker_threads", "max_packet_size", "id_sizes"]
    blank := {}
    partialLists := true
    set := fun config name draft => match name with
      | "dispose_threshold" => return { config with disposeThreshold := ← word draft }
      | "event_queue_high_watermark" => return { config with highWatermark := ← word draft }
      | "event_queue_low_watermark" => return { config with lowWatermark := ← word draft }
      | "worker_threads" => return { config with workers := ← word draft }
      | "max_packet_size" => return { config with maxPacketSize := ← word draft }
      | _ => return { config with idSizes := ← idSizes draft } }

def location : Decode Location := fun draft => do
  let known ← Assembly.run
    { fields := ["type_tag", "class_id", "method_id", "index"], blank := []
      set := fun known name draft => do
        let value ← if name = "type_tag" then unsigned UInt8.size draft else word draft
        return (name, value) :: known } draft
  let value (name : String) : Except DocumentFault Nat := required name (known.lookup name)
  return {
    typeTag := UInt8.ofNat (← value "type_tag")
    classId := UInt64.ofNat (← value "class_id")
    methodId := UInt64.ofNat (← value "method_id")
    index := UInt64.ofNat (← value "index") }

def vmVersion : Decode VmVersion := fun draft => do
  let blank : Option String × Option Int32 × Option Int32 × Option String × Option String :=
    (none, none, none, none, none)
  let (description, major, minor, version, name) ← Assembly.run {
      fields := ["description", "jdwp_major", "jdwp_minor", "vm_version", "vm_name"]
      blank := blank
      set := fun (description, major, minor, version, name) field draft => match field with
        | "description" => return (some (← text draft), major, minor, version, name)
        | "jdwp_major" => return (description, some (← int32 draft), minor, version, name)
        | "jdwp_minor" => return (description, major, some (← int32 draft), version, name)
        | "vm_version" => return (description, major, minor, some (← text draft), name)
        | _ => return (description, major, minor, version, some (← text draft)) } draft
  return {
    description := ← required "description" description
    protocolMajor := ← required "jdwp_major" major
    protocolMinor := ← required "jdwp_minor" minor
    vmVersion := ← required "vm_version" version
    vmName := ← required "vm_name" name }

/-! ## Events -/

/-- What is known of the fields that the variants of an event have. -/
structure KnownDetails where
  thread : Option ObjectId := none
  location : Option Location := none
  refType : Option ReferenceTypeId := none
  signature : Option String := none
  status : Option Int32 := none
  exception : Option ObjectId := none
  catchLocation : Option Location := none
  kind : Option UInt8 := none

/-- Takes in one field of a variant. -/
def KnownDetails.set (known : KnownDetails) (name : String) (draft : Draft) :
    Except DocumentFault KnownDetails :=
  match name with
  | "thread" => return { known with thread := some (← uint64 draft) }
  | "location" => return { known with location := some (← Decode.location draft) }
  | "ref_type" => return { known with refType := some (← uint64 draft) }
  | "signature" => return { known with signature := some (← text draft) }
  | "status" => return { known with status := some (← int32 draft) }
  | "exception" => return { known with exception := some (← uint64 draft) }
  | "catch_location" => return { known with catchLocation := ← optional Decode.location draft }
  | _ => return { known with kind := some (← uint8 draft) }

/-- The fields of a variant in order. -/
def variantFields? : (variant : String) → Option (List String)
  | "VMDeath" => some []
  | "VMStart" | "ThreadStart" | "ThreadDeath" => some ["thread"]
  | "ClassPrepare" => some ["thread", "ref_type", "signature", "status"]
  | "Breakpoint" | "Step" | "MethodEntry" | "MethodExit" => some ["thread", "location"]
  | "Exception" => some ["thread", "location", "exception", "catch_location"]
  | "Unknown" => some ["kind"]
  | _ => none

/-- The details of a variant with known fields. Only an exception's catch location may be
missing. -/
def buildDetails (variant : String) (known : KnownDetails) : Except DocumentFault EventDetails := do
  if variant = "VMDeath" then return .vmDeath
  else if variant = "Unknown" then return .unknown (← required "kind" known.kind)
  else
    let thread ← required "thread" known.thread
    match variant with
    | "VMStart" => return .vmStart thread
    | "ThreadStart" => return .threadStart thread
    | "ThreadDeath" => return .threadDeath thread
    | "ClassPrepare" =>
      let refType ← required "ref_type" known.refType
      let signature ← required "signature" known.signature
      return .classPrepare thread refType signature (← required "status" known.status)
    | _ =>
      let location ← required "location" known.location
      match variant with
      | "Breakpoint" => return .breakpoint thread location
      | "Step" => return .step thread location
      | "MethodEntry" => return .methodEntry thread location
      | "MethodExit" => return .methodExit thread location
      | _ =>
        let exception ← required "exception" known.exception
        return .exception thread location exception known.catchLocation

/-- Reads the fields of a variant, which have been gathered into one value. -/
def variantDetails (variant : String) (gathered : Draft) : Except DocumentFault EventDetails := do
  let fields := (variantFields? variant).getD []
  buildDetails variant (← Assembly.run { fields, blank := {}, set := KnownDetails.set } gathered)

/-- Lists and objects nest at most this deep around and in what is gathered. -/
def nestingLimit : Nat := 127

/-- Whether a value can be gathered: no string or number in it is without value, and it nests at
most `depth` deep. -/
def gatherable : (depth : Nat) → Draft → Bool
  | _, .null => true
  | _, .bool _ => true
  | _, .number (.integer _) => true
  | _, .number (.fraction finite) => finite
  | _, .text s => s.isSome
  | depth + 1, .list items closed => closed && items.all (gatherable depth)
  | depth + 1, .object fields closed =>
    closed && fields.all fun (name, value) => name.isSome && gatherable depth value
  | _, _ => false

/-- The name of a variant that exists. -/
def variant : Decode String := fun draft => do
  let name ← text draft
  if (variantFields? name).isSome then return name else throw .malformed

/-- Separates the variant's name from the other fields, which nest at most `depth` deep. -/
def gatherFields (depth : Nat) (found : Option String) : List (Option String × Draft) →
    Except DocumentFault (Option String × List (Option String × Draft))
  | [] => .ok (found, [])
  | (none, _) :: _ => .error .malformed
  | (some "type", draft) :: rest =>
    if found.isSome then .error .malformed
    else do gatherFields depth (some (← variant draft)) rest
  | (some name, draft) :: rest =>
    if gatherable depth draft then do
      let (found, fields) ← gatherFields depth found rest
      return (found, (some name, draft) :: fields)
    else .error .malformed

/-- The details of an event that lies `level` lists and objects deep. -/
def eventDetails (level : Nat) : Decode EventDetails
  | .object fields closed => do
    let (found, fields) ← gatherFields (nestingLimit - level - 1) none fields
    if closed then variantDetails (← required "type" found) (.object fields true)
    else throw .malformed
  | .list [] true => .error (.missingField "type")
  | .list (first :: rest) closed => do
    let name ← variant first
    if closed && rest.all (gatherable (nestingLimit - level - 1)) then
      variantDetails name (.list rest true)
    else throw .malformed
  | _ => .error .malformed

/-- An event that lies `level` lists and objects deep. -/
def event (level : Nat) : Decode Event := fun draft => do
  let blank : Option UInt8 × Option Int32 × Option EventDetails := (none, none, none)
  let (kind, requestId, details) ← Assembly.run {
      fields := ["kind", "request_id", "details"]
      blank := blank
      set := fun (kind, requestId, details) name draft => match name with
        | "kind" => return (some (← uint8 draft), requestId, details)
        | "request_id" => return (kind, some (← int32 draft), details)
        | _ => return (kind, requestId, some (← eventDetails (level + 1) draft)) } draft
  return {
    kind := ← required "kind" kind
    requestId := ← required "request_id" requestId
    details := ← required "details" details }

def eventSet : Decode EventSet := fun draft => do
  let blank : Option UInt8 × Option (List Event) := (none, none)
  let (policy, events) ← Assembly.run {
      fields := ["suspend_policy", "events"]
      blank := blank
      set := fun (policy, events) name draft => match name with
        | "suspend_policy" => return (some (← uint8 draft), events)
        | _ => return (policy, some (← list (event 2) draft)) } draft
  return {
    suspendPolicy := ← required "suspend_policy" policy
    events := ← required "events" events }

/-- Decodes a whole text, which must end with the value. -/
def run {α : Type} (decode : Decode α) (text : String) : Except DocumentFault α :=
  match Draft.ofString text with
  | (draft, whole) => do
    let value ← decode draft
    if whole then return value else throw .malformed

end Decode

end DebugLink
