import DebugLink.Text.Utf8

/-!
# WireFault: what can be wrong with the bytes on the wire

One constructor for each way in which a packet, a payload or a byte stream can be malformed, and
one function, `WireFault.message`, for the wording.
-/

namespace DebugLink

/-- The values a payload is made of. -/
inductive Primitive
  | uint8 | uint16 | uint32 | int32 | uint64 | text
  deriving DecidableEq, Repr

/-- What a fault calls the value that was being read. -/
def Primitive.name : Primitive → String
  | .uint8 => "u8"
  | .uint16 => "u16"
  | .uint32 => "u32"
  | .int32 => "i32"
  | .uint64 => "u64"
  | .text => "string"

/-- A malformed packet, payload or byte stream. -/
inductive WireFault
  /-- A value needs more bytes than are left. -/
  | notEnough (what : Primitive) (expected got : Nat)
  /-- A string is not UTF-8. -/
  | badText (fault : Utf8.Fault)
  /-- No identifier has this width. -/
  | unsupportedWidth (width : Int)
  /-- A packet has fewer bytes than a header. -/
  | packetTooShort (size : Nat)
  /-- A packet's length field differs from its size. -/
  | lengthMismatch (declared actual : Nat)
  /-- A composite event packet has no payload. -/
  | emptyEventPacket (id : UInt32)
  /-- A composite event packet declares a negative number of events. -/
  | negativeEventCount (count : Int)
  /-- A length field on the stream is less than a header. -/
  | lengthBelowHeader (length : Nat)
  /-- A length field on the stream exceeds the limit. -/
  | packetTooLarge (length limit : Nat)
  /-- Any other fault, in words. -/
  | other (text : String)
  deriving DecidableEq, Repr

/-- The wording of a fault. -/
def WireFault.message : WireFault → String
  | .notEnough what expected got =>
    s!"Not enough data for {what.name}: expected {expected}, got {got}"
  | .badText fault => s!"Invalid UTF-8 in string: {fault.message}"
  | .unsupportedWidth width => s!"Unsupported identifier width: {width}"
  | .packetTooShort size => s!"Packet too short: {size} bytes"
  | .lengthMismatch declared actual =>
    s!"Length mismatch: header declares {declared}, got {actual} bytes"
  | .emptyEventPacket id => s!"Empty composite event packet id={id}"
  | .negativeEventCount count => s!"Negative event count: {count}"
  | .lengthBelowHeader length => s!"Invalid packet length: {length}"
  | .packetTooLarge length limit => s!"Packet too large: {length} bytes (max: {limit} bytes)"
  | .other text => text

end DebugLink
