import DebugLink.Identifier

/-!
# Payload: the values inside a packet

A `Reader` consumes a buffer from the front. It fails with a `WireFault` and never reads beyond
the end; a fixed-width value that is not wholly there consumes nothing, while a string has spent
its length, or its length and its bytes, by the time it turns out to be wrong. The `put` functions
write what the readers read.
-/

namespace DebugLink

/-- A computation that consumes a buffer from the front. -/
abbrev Reader := EStateM WireFault Bytes

namespace Reader

/-- The next `size` bytes, for a value called `what`. -/
def take (what : Primitive) (size : Nat) : Reader Bytes := fun buffer =>
  if buffer.length < size then .error (.notEnough what size buffer.length) buffer
  else .ok (buffer.take size) (buffer.drop size)

def uint8 : Reader UInt8 :=
  return UInt8.ofNat (← take .uint8 1).toNat

def uint16 : Reader UInt16 :=
  return UInt16.ofNat (← take .uint16 2).toNat

def uint32 : Reader UInt32 :=
  return UInt32.ofNat (← take .uint32 4).toNat

/-- A signed number in two's complement. -/
def int32 : Reader Int32 :=
  return (UInt32.ofNat (← take .int32 4).toNat).toInt32

def uint64 : Reader UInt64 :=
  return UInt64.ofNat (← take .uint64 8).toNat

/-- A string: its length in bytes, then its bytes in UTF-8. -/
def text : Reader String := do
  let size ← uint32
  match Utf8.decode (← take .text size.toNat) with
  | .ok chars => return String.ofList chars
  | .error fault => throw (.badText fault)

/-- An id at its width. -/
def id : IdSize → Reader UInt64
  | .two => return (← uint16).toUInt64
  | .four => return (← uint32).toUInt64
  | .eight => uint64

/-- The reader's value on a buffer, whatever it leaves of it. -/
def parse {α : Type} (reader : Reader α) (buffer : Bytes) : Except WireFault α :=
  match reader.run buffer with
  | .ok value _ => .ok value
  | .error fault _ => .error fault

end Reader

namespace Payload

def putUInt16 (n : UInt16) : Bytes := Bytes.ofNat 2 n.toNat

def putUInt32 (n : UInt32) : Bytes := Bytes.ofNat 4 n.toNat

def putInt32 (n : Int32) : Bytes := putUInt32 n.toUInt32

def putUInt64 (n : UInt64) : Bytes := Bytes.ofNat 8 n.toNat

/-- A string: its length in bytes, then its bytes in UTF-8. -/
def putText (text : String) : Bytes :=
  let bytes := Utf8.encode text.toList
  Bytes.ofNat 4 bytes.length ++ bytes

/-- An id at its width. Higher digits are dropped. -/
def putId (size : IdSize) (id : UInt64) : Bytes :=
  Bytes.ofNat size.bytes id.toNat

end Payload

end DebugLink
