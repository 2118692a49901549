import DebugLink.Failure

/-!
# Packet: the two kinds of packets and their layout

A packet is an eleven-byte header and its data. The header holds the size of the whole packet, the
packet's id, a flags byte whose top bit tells a reply from a command, and then either a command
set and a command number or an error code. `Packet.encode` writes that layout; `Packet.decode`
reads exactly one packet and refuses a length field that differs from the number of bytes given.
-/

namespace DebugLink

/-- A request to the other side. -/
structure CommandPacket where
  id : UInt32
  commandSet : UInt8
  command : UInt8
  data : Bytes
  deriving DecidableEq, Repr

/-- The answer to the command with the same id. -/
structure ReplyPacket where
  id : UInt32
  errorCode : UInt16
  data : Bytes
  deriving DecidableEq, Repr

/-- A packet of either kind. -/
inductive Packet
  | command (packet : CommandPacket)
  | reply (packet : ReplyPacket)
  deriving DecidableEq, Repr

/-- The size of a header in bytes. -/
def headerLength : Nat := 11

/-- The bit of the flags byte that marks a reply. -/
def replyBit : UInt8 := 0x80

/-- The part of a header that both kinds share: size, id and flags. -/
def headerStart (data : Bytes) (id : UInt32) (flags : UInt8) : Bytes :=
  Bytes.ofNat 4 (headerLength + data.length) ++ Payload.putUInt32 id ++ [flags]

/-- The layout of a command. -/
def CommandPacket.encode (packet : CommandPacket) : Bytes :=
  headerStart packet.data packet.id 0 ++ [packet.commandSet, packet.command] ++ packet.data

namespace ReplyPacket

/-- The layout of a reply. -/
def encode (packet : ReplyPacket) : Bytes :=
  headerStart packet.data packet.id replyBit ++ Payload.putUInt16 packet.errorCode ++ packet.data

/-- Whether the reply reports an error. -/
def isError (packet : ReplyPacket) : Bool :=
  packet.errorCode != 0

/-- The payload, or the fault that the error code stands for. -/
def result (packet : ReplyPacket) : Except Failure Bytes :=
  if packet.isError then .error (.remote (RemoteFault.ofReply packet.errorCode packet.data))
  else .ok packet.data

end ReplyPacket

namespace Packet

def encode : Packet → Bytes
  | command packet => packet.encode
  | reply packet => packet.encode

def id : Packet → UInt32
  | command packet => packet.id
  | reply packet => packet.id

def isReply : Packet → Bool
  | command _ => false
  | reply _ => true

/-- The packet that `bytes` are the whole of. Of the flags byte only the reply bit counts. -/
def decode (bytes : Bytes) : Except WireFault Packet :=
  if bytes.length < headerLength then .error (.packetTooShort bytes.length)
  else
    let declared := Bytes.toNat (bytes.take 4)
    if declared ≠ bytes.length then .error (.lengthMismatch declared bytes.length)
    else
      let id := UInt32.ofNat (Bytes.toNat ((bytes.drop 4).take 4))
      let flags := bytes.getD 8 0
      let data := bytes.drop headerLength
      if flags &&& replyBit ≠ 0 then
        .ok (reply ⟨id, UInt16.ofNat (Bytes.toNat ((bytes.drop 9).take 2)), data⟩)
      else .ok (command ⟨id, bytes.getD 9 0, bytes.getD 10 0, data⟩)

end Packet

end DebugLink
