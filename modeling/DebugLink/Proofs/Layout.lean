import DebugLink.Packet

/-!
# Layout: packets are read as they were written

A packet is written as its header, two bytes that depend on its kind, and its data. Read again
(`decode_layout`) the same parts come out, unless the size of the packet did not fit its field;
then the size is wrong and the packet is refused.
-/

namespace DebugLink

namespace Payload

theorem ofNat_toNat_putUInt32 (n : UInt32) : UInt32.ofNat (Bytes.toNat (putUInt32 n)) = n := by
  rw [putUInt32, Bytes.toNat_ofNat]
  apply UInt32.toNat_inj.mp
  have below : n.toNat < Bytes.place 4 := n.toNat_lt
  rw [Nat.mod_eq_of_lt below]
  exact UInt32.toNat_ofNat_of_lt' n.toNat_lt

end Payload

namespace Packet

variable (data : Bytes) (id : UInt32) (flags first second : UInt8)

/-- The size that the header of a packet declares. -/
def declared : Nat :=
  (headerLength + data.length) % UInt32.size

/-- What is read where a packet was written: its parts, unless its size is wrong. -/
theorem decode_layout :
    decode (headerStart data id flags ++ [first, second] ++ data) =
      if declared data ≠ headerLength + data.length then
        .error (.lengthMismatch (declared data) (headerLength + data.length))
      else if flags &&& replyBit ≠ 0 then
        .ok (reply ⟨id, UInt16.ofNat (Bytes.toNat [first, second]), data⟩)
      else .ok (command ⟨id, first, second, data⟩) := by
  -- The header is taken apart byte by byte, so that every offset is read off a literal list.
  have size (n : Nat) : Bytes.toNat (Bytes.ofNat 4 n) = n % UInt32.size := Bytes.toNat_ofNat 4 n
  obtain ⟨a, b, c, d, sizeField⟩ : ∃ a b c d,
      Bytes.ofNat 4 (headerLength + data.length) = [a, b, c, d] := ⟨_, _, _, _, rfl⟩
  obtain ⟨e, f, g, h, idField⟩ : ∃ e f g h, Payload.putUInt32 id = [e, f, g, h] :=
    ⟨_, _, _, _, rfl⟩
  have readSize : Bytes.toNat [a, b, c, d] = declared data := by
    rw [← sizeField, size, declared]
  have readId : UInt32.ofNat (Bytes.toNat [e, f, g, h]) = id := by
    rw [← idField, Payload.ofNat_toNat_putUInt32]
  have bytes : headerStart data id flags ++ [first, second] ++ data =
      [a, b, c, d, e, f, g, h, flags, first, second] ++ data := by
    simp [headerStart, sizeField, idField]
  have long : ([a, b, c, d, e, f, g, h, flags, first, second] ++ data).length =
      headerLength + data.length := by
    rw [List.length_append]; rfl
  have read : decode ([a, b, c, d, e, f, g, h, flags, first, second] ++ data) =
      if Bytes.toNat [a, b, c, d] ≠ headerLength + data.length then
        .error (.lengthMismatch (Bytes.toNat [a, b, c, d]) (headerLength + data.length))
      else if flags &&& replyBit ≠ 0 then
        .ok (reply ⟨UInt32.ofNat (Bytes.toNat [e, f, g, h]),
          UInt16.ofNat (Bytes.toNat [first, second]), data⟩)
      else .ok (command ⟨UInt32.ofNat (Bytes.toNat [e, f, g, h]), first, second, data⟩) := by
    rw [decode, long, if_neg (by omega)]
    rfl
  rw [bytes, read, readSize, readId]

/-- A command that can be read is read as it was written. -/
theorem decode_command {packet : CommandPacket} {read : Packet}
    (reads : decode packet.encode = .ok read) : read = .command packet := by
  rw [CommandPacket.encode, decode_layout] at reads
  split at reads
  · cases reads
  · rw [if_neg (by decide)] at reads
    exact (Except.ok.inj reads).symm

end Packet

end DebugLink
