import DebugLink.Proofs.Layout
import Mathlib.Data.Nat.Bitwise

/-!
# Codec: packets and the byte sequences that are packets

A byte sequence is `Whole` if it has a header and is as long as the header says. These are the
sequences that are read as a packet, whatever else is in them: of the flags only the top bit counts,
and all other bytes come back when the packet is written again.

Main statement: `Packet.decode_inverse`.
-/

namespace DebugLink

namespace Payload

/-- Four bytes are the only ones that spell their number. -/
theorem putUInt32_toNat {bytes : Bytes} (four : bytes.length = 4) :
    putUInt32 (UInt32.ofNat (Bytes.toNat bytes)) = bytes := by
  have fits : Bytes.toNat bytes < UInt32.size := by
    have bound := Bytes.toNat_lt bytes
    rwa [four] at bound
  rw [putUInt32, UInt32.toNat_ofNat_of_lt' fits, ← four, Bytes.ofNat_toNat]

theorem putUInt16_toNat {bytes : Bytes} (two : bytes.length = 2) :
    putUInt16 (UInt16.ofNat (Bytes.toNat bytes)) = bytes := by
  have fits : Bytes.toNat bytes < UInt16.size := by
    have bound := Bytes.toNat_lt bytes
    rwa [two] at bound
  rw [putUInt16, UInt16.toNat_ofNat_of_lt' fits, ← two, Bytes.ofNat_toNat]

theorem ofNat_toNat_putUInt16 (n : UInt16) : UInt16.ofNat (Bytes.toNat (putUInt16 n)) = n := by
  rw [putUInt16, Bytes.toNat_ofNat]
  apply UInt16.toNat_inj.mp
  have below : n.toNat < Bytes.place 2 := n.toNat_lt
  rw [Nat.mod_eq_of_lt below]
  exact UInt16.toNat_ofNat_of_lt' n.toNat_lt

end Payload

namespace Packet

/-- What a packet carries behind its header. -/
def data : Packet → Bytes
  | command packet => packet.data
  | reply packet => packet.data

/-- What a byte sequence says its length is. -/
def declaredLength (bytes : Bytes) : Nat :=
  Bytes.toNat (bytes.take 4)

/-- A byte sequence has a header and is as long as it says. -/
structure Whole (bytes : Bytes) : Prop where
  header : headerLength ≤ bytes.length
  length : declaredLength bytes = bytes.length

theorem replyBit_and (flags : UInt8) : flags &&& replyBit = 0 ∨ flags &&& replyBit = replyBit := by
  have bit : (flags &&& replyBit).toNat = (flags.toNat.testBit 7).toNat * 128 := by
    rw [UInt8.toNat_and]
    exact Nat.and_two_pow flags.toNat 7
  cases set : flags.toNat.testBit 7 with
  | false => exact .inl (UInt8.toNat_inj.mp (by rw [bit, set]; rfl))
  | true => exact .inr (UInt8.toNat_inj.mp (by rw [bit, set]; rfl))

/-! ## Reading what was written -/

/-- A packet whose size fits its field is read as its parts. -/
theorem decode_layout_of_fits {data : Bytes} (fits : headerLength + data.length < UInt32.size)
    (id : UInt32) (flags first second : UInt8) :
    decode (headerStart data id flags ++ [first, second] ++ data) =
      if flags &&& replyBit ≠ 0 then
        .ok (reply ⟨id, UInt16.ofNat (Bytes.toNat [first, second]), data⟩)
      else .ok (command ⟨id, first, second, data⟩) := by
  have kept : declared data = headerLength + data.length := Nat.mod_eq_of_lt fits
  rw [decode_layout, if_neg (not_not_intro kept)]

theorem decode_encode {packet : Packet}
    (fits : headerLength + packet.data.length < UInt32.size) :
    decode packet.encode = .ok packet := by
  cases packet with
  | command packet =>
    have fits : headerLength + packet.data.length < UInt32.size := fits
    rw [encode, CommandPacket.encode, decode_layout_of_fits fits, if_neg (by decide)]
  | reply packet =>
    have fits : headerLength + packet.data.length < UInt32.size := fits
    obtain ⟨first, second, code⟩ : ∃ first second,
        Payload.putUInt16 packet.errorCode = [first, second] := ⟨_, _, rfl⟩
    rw [encode, ReplyPacket.encode, code, decode_layout_of_fits fits, if_pos (by decide), ← code,
      Payload.ofNat_toNat_putUInt16]

/-! ## Writing what was read -/

/-- A header taken apart. -/
theorem exists_header {bytes : Bytes} (header : headerLength ≤ bytes.length) :
    ∃ size id flags first second data, size.length = 4 ∧ id.length = 4 ∧
      bytes = size ++ id ++ [flags, first, second] ++ data := by
  match bytes, header with
  | a :: b :: c :: d :: e :: f :: g :: h :: flags :: first :: second :: data, _ =>
    exact ⟨[a, b, c, d], [e, f, g, h], flags, first, second, data, rfl, rfl, rfl⟩

/-- A byte sequence that is whole was written, but for its flags: with a size that fits, an id and
two bytes that depend on its kind. -/
theorem Whole.exists_layout {bytes : Bytes} (whole : Whole bytes) :
    ∃ id flags first second data, headerLength + data.length < UInt32.size ∧
      bytes = headerStart data id flags ++ [first, second] ++ data ∧
      bytes.set 8 (bytes.getD 8 0 &&& replyBit) =
        headerStart data id (flags &&& replyBit) ++ [first, second] ++ data := by
  obtain ⟨size, id, flags, first, second, data, size4, id4, rfl⟩ := exists_header whole.header
  have length : (size ++ id ++ [flags, first, second] ++ data).length =
      headerLength + data.length := by
    simp only [List.length_append, size4, id4, headerLength, List.length_cons, List.length_nil]
  have declared : Bytes.toNat size = headerLength + data.length := by
    rw [← length, ← whole.length, declaredLength, List.append_assoc, List.append_assoc,
      List.take_append_of_le_length (by omega), List.take_of_length_le (by omega)]
  have fits : headerLength + data.length < UInt32.size := by
    have bound := Bytes.toNat_lt size
    rwa [size4, declared] at bound
  have start (flags : UInt8) : headerStart data (UInt32.ofNat (Bytes.toNat id)) flags =
      size ++ id ++ [flags] := by
    rw [headerStart, ← declared, ← size4, Bytes.ofNat_toNat, Payload.putUInt32_toNat id4]
  refine ⟨UInt32.ofNat (Bytes.toNat id), flags, first, second, data, fits, ?_, ?_⟩
  · rw [start]
    simp
  · have before : (size ++ id).length = 8 := by rw [List.length_append, size4, id4]
    have flag : (size ++ id ++ [flags, first, second] ++ data).getD 8 0 = flags := by
      simp [List.getD_eq_getElem?_getD, ← before, List.append_assoc]
    have split : size ++ id ++ [flags, first, second] ++ data =
        (size ++ id) ++ flags :: first :: second :: data := by simp
    rw [start, flag, split, ← before, List.set_append_right _ _ (Nat.le_refl _), Nat.sub_self,
      List.set_cons_zero]
    simp

/-- What is whole is read, and what is not is refused for its length. -/
theorem decode_cases (bytes : Bytes) :
    Whole bytes ∧ (∃ packet, decode bytes = .ok packet) ∨
      ¬Whole bytes ∧
        (bytes.length < headerLength ∧ decode bytes = .error (.packetTooShort bytes.length) ∨
          headerLength ≤ bytes.length ∧
            decode bytes = .error (.lengthMismatch (declaredLength bytes) bytes.length)) := by
  by_cases header : bytes.length < headerLength
  · refine .inr ⟨fun whole => ?_, .inl ⟨header, by rw [decode, if_pos header]⟩⟩
    exact absurd whole.header (Nat.not_le_of_lt header)
  · have header' : headerLength ≤ bytes.length := Nat.le_of_not_lt header
    by_cases length : declaredLength bytes = bytes.length
    · have whole : Whole bytes := ⟨header', length⟩
      obtain ⟨id, flags, first, second, data, fits, layout, -⟩ := whole.exists_layout
      refine .inl ⟨whole, ?_⟩
      rw [layout, decode_layout_of_fits fits]
      split
      · exact ⟨_, rfl⟩
      · exact ⟨_, rfl⟩
    · refine .inr ⟨fun whole => length whole.length, .inr ⟨header', ?_⟩⟩
      rw [decode, if_neg header]
      exact if_pos length

theorem decode_eq_ok_iff {bytes : Bytes} : (∃ packet, decode bytes = .ok packet) ↔ Whole bytes := by
  obtain ⟨whole, read⟩ | ⟨unwhole, refused⟩ := decode_cases bytes
  · exact iff_of_true read whole
  · refine iff_of_false ?_ unwhole
    rintro ⟨packet, read⟩
    obtain ⟨-, refused⟩ | ⟨-, refused⟩ := refused
    · rw [read] at refused
      cases refused
    · rw [read] at refused
      cases refused

/-- The bytes of a packet written again are those it was read from, but for the flags. -/
theorem encode_of_decode {bytes : Bytes} {packet : Packet} (read : decode bytes = .ok packet) :
    packet.encode = bytes.set 8 (bytes.getD 8 0 &&& replyBit) := by
  have whole : Whole bytes := decode_eq_ok_iff.mp ⟨packet, read⟩
  obtain ⟨id, flags, first, second, data, fits, layout, normal⟩ := whole.exists_layout
  rw [normal]
  rw [layout, decode_layout_of_fits fits] at read
  obtain none | set := replyBit_and flags
  · rw [none, if_neg (not_not_intro rfl)] at read
    obtain rfl := Except.ok.inj read
    rw [none]
    rfl
  · rw [set, if_pos (by decide)] at read
    obtain rfl := Except.ok.inj read
    rw [set, encode, ReplyPacket.encode, Payload.putUInt16_toNat rfl]

/-- What is written of a packet whose size fits its field is read as that packet. Read is just what
is whole, and what is not is refused for its length; a packet that was read is written as the bytes
that it was read from, but for the flags, of which only the top bit stays. -/
theorem decode_inverse :
    (∀ packet : Packet, headerLength + packet.data.length < UInt32.size →
      decode packet.encode = .ok packet) ∧
    ∀ bytes : Bytes,
      ((∃ packet, decode bytes = .ok packet) ↔
        headerLength ≤ bytes.length ∧ Bytes.toNat (bytes.take 4) = bytes.length) ∧
      (∀ fault, decode bytes = .error fault →
        fault = .packetTooShort bytes.length ∧ bytes.length < headerLength ∨
          fault = .lengthMismatch (Bytes.toNat (bytes.take 4)) bytes.length ∧
            headerLength ≤ bytes.length) ∧
      ∀ packet, decode bytes = .ok packet →
        packet.encode = bytes.set 8 (bytes.getD 8 0 &&& 0x80) := by
  refine ⟨fun packet fits => decode_encode fits, fun bytes => ⟨?_, fun fault refused => ?_,
    fun packet read => encode_of_decode read⟩⟩
  · exact decode_eq_ok_iff.trans ⟨fun whole => ⟨whole.header, whole.length⟩,
      fun ⟨header, length⟩ => ⟨header, length⟩⟩
  · obtain ⟨-, packet, read⟩ | ⟨-, ⟨short, why⟩ | ⟨long, why⟩⟩ := decode_cases bytes
    · rw [read] at refused
      cases refused
    · rw [why] at refused
      exact .inl ⟨(Except.error.inj refused).symm, short⟩
    · rw [why] at refused
      exact .inr ⟨(Except.error.inj refused).symm, long⟩

/-- A reply with an error and two bytes of data, and with flags nobody has given a meaning to. -/
def flagged : Bytes :=
  [0, 0, 0, 13, 255, 255, 255, 254, 0xC5, 0, 113, 7, 8]

theorem decode_inverse_flagged :
    let packet : Packet := .reply ⟨0xFFFFFFFE, 113, [7, 8]⟩
    headerLength + packet.data.length < UInt32.size ∧ decode packet.encode = .ok packet ∧
      decode flagged = .ok packet ∧ packet.encode = flagged.set 8 0x80 := by
  intro packet
  obtain ⟨written, read⟩ := decode_inverse
  have fits : headerLength + packet.data.length < UInt32.size := by decide
  have same : decode flagged = .ok packet := by decide
  exact ⟨fits, written packet fits, same, (read flagged).2.2 packet same⟩

end Packet

end DebugLink
