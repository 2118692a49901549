import DebugLink.RemoteFault
import DebugLink.Proofs.Grammar

/-!
# Texts: which buffers begin with a string

`BeginsWithText` says it without a reader: four bytes are a length, at least as many bytes as they
say come after them, and these are well-formed UTF-8. Well-formedness is that of the standard
library, whose strings carry it with them; `toByteArray_encode` ties what is written here to the
bytes that such a string has.

A reader of strings can fail at three places, and each of them leaves another part of the buffer
(`run_text_of_short`, `run_text_of_cut`, `run_text_of_broken`).

Main statement: `text_exact`.
-/

namespace DebugLink

namespace Utf8

variable {bytes : Bytes}

/-! ## The bytes of a string -/

theorem eq_ofNat {b : UInt8} {n : Nat} (same : b.toNat = n) : b = UInt8.ofNat n := by
  rw [← same, UInt8.ofNat_toNat]

/-- A character is written as the standard library writes it. -/
theorem encodeChar_eq (c : Char) : encodeChar c = String.utf8EncodeChar c := by
  have number : c.val.toNat = c.toNat := rfl
  have valid := isValidChar_toNat c
  rw [Nat.isValidChar] at valid
  rw [String.utf8EncodeChar, number]
  by_cases one : c.toNat < 0x80
  · obtain ⟨a, written, first⟩ := encodeChar_one one
    rw [written, if_pos (by omega), ← eq_ofNat first]
  by_cases two : c.toNat < 0x800
  · obtain ⟨a, b, written, first, second⟩ := encodeChar_two (by omega) two
    have first' : a = UInt8.ofNat (c.toNat / 64 % 0x20 + 0xc0) := eq_ofNat (by omega)
    have second' : b = UInt8.ofNat (c.toNat % 0x40 + 0x80) := eq_ofNat (by omega)
    rw [written, if_neg (by omega), if_pos (by omega), first', second']
  by_cases three : c.toNat < 0x10000
  · obtain ⟨a, b, d, written, first, second, third⟩ := encodeChar_three (by omega) three
    have first' : a = UInt8.ofNat (c.toNat / 4096 % 0x10 + 0xe0) := eq_ofNat (by omega)
    have second' : b = UInt8.ofNat (c.toNat / 64 % 0x40 + 0x80) := eq_ofNat (by omega)
    have third' : d = UInt8.ofNat (c.toNat % 0x40 + 0x80) := eq_ofNat (by omega)
    rw [written, if_neg (by omega), if_neg (by omega), if_pos (by omega), first', second', third']
  · obtain ⟨a, b, d, e, written, first, second, third, fourth⟩ :=
      encodeChar_four (c := c) (by omega)
    have first' : a = UInt8.ofNat (c.toNat / 262144 % 0x08 + 0xf0) := eq_ofNat (by omega)
    have second' : b = UInt8.ofNat (c.toNat / 4096 % 0x40 + 0x80) := eq_ofNat (by omega)
    have third' : d = UInt8.ofNat (c.toNat / 64 % 0x40 + 0x80) := eq_ofNat (by omega)
    have fourth' : e = UInt8.ofNat (c.toNat % 0x40 + 0x80) := eq_ofNat (by omega)
    rw [written, if_neg (by omega), if_neg (by omega), if_neg (by omega), first', second', third',
      fourth']

/-- What is written are the bytes that the string has. -/
theorem toByteArray_encode (text : String) :
    (encode text.toList).toByteArray = text.toByteArray := by
  have same : encodeChar = String.utf8EncodeChar := funext encodeChar_eq
  rw [encode, same, ← String.utf8Encode_toList, List.utf8Encode]

theorem length_encode (text : String) : (encode text.toList).length = text.utf8ByteSize := by
  rw [← List.size_toByteArray, toByteArray_encode, String.size_toByteArray]

/-- Just what is well-formed can be read. -/
theorem exists_decode_iff :
    (∃ chars, decode bytes = .ok chars) ↔ bytes.toByteArray.IsValidUTF8 := by
  have same : encodeChar = String.utf8EncodeChar := funext encodeChar_eq
  constructor
  · intro read
    obtain ⟨chars, read⟩ := read
    rw [decode_eq_ok_iff] at read
    refine ⟨chars, ?_⟩
    rw [read, encode, same, List.utf8Encode]
  · intro valid
    obtain ⟨chars, spelled⟩ := valid
    refine ⟨chars, ?_⟩
    rw [decode_eq_ok_iff, encode, same]
    exact List.toByteArray_inj.mp spelled

end Utf8

namespace Reader

variable {buffer : Bytes}

/-- The length that the first four bytes spell. -/
def declaredSize (buffer : Bytes) : Nat :=
  Bytes.toNat (buffer.take 4)

/-- The bytes that the length speaks of. -/
def declaredBytes (buffer : Bytes) : Bytes :=
  (buffer.drop 4).take (declaredSize buffer)

/-- A length, as many bytes, and they are UTF-8. -/
structure BeginsWithText (buffer : Bytes) : Prop where
  length : 4 ≤ buffer.length
  bytes : 4 + declaredSize buffer ≤ buffer.length
  wellFormed : (declaredBytes buffer).toByteArray.IsValidUTF8

/-! ## Reading one -/

theorem declaredSize_lt (enough : 4 ≤ buffer.length) : declaredSize buffer < UInt32.size := by
  have below := Bytes.toNat_lt (buffer.take 4)
  rw [List.length_take_of_le enough] at below
  exact below

theorem run_uint32_of_le (enough : 4 ≤ buffer.length) :
    uint32.run buffer = .ok (UInt32.ofNat (declaredSize buffer)) (buffer.drop 4) := by
  show EStateM.bind (take .uint32 4) _ buffer = _
  rw [EStateM.bind, take, if_neg (by omega)]
  rfl

/-- There is no length: nothing is taken. -/
theorem run_text_of_short (short : buffer.length < 4) :
    text.run buffer = .error (.notEnough .uint32 4 buffer.length) buffer := by
  show EStateM.bind (EStateM.bind (take .uint32 4) _) _ buffer = _
  rw [EStateM.bind, EStateM.bind, take, if_pos short]

/-- With a length, what comes next is as many bytes. -/
theorem run_text_of_le (enough : 4 ≤ buffer.length) :
    text.run buffer = (take .text (declaredSize buffer) >>= ofUtf8).run (buffer.drop 4) := by
  have length : uint32 buffer = _ := run_uint32_of_le enough
  show EStateM.bind uint32 (fun size => take .text size.toNat >>= ofUtf8) buffer = _
  rw [EStateM.bind, length]
  show (take .text (UInt32.ofNat (declaredSize buffer)).toNat >>= ofUtf8).run _ = _
  rw [UInt32.toNat_ofNat_of_lt' (declaredSize_lt enough)]

/-- There are fewer bytes than the length says: only the length is taken. -/
theorem run_text_of_cut (enough : 4 ≤ buffer.length)
    (cut : buffer.length < 4 + declaredSize buffer) :
    text.run buffer =
      .error (.notEnough .text (declaredSize buffer) (buffer.length - 4)) (buffer.drop 4) := by
  have few : (buffer.drop 4).length < declaredSize buffer := by
    rw [List.length_drop]
    omega
  rw [run_text_of_le enough]
  show EStateM.bind (take .text (declaredSize buffer)) ofUtf8 (buffer.drop 4) = _
  rw [EStateM.bind, take, if_pos few, List.length_drop]

/-- The bytes are there: they are taken, whatever they are. -/
theorem run_text_of_whole (enough : 4 ≤ buffer.length)
    (whole : 4 + declaredSize buffer ≤ buffer.length) :
    text.run buffer =
      (ofUtf8 (declaredBytes buffer)).run (buffer.drop (4 + declaredSize buffer)) := by
  have all : ¬ (buffer.drop 4).length < declaredSize buffer := by
    rw [List.length_drop]
    omega
  rw [run_text_of_le enough]
  show EStateM.bind (take .text (declaredSize buffer)) ofUtf8 (buffer.drop 4) = _
  rw [EStateM.bind, take, if_neg all, List.drop_drop]
  rfl

/-- The string that is read has just the bytes that were there. -/
theorem exists_text (begins : BeginsWithText buffer) :
    ∃ value, value.toByteArray = (declaredBytes buffer).toByteArray ∧
      text.run buffer = .ok value (buffer.drop (4 + declaredSize buffer)) := by
  obtain ⟨chars, read⟩ := Utf8.exists_decode_iff.mpr begins.wellFormed
  refine ⟨String.ofList chars, ?_, ?_⟩
  · rw [Utf8.decode_eq_ok_iff.mp read, ← Utf8.toByteArray_encode, String.toList_ofList]
  · rw [run_text_of_whole begins.length begins.bytes, ofUtf8, read]
    rfl

/-- The bytes are there, and they are no text: all of them are taken. -/
theorem run_text_of_broken (enough : 4 ≤ buffer.length)
    (whole : 4 + declaredSize buffer ≤ buffer.length)
    (broken : ¬ (declaredBytes buffer).toByteArray.IsValidUTF8) :
    ∃ fault, text.run buffer = .error (.badText fault) (buffer.drop (4 + declaredSize buffer)) := by
  rw [run_text_of_whole enough whole, ofUtf8]
  cases read : Utf8.decode (declaredBytes buffer) with
  | ok chars => exact absurd (Utf8.exists_decode_iff.mp ⟨chars, read⟩) broken
  | error fault => exact ⟨fault, rfl⟩

theorem BeginsWithText.of_run {value : String} {rest : Bytes}
    (read : text.run buffer = .ok value rest) : BeginsWithText buffer := by
  by_cases enough : 4 ≤ buffer.length
  · by_cases whole : 4 + declaredSize buffer ≤ buffer.length
    · by_cases valid : (declaredBytes buffer).toByteArray.IsValidUTF8
      · exact ⟨enough, whole, valid⟩
      · obtain ⟨fault, refused⟩ := run_text_of_broken enough whole valid
        rw [refused] at read
        cases read
    · rw [run_text_of_cut enough (by omega)] at read
      cases read
  · rw [run_text_of_short (by omega)] at read
    cases read

theorem exists_run_iff :
    (∃ value rest, text.run buffer = .ok value rest) ↔ BeginsWithText buffer := by
  constructor
  · intro read
    obtain ⟨value, rest, read⟩ := read
    exact .of_run read
  · intro begins
    obtain ⟨value, -, read⟩ := exists_text begins
    exact ⟨value, _, read⟩

/-- A string that was read, written again, is what was taken. -/
theorem putText_of_run {value : String} {rest : Bytes} (read : text.run buffer = .ok value rest) :
    value.toByteArray = (declaredBytes buffer).toByteArray ∧
      Payload.putText value = buffer.take (4 + declaredSize buffer) ∧
      rest = buffer.drop (4 + declaredSize buffer) := by
  obtain ⟨value', same, left⟩ := exists_text (.of_run read)
  rw [read] at left
  obtain ⟨rfl, rfl⟩ := EStateM.Result.ok.inj left
  obtain ⟨bytes, ⟨-, rfl⟩, split⟩ := recognizes_text.sound read
  refine ⟨same, ?_, rfl⟩
  apply List.append_cancel_right
  rw [← split, List.take_append_drop]

/-- Where a string fails, by what is missing, and what is left then. -/
theorem run_text_error {fault : WireFault} {left : Bytes}
    (refused : text.run buffer = .error fault left) :
    (buffer.length < 4 ∧ fault = .notEnough .uint32 4 buffer.length ∧ left = buffer) ∨
    (4 ≤ buffer.length ∧ buffer.length < 4 + declaredSize buffer ∧
      fault = .notEnough .text (declaredSize buffer) (buffer.length - 4) ∧ left = buffer.drop 4) ∨
    (4 + declaredSize buffer ≤ buffer.length ∧
      ¬ (declaredBytes buffer).toByteArray.IsValidUTF8 ∧ (∃ why, fault = .badText why) ∧
      left = buffer.drop (4 + declaredSize buffer)) := by
  by_cases enough : 4 ≤ buffer.length
  · by_cases whole : 4 + declaredSize buffer ≤ buffer.length
    · by_cases valid : (declaredBytes buffer).toByteArray.IsValidUTF8
      · obtain ⟨value, -, read⟩ := exists_text ⟨enough, whole, valid⟩
        rw [read] at refused
        cases refused
      · obtain ⟨why, broken⟩ := run_text_of_broken enough whole valid
        rw [broken] at refused
        cases refused
        exact .inr (.inr ⟨whole, valid, ⟨why, rfl⟩, rfl⟩)
    · rw [run_text_of_cut enough (by omega)] at refused
      cases refused
      exact .inr (.inl ⟨enough, by omega, rfl, rfl⟩)
  · rw [run_text_of_short (by omega)] at refused
    cases refused
    exact .inl ⟨by omega, rfl, rfl⟩

end Reader

/-! ## The detail of a fault -/

open Reader

namespace RemoteFault

/-- The detail is the string that the payload begins with. -/
theorem detail_eq_some_iff {code : UInt16} {data : Bytes} {detail : String} :
    (ofReply code data).detail = some detail ↔
      code = 113 ∧ ∃ rest, text.run data = .ok detail rest := by
  show (if code = 113 then (text.parse data).toOption else none) = some detail ↔ _
  by_cases internal : code = 113
  · rw [if_pos internal, parse]
    cases read : text.run data with
    | ok value rest =>
      constructor
      · intro said
        obtain rfl : value = detail := Option.some.inj said
        exact ⟨internal, rest, rfl⟩
      · intro given
        obtain ⟨-, rest', given⟩ := given
        obtain ⟨rfl, -⟩ := EStateM.Result.ok.inj given
        rfl
    | error fault left =>
      constructor
      · intro said
        cases said
      · intro given
        obtain ⟨-, rest', given⟩ := given
        cases given
  · rw [if_neg internal]
    constructor
    · intro said
      cases said
    · intro given
      exact absurd given.1 internal

theorem isSome_detail_iff {code : UInt16} {data : Bytes} :
    (ofReply code data).detail.isSome ↔ code = 113 ∧ BeginsWithText data := by
  rw [Option.isSome_iff_exists, ← exists_run_iff]
  constructor
  · intro said
    obtain ⟨detail, said⟩ := said
    obtain ⟨internal, rest, read⟩ := detail_eq_some_iff.mp said
    exact ⟨internal, detail, rest, read⟩
  · intro begins
    obtain ⟨internal, detail, rest, read⟩ := begins
    exact ⟨detail, detail_eq_some_iff.mpr ⟨internal, rest, read⟩⟩

end RemoteFault

/-- A string is read from just the buffers that begin with one, as the bytes that are there, and
writing it gives back what was taken. What is refused has lost nothing, the length or the length
and the bytes, by what is wrong with it. A reply's fault quotes the string that its payload begins
with, if its code is that of an internal error, and nothing else. -/
theorem text_exact (buffer : Bytes) :
    ((∃ value rest, Reader.text.run buffer = .ok value rest) ↔ BeginsWithText buffer) ∧
    (∀ value rest, Reader.text.run buffer = .ok value rest →
      value.toByteArray = (declaredBytes buffer).toByteArray ∧
      Payload.putText value = buffer.take (4 + declaredSize buffer) ∧
      rest = buffer.drop (4 + declaredSize buffer)) ∧
    (∀ fault left, Reader.text.run buffer = .error fault left →
      (buffer.length < 4 ∧ fault = .notEnough .uint32 4 buffer.length ∧ left = buffer) ∨
      (4 ≤ buffer.length ∧ buffer.length < 4 + declaredSize buffer ∧
        fault = .notEnough .text (declaredSize buffer) (buffer.length - 4) ∧
        left = buffer.drop 4) ∨
      (4 + declaredSize buffer ≤ buffer.length ∧
        ¬ (declaredBytes buffer).toByteArray.IsValidUTF8 ∧ (∃ why, fault = .badText why) ∧
        left = buffer.drop (4 + declaredSize buffer))) ∧
    ∀ code, ((RemoteFault.ofReply code buffer).detail.isSome ↔
        code = 113 ∧ BeginsWithText buffer) ∧
      ∀ detail, (RemoteFault.ofReply code buffer).detail = some detail ↔
        code = 113 ∧ ∃ rest, Reader.text.run buffer = .ok detail rest := by
  refine ⟨exists_run_iff, ?_, ?_, ?_⟩
  · intro value rest read
    exact putText_of_run read
  · intro fault left refused
    exact run_text_error refused
  · intro code
    refine ⟨RemoteFault.isSome_detail_iff, ?_⟩
    intro detail
    exact RemoteFault.detail_eq_some_iff

/-- Two characters, the second of them a null, and a byte more. -/
theorem text_exact_accent :
    Reader.text.run [0, 0, 0, 3, 0xC3, 0xA9, 0, 0xFF] = .ok "é\x00" [0xFF] ∧
      BeginsWithText [0, 0, 0, 3, 0xC3, 0xA9, 0, 0xFF] ∧
      Payload.putText "é\x00" = [0, 0, 0, 3, 0xC3, 0xA9, 0] ∧
      (RemoteFault.ofReply 113 [0, 0, 0, 3, 0xC3, 0xA9, 0, 0xFF]).detail = some "é\x00" := by
  have read : Reader.text.run [0, 0, 0, 3, 0xC3, 0xA9, 0, 0xFF] = .ok "é\x00" [0xFF] := by
    rfl
  obtain ⟨accepted, written, -, quoted⟩ := text_exact [0, 0, 0, 3, 0xC3, 0xA9, 0, 0xFF]
  refine ⟨read, accepted.mp ⟨_, _, read⟩, (written _ _ read).2.1, ?_⟩
  exact ((quoted 113).2 _).mpr ⟨rfl, _, read⟩

end DebugLink
