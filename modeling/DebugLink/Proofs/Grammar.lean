import DebugLink.Proofs.Reading
import DebugLink.Proofs.Unicode

/-!
# Grammar: what a reader takes, and nothing else

`Reader.Recognizes` says which bytes spell which value for a reader: it takes every spelling of a
value, whatever comes behind it, and where it succeeds it has taken a spelling of the value it
gives. Both directions go through sequences of readers, so the grammar of a payload is put together
as its reader is.

A reader that recognizes a grammar cannot take a spelling that was cut short
(`Recognizes.fails_of_prefix`).
-/

namespace DebugLink

namespace Reader

variable {α β : Type} {reader : Reader α} {next : α → Reader β} {a : α} {bytes : Bytes}
variable {spells : α → Bytes → Prop} {more : α → β → Bytes → Prop}

/-- Which bytes a reader takes for which value. -/
structure Recognizes (reader : Reader α) (spells : α → Bytes → Prop) : Prop where
  complete : ∀ {value bytes}, spells value bytes → Reads reader bytes value
  sound : ∀ {buffer value rest}, reader.run buffer = .ok value rest →
    ∃ bytes, spells value bytes ∧ buffer = bytes ++ rest

namespace Recognizes

theorem congr (recognizes : Recognizes reader spells) {spells' : α → Bytes → Prop}
    (same : ∀ value bytes, spells value bytes ↔ spells' value bytes) :
    Recognizes reader spells' where
  complete spelled := recognizes.complete ((same _ _).mpr spelled)
  sound read := by
    obtain ⟨bytes, spelled, split⟩ := recognizes.sound read
    exact ⟨bytes, (same _ _).mp spelled, split⟩

theorem bind (first : Recognizes reader spells) (second : ∀ a, Recognizes (next a) (more a)) :
    Recognizes (reader >>= next) fun value bytes =>
      ∃ a front back, spells a front ∧ more a value back ∧ bytes = front ++ back where
  complete := by
    rintro value bytes ⟨a, front, back, spelled, spelled', rfl⟩
    exact (first.complete spelled).bind next ((second a).complete spelled')
  sound read := by
    obtain ⟨a, left, read, read'⟩ := run_bind read
    obtain ⟨front, spelled, rfl⟩ := first.sound read
    obtain ⟨back, spelled', rfl⟩ := (second a).sound read'
    exact ⟨front ++ back, ⟨a, front, back, spelled, spelled', rfl⟩,
      (List.append_assoc front back _).symm⟩

/-- What was read is only converted. -/
theorem convert (recognizes : Recognizes reader spells) (f : α → β) :
    Recognizes (f <$> reader) fun value bytes => ∃ a, spells a bytes ∧ value = f a where
  complete := by
    rintro value bytes ⟨a, spelled, rfl⟩ rest
    have took := recognizes.complete spelled rest
    simp only [EStateM.run] at took ⊢
    show EStateM.map f reader (bytes ++ rest) = _
    rw [EStateM.map, took]
  sound := by
    intro buffer value rest read
    have read : EStateM.map f reader buffer = .ok value rest := read
    rw [EStateM.map] at read
    split at read
    · next a left first =>
      cases read
      obtain ⟨bytes, spelled, split⟩ := recognizes.sound first
      exact ⟨bytes, ⟨a, spelled, rfl⟩, split⟩
    · cases read

end Recognizes

theorem recognizes_pure (a : α) :
    Recognizes (pure a) fun value bytes => value = a ∧ bytes = [] where
  complete := by
    rintro value bytes ⟨rfl, rfl⟩
    exact reads_pure _
  sound read := by
    cases read
    exact ⟨[], ⟨rfl, rfl⟩, rfl⟩

theorem recognizes_throw (fault : WireFault) :
    Recognizes (throw fault : Reader α) fun _ _ => False where
  complete spelled := spelled.elim
  sound read := by cases read

/-! ## Primitives -/

theorem recognizes_take (what : Primitive) (size : Nat) :
    Recognizes (take what size) fun value bytes => bytes = value ∧ bytes.length = size where
  complete := by
    rintro value bytes ⟨rfl, length⟩
    exact reads_take what length
  sound := by
    intro buffer value rest read
    simp only [EStateM.run, take] at read
    split at read
    · cases read
    · next enough =>
      cases read
      refine ⟨_, ⟨rfl, ?_⟩, (List.take_append_drop size buffer).symm⟩
      rw [List.length_take]
      omega

/-- A number at a width is spelled by the bytes it is written as. -/
theorem recognizes_number (what : Primitive) (width : Nat) (build : Nat → α) :
    Recognizes (take what width >>= fun bytes => pure (build bytes.toNat)) fun value bytes =>
      ∃ n < Bytes.place width, value = build n ∧ bytes = Bytes.ofNat width n where
  complete := by
    rintro value bytes ⟨n, fits, rfl, rfl⟩
    exact reads_number what width fits build
  sound read := by
    obtain ⟨bytes, left, took, gave⟩ := run_bind read
    obtain ⟨_, ⟨rfl, rfl⟩, split⟩ := (recognizes_take what width).sound took
    cases gave
    exact ⟨_, ⟨_, Bytes.toNat_lt _, rfl, (Bytes.ofNat_toNat _).symm⟩, split⟩

theorem recognizes_uint8 : Recognizes uint8 fun value bytes => bytes = [value] := by
  refine (recognizes_number .uint8 1 UInt8.ofNat).congr fun value bytes => ⟨?_, ?_⟩
  · rintro ⟨n, -, rfl, rfl⟩
    rw [Bytes.ofNat, Bytes.ofNat, Bytes.place, Nat.div_one]
  · rintro rfl
    refine ⟨value.toNat, value.toNat_lt, UInt8.ofNat_toNat.symm, ?_⟩
    rw [Bytes.ofNat, Bytes.ofNat, Bytes.place, Nat.div_one, UInt8.ofNat_toNat]

theorem recognizes_uint16 :
    Recognizes uint16 fun value bytes => bytes = Payload.putUInt16 value := by
  refine (recognizes_number .uint16 2 UInt16.ofNat).congr fun value bytes => ⟨?_, ?_⟩
  · rintro ⟨n, fits, rfl, rfl⟩
    rw [Payload.putUInt16, UInt16.toNat_ofNat_of_lt' fits]
  · rintro rfl
    exact ⟨value.toNat, value.toNat_lt, UInt16.ofNat_toNat.symm, rfl⟩

theorem recognizes_uint32 :
    Recognizes uint32 fun value bytes => bytes = Payload.putUInt32 value := by
  refine (recognizes_number .uint32 4 UInt32.ofNat).congr fun value bytes => ⟨?_, ?_⟩
  · rintro ⟨n, fits, rfl, rfl⟩
    rw [Payload.putUInt32, UInt32.toNat_ofNat_of_lt' fits]
  · rintro rfl
    exact ⟨value.toNat, value.toNat_lt, UInt32.ofNat_toNat.symm, rfl⟩

theorem recognizes_int32 : Recognizes int32 fun value bytes => bytes = Payload.putInt32 value := by
  refine (recognizes_number .int32 4 fun n => (UInt32.ofNat n).toInt32).congr
    fun value bytes => ⟨?_, ?_⟩
  · rintro ⟨n, fits, rfl, rfl⟩
    rw [Payload.putInt32, Payload.putUInt32, UInt32.toUInt32_toInt32,
      UInt32.toNat_ofNat_of_lt' fits]
  · rintro rfl
    refine ⟨value.toUInt32.toNat, value.toUInt32.toNat_lt, ?_, rfl⟩
    rw [UInt32.ofNat_toNat, Int32.toInt32_toUInt32]

theorem recognizes_uint64 :
    Recognizes uint64 fun value bytes => bytes = Payload.putUInt64 value := by
  refine (recognizes_number .uint64 8 UInt64.ofNat).congr fun value bytes => ⟨?_, ?_⟩
  · rintro ⟨n, fits, rfl, rfl⟩
    rw [Payload.putUInt64, UInt64.toNat_ofNat_of_lt' fits]
  · rintro rfl
    exact ⟨value.toNat, value.toNat_lt, UInt64.ofNat_toNat.symm, rfl⟩

/-- An id is spelled at its width, which it has to fit. -/
theorem recognizes_id (size : IdSize) :
    Recognizes (id size) fun value bytes =>
      value.toNat < Bytes.place size.bytes ∧ bytes = Payload.putId size value where
  complete := by
    rintro value bytes ⟨fits, rfl⟩
    exact reads_id size fits
  sound read := by
    cases size with
    | two =>
      obtain ⟨n, left, read, gave⟩ := run_bind read
      obtain ⟨bytes, rfl, split⟩ := recognizes_uint16.sound read
      cases gave
      refine ⟨_, ⟨?_, ?_⟩, split⟩
      · rw [UInt16.toNat_toUInt64]
        exact n.toNat_lt
      · rw [Payload.putId, UInt16.toNat_toUInt64]
        rfl
    | four =>
      obtain ⟨n, left, read, gave⟩ := run_bind read
      obtain ⟨bytes, rfl, split⟩ := recognizes_uint32.sound read
      cases gave
      refine ⟨_, ⟨?_, ?_⟩, split⟩
      · rw [UInt32.toNat_toUInt64]
        exact n.toNat_lt
      · rw [Payload.putId, UInt32.toNat_toUInt64]
        rfl
    | eight =>
      obtain ⟨bytes, rfl, split⟩ := recognizes_uint64.sound read
      exact ⟨_, ⟨UInt64.toNat_lt _, rfl⟩, split⟩

/-- What is left to do once the bytes of a string were taken. -/
def ofUtf8 (spelled : Bytes) : Reader String :=
  match Utf8.decode spelled with
  | .ok chars => return String.ofList chars
  | .error fault => throw (.badText fault)

theorem recognizes_ofUtf8 (spelled : Bytes) :
    Recognizes (ofUtf8 spelled) fun value bytes =>
      spelled = Utf8.encode value.toList ∧ bytes = [] := by
  rw [ofUtf8]
  cases read : Utf8.decode spelled with
  | ok chars =>
    refine (recognizes_pure _).congr fun value bytes => and_congr_left fun _ => ⟨?_, ?_⟩
    · rintro rfl
      rw [String.toList_ofList, ← Utf8.decode_eq_ok_iff, read]
    · intro same
      rw [Utf8.decode_eq_ok_iff.mpr same] at read
      rw [← Except.ok.inj read, String.ofList_toList]
  | error fault =>
    refine (recognizes_throw _).congr fun value bytes => ⟨False.elim, ?_⟩
    rintro ⟨rfl, -⟩
    rw [Utf8.decode_eq_ok_iff.mpr rfl] at read
    cases read

/-- A string is spelled by its length and its bytes in UTF-8, of which there may not be too many. -/
theorem recognizes_text :
    Recognizes text fun value bytes =>
      (Utf8.encode value.toList).length < UInt32.size ∧ bytes = Payload.putText value := by
  refine (recognizes_uint32.bind fun size => (recognizes_take .text size.toNat).bind
    recognizes_ofUtf8).congr fun value bytes => ⟨?_, ?_⟩
  · rintro ⟨size, _, _, rfl, ⟨_, _, _, ⟨rfl, length⟩, ⟨rfl, rfl⟩, rfl⟩, rfl⟩
    refine ⟨?_, ?_⟩
    · rw [length]
      exact size.toNat_lt
    · rw [Payload.putText, length, List.append_nil]
      rfl
  · rintro ⟨fits, rfl⟩
    refine ⟨UInt32.ofNat (Utf8.encode value.toList).length, _, _, rfl,
      ⟨_, _, _, ⟨rfl, ?_⟩, ⟨rfl, rfl⟩, rfl⟩, ?_⟩
    · rw [UInt32.toNat_ofNat_of_lt' fits]
    · rw [Payload.putText, Payload.putUInt32, UInt32.toNat_ofNat_of_lt' fits, List.append_nil]

/-! ## What was cut short -/

/-- A spelling without its end is refused. -/
theorem Recognizes.fails_of_prefix (recognizes : Recognizes reader spells)
    (spelled : spells a bytes) {front : Bytes} (begins : front <+: bytes) (short : front ≠ bytes) :
    ∃ fault, reader.parse front = .error fault := by
  obtain ⟨back, rfl⟩ := begins
  cases read : reader.run front with
  | error fault rest =>
    refine ⟨fault, ?_⟩
    rw [parse, read]
  | ok value rest =>
    obtain ⟨taken, spelled', rfl⟩ := recognizes.sound read
    have whole := recognizes.complete spelled []
    have again := recognizes.complete spelled' (rest ++ back)
    rw [List.append_nil, List.append_assoc, again] at whole
    have left : rest ++ back = [] := (EStateM.Result.ok.inj whole).2
    obtain ⟨-, rfl⟩ := List.append_eq_nil_iff.mp left
    exact absurd (List.append_nil _).symm short

theorem Recognizes.parse_append (recognizes : Recognizes reader spells) (spelled : spells a bytes)
    (rest : Bytes) : reader.parse (bytes ++ rest) = .ok a := by
  rw [parse, recognizes.complete spelled rest]

theorem Recognizes.of_parse (recognizes : Recognizes reader spells) {buffer : Bytes}
    (read : reader.parse buffer = .ok a) :
    ∃ bytes rest, spells a bytes ∧ buffer = bytes ++ rest := by
  rw [parse] at read
  split at read
  · next value rest first =>
    cases read
    obtain ⟨bytes, spelled, split⟩ := recognizes.sound first
    exact ⟨bytes, rest, spelled, split⟩
  · cases read

end Reader

end DebugLink
