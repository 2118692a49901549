import DebugLink.Proofs.Layout

/-!
# Reading: what was written is read back, and what follows it is left

`Reader.Reads` says that a reader takes exactly some bytes for a value, whatever comes behind them.
It is proved for every primitive on what its `put` writes, and goes through sequences of readers, so
that it can be composed along a layout. `Reader.Consumes` is the other direction: how many bytes a
reader has taken where it succeeds.
-/

namespace DebugLink

namespace Reader

variable {α β : Type} {reader : Reader α} {bytes more : Bytes} {a : α} {b : β}

/-- A reader takes some bytes for a value and leaves what follows them. -/
def Reads (reader : Reader α) (bytes : Bytes) (value : α) : Prop :=
  ∀ rest, reader.run (bytes ++ rest) = .ok value rest

theorem reads_pure (a : α) : Reads (pure a) [] a :=
  fun _ => rfl

theorem Reads.bind (first : Reads reader bytes a) (next : α → Reader β)
    (second : Reads (next a) more b) : Reads (reader >>= next) (bytes ++ more) b := by
  intro rest
  have took := first (more ++ rest)
  have gave := second rest
  simp only [EStateM.run] at took gave ⊢
  rw [List.append_assoc]
  show EStateM.bind reader next (bytes ++ (more ++ rest)) = _
  rw [EStateM.bind, took]
  exact gave

/-- What was read is only converted. -/
theorem Reads.convert (first : Reads reader bytes a) (f : α → β) :
    Reads (reader >>= fun a => pure (f a)) bytes (f a) := by
  have read := first.bind (fun a => pure (f a)) (reads_pure (f a))
  rwa [List.append_nil] at read

theorem reads_take (what : Primitive) {size : Nat} (length : bytes.length = size) :
    Reads (take what size) bytes bytes := by
  intro rest
  simp only [EStateM.run, take, List.length_append]
  rw [if_neg (by omega), ← length, List.take_left, List.drop_left]

/-! ## Primitives -/

/-- A number that was written at a width is read from as many bytes, if it fits. -/
theorem reads_number (what : Primitive) (width : Nat) {n : Nat} (fits : n < Bytes.place width)
    (build : Nat → α) :
    Reads (take what width >>= fun bytes => pure (build bytes.toNat)) (Bytes.ofNat width n)
      (build n) := by
  have read := (reads_take what (Bytes.length_ofNat width n)).convert fun bytes =>
    build (Bytes.toNat bytes)
  rwa [Bytes.toNat_ofNat, Nat.mod_eq_of_lt fits] at read

theorem reads_uint16 {n : Nat} (fits : n < Bytes.place 2) :
    Reads uint16 (Bytes.ofNat 2 n) (UInt16.ofNat n) :=
  reads_number .uint16 2 fits UInt16.ofNat

theorem reads_uint32 {n : Nat} (fits : n < Bytes.place 4) :
    Reads uint32 (Bytes.ofNat 4 n) (UInt32.ofNat n) :=
  reads_number .uint32 4 fits UInt32.ofNat

theorem reads_uint64 {n : Nat} (fits : n < Bytes.place 8) :
    Reads uint64 (Bytes.ofNat 8 n) (UInt64.ofNat n) :=
  reads_number .uint64 8 fits UInt64.ofNat

theorem reads_int32 {n : Nat} (fits : n < Bytes.place 4) :
    Reads int32 (Bytes.ofNat 4 n) (Int32.ofNat n) :=
  reads_number .int32 4 fits fun n => (UInt32.ofNat n).toInt32

/-- An id is read at the width it was written at, if it fits. -/
theorem reads_id (size : IdSize) {object : UInt64} (fits : object.toNat < Bytes.place size.bytes) :
    Reads (id size) (Payload.putId size object) object := by
  cases size with
  | two =>
    have same : (UInt16.ofNat object.toNat).toUInt64 = object := by
      apply UInt64.toNat_inj.mp
      rw [UInt16.toNat_toUInt64, UInt16.toNat_ofNat_of_lt' fits]
    have read := (reads_uint16 fits).convert UInt16.toUInt64
    rwa [same] at read
  | four =>
    have same : (UInt32.ofNat object.toNat).toUInt64 = object := by
      apply UInt64.toNat_inj.mp
      rw [UInt32.toNat_toUInt64, UInt32.toNat_ofNat_of_lt' fits]
    have read := (reads_uint32 fits).convert UInt32.toUInt64
    rwa [same] at read
  | eight =>
    have read := reads_uint64 fits
    rwa [UInt64.ofNat_toNat] at read

/-! ## Sequences -/

/-- So many values, one after the other. -/
def times (reader : Reader α) : Nat → Reader (List α)
  | 0 => return []
  | count + 1 => do
    let value ← reader
    return value :: (← times reader count)

theorem reads_times {γ : Type} {put : γ → Bytes} {read : γ → α} {values : List γ}
    (each : ∀ value ∈ values, Reads reader (put value) (read value)) :
    Reads (times reader values.length) (values.flatMap put) (values.map read) := by
  induction values with
  | nil => exact reads_pure []
  | cons value values ih =>
    rw [List.forall_mem_cons] at each
    exact each.1.bind _ ((ih each.2).convert (read value :: ·))

/-! ## What has been taken -/

/-- Where a reader succeeds it has taken so many bytes. -/
def Consumes (reader : Reader α) (size : Nat) : Prop :=
  ∀ buffer value rest, reader.run buffer = .ok value rest → buffer.length = size + rest.length

/-- A sequence that succeeds does so step by step. -/
theorem run_bind {next : α → Reader β} {buffer rest : Bytes} {value : β}
    (runs : (reader >>= next).run buffer = .ok value rest) :
    ∃ a left, reader.run buffer = .ok a left ∧ (next a).run left = .ok value rest := by
  have runs : EStateM.bind reader next buffer = .ok value rest := runs
  unfold EStateM.bind at runs
  split at runs
  · next first => exact ⟨_, _, first, runs⟩
  · cases runs

theorem consumes_pure (a : α) : Consumes (pure a) 0 := by
  intro buffer value rest runs
  cases runs
  simp

theorem Consumes.bind {size size' : Nat} (first : Consumes reader size) {next : α → Reader β}
    (second : ∀ a, Consumes (next a) size') : Consumes (reader >>= next) (size + size') := by
  intro buffer value rest runs
  obtain ⟨a, left, runs, runs'⟩ := run_bind runs
  rw [first _ _ _ runs, second a _ _ _ runs', Nat.add_assoc]

theorem consumes_take (what : Primitive) (size : Nat) : Consumes (take what size) size := by
  intro buffer value rest runs
  simp only [EStateM.run, take] at runs
  split at runs
  · cases runs
  · next enough =>
    cases runs
    rw [List.length_drop]
    omega

theorem consumes_id (size : IdSize) : Consumes (id size) size.bytes := by
  cases size with
  | two => exact ((consumes_take _ _).bind fun _ => consumes_pure _).bind fun _ => consumes_pure _
  | four => exact ((consumes_take _ _).bind fun _ => consumes_pure _).bind fun _ => consumes_pure _
  | eight => exact (consumes_take _ _).bind fun _ => consumes_pure _

theorem consumes_int32 : Consumes int32 4 :=
  (consumes_take _ _).bind fun _ => consumes_pure _

theorem consumes_times {size : Nat} (each : Consumes reader size) (count : Nat) :
    Consumes (times reader count) (count * size) := by
  induction count with
  | zero =>
    rw [Nat.zero_mul]
    exact consumes_pure []
  | succ count ih =>
    have whole := each.bind fun value => ih.bind fun values => consumes_pure (value :: values)
    rwa [Nat.add_zero, Nat.add_comm, ← Nat.succ_mul] at whole

theorem length_times {count : Nat} {buffer rest : Bytes} {values : List α}
    (runs : (times reader count).run buffer = .ok values rest) : values.length = count := by
  induction count generalizing buffer values rest with
  | zero => cases runs; rfl
  | succ count ih =>
    obtain ⟨value, left, -, runs⟩ := run_bind runs
    obtain ⟨values, left, runs, last⟩ := run_bind runs
    cases last
    rw [List.length_cons, ih runs]

end Reader

end DebugLink
