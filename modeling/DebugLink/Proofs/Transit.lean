import DebugLink.Proofs.Framing
import DebugLink.Stream.Handshake

/-!
# Transit: what crosses a byte stream

A sink is `Willing` if it takes at least one byte whenever it is offered some, however many it takes
at a time. All that is written to it arrives, in order, and is read again as it was written, since
packets declare their own lengths. The greeting that opens a stream is read before anything else and
no byte more is, so the packets are those that stand behind it.

Main statement: `FrameReader.reads_framed`.
-/

namespace DebugLink

namespace Sink

variable {sink : Sink}

/-- A sink has no bound in all, and takes at least one byte of what it is offered. -/
structure Willing (sink : Sink) : Prop where
  endless : sink.limit = none
  takes : ∀ taken, sink.step.bound taken ≠ some 0

/-- A sink to which bytes were written. -/
def wrote (sink : Sink) (bytes : Bytes) : Sink :=
  { sink with written := sink.written ++ bytes }

theorem Willing.accepts (willing : Willing sink) {size : Nat} (some : 0 < size) :
    0 < sink.accepts size ∧ sink.accepts size ≤ size := by
  have takes := willing.takes sink.written.length
  rw [Sink.accepts, willing.endless]
  cases bound : sink.step.bound sink.written.length with
  | none => exact ⟨some, Nat.le_refl _⟩
  | some most =>
    have most_ne : most ≠ 0 := by
      rintro rfl
      exact takes bound
    show 0 < min size most ∧ min size most ≤ size
    omega

theorem Willing.wrote (willing : Willing sink) (bytes : Bytes) : Willing (sink.wrote bytes) :=
  ⟨willing.endless, willing.takes⟩

theorem wrote_wrote (first second : Bytes) :
    (sink.wrote first).wrote second = sink.wrote (first ++ second) := by
  simp only [Sink.wrote, List.append_assoc]

/-- A willing sink takes all, as long as the loop is let go on. -/
theorem Willing.writeLoop (willing : Willing sink) {fuel : Nat} {bytes : Bytes}
    (enough : bytes.length ≤ fuel) :
    Sink.writeLoop fuel sink bytes = (.ok (), sink.wrote bytes) := by
  induction fuel generalizing sink bytes with
  | zero =>
    obtain rfl := List.length_eq_zero_iff.mp (Nat.le_zero.mp enough)
    rw [Sink.writeLoop, Sink.wrote, List.append_nil]
  | succ fuel ih =>
    cases bytes with
    | nil => rw [Sink.writeLoop, Sink.wrote, List.append_nil]
    | cons b rest =>
      have some : 0 < (b :: rest).length := Nat.succ_pos _
      obtain ⟨least, most⟩ := willing.accepts some
      have loop : Sink.writeLoop (fuel + 1) sink (b :: rest) =
          Sink.writeLoop fuel (sink.wrote ((b :: rest).take (sink.accepts (b :: rest).length)))
            ((b :: rest).drop (sink.accepts (b :: rest).length)) := by
        rw [Sink.writeLoop]
        split
        · next none =>
          rw [none] at least
          exact absurd least (Nat.lt_irrefl 0)
        · rfl
        · exact List.cons_ne_nil _ _
      have shorter : ((b :: rest).drop (sink.accepts (b :: rest).length)).length ≤ fuel := by
        rw [List.length_drop]
        omega
      rw [loop, ih (willing.wrote _) shorter, wrote_wrote, List.take_append_drop]

theorem Willing.writeAll (willing : Willing sink) (bytes : Bytes) :
    sink.writeAll bytes = (.ok (), sink.wrote bytes) :=
  willing.writeLoop (Nat.le_refl _)

/-- All packets arrive at a willing sink, one behind the other. -/
theorem Willing.writePackets (willing : Willing sink) (frames : List Bytes) :
    (sink.writePackets frames).1 = frames.map (fun _ => .ok ()) ∧
      (sink.writePackets frames).2.written = sink.written ++ frames.flatten := by
  induction frames generalizing sink with
  | nil => exact ⟨rfl, (List.append_nil _).symm⟩
  | cons frame frames ih =>
    have flushed : Willing (sink.wrote frame).flush := ⟨willing.endless, willing.takes⟩
    obtain ⟨results, written⟩ := ih flushed
    have first : sink.writePacket frame = (.ok (), (sink.wrote frame).flush) := by
      rw [writePacket, willing.writeAll]
    rw [Sink.writePackets, first]
    refine ⟨?_, ?_⟩
    · rw [List.map_cons, ← results]
    · show ((sink.wrote frame).flush.writePackets frames).2.written = _
      rw [written, List.flatten_cons, ← List.append_assoc]
      rfl

end Sink

namespace Handshake

/-- The next bytes of a stream are those that come next in its chunks, wherever they end. -/
theorem readExactly_ofChunks (size : Nat) (chunks : List Bytes) :
    (size ≤ chunks.flatten.length ∧ ∃ left,
        readExactly size (Source.ofChunks chunks) =
          (.ok (chunks.flatten.take size), Source.ofChunks left) ∧
        left.flatten = chunks.flatten.drop size) ∨
      chunks.flatten.length < size ∧
        (readExactly size (Source.ofChunks chunks)).1 = .error .earlyEnd := by
  induction chunks generalizing size with
  | nil =>
    cases size with
    | zero => exact .inl ⟨Nat.le_refl _, [], rfl, rfl⟩
    | succ size => exact .inr ⟨Nat.succ_pos _, rfl⟩
  | cons chunk chunks ih =>
    have next : Source.ofChunks (chunk :: chunks) = .bytes chunk :: Source.ofChunks chunks := rfl
    rw [next, readExactly, List.flatten_cons]
    by_cases none : size = 0
    · subst none
      exact .inl ⟨Nat.zero_le _, chunk :: chunks, rfl, rfl⟩
    · rw [if_neg none]
      dsimp only
      by_cases within : size ≤ chunk.length
      · rw [if_pos within]
        refine .inl ⟨?_, chunk.drop size :: chunks, ?_, ?_⟩
        · rw [List.length_append]
          omega
        · rw [List.take_append_of_le_length within]
          rfl
        · rw [List.drop_append_of_le_length within, List.flatten_cons]
      · rw [if_neg within]
        have used : chunk.length ≤ size := by omega
        obtain ⟨enough, left, read, rest⟩ | ⟨short, read⟩ := ih (size - chunk.length)
        · rw [read]
          refine .inl ⟨?_, left, ?_, ?_⟩
          · rw [List.length_append]
            omega
          · rw [List.take_append, List.take_of_length_le used]
            rfl
          · rw [List.drop_append, List.drop_of_length_le used, List.nil_append, rest]
        · refine .inr ⟨?_, ?_⟩
          · rw [List.length_append]
            omega
          · rw [read]
            rfl

/-- A handshake over a willing sink greets, and succeeds if the greeting comes back. What follows
the greeting is left. -/
theorem run_ofChunks {sink : Sink} (willing : Sink.Willing sink) (chunks : List Bytes) :
    (run (Source.ofChunks chunks) sink).2.2.written = sink.written ++ greeting ∧
      ((run (Source.ofChunks chunks) sink).1 = .ok () ↔ greeting <+: chunks.flatten) ∧
      ((run (Source.ofChunks chunks) sink).1 = .ok () → ∃ left,
        (run (Source.ofChunks chunks) sink).2.1 = Source.ofChunks left ∧
          left.flatten = chunks.flatten.drop greeting.length) := by
  rw [run, willing.writeAll]
  dsimp only
  obtain ⟨enough, left, read, rest⟩ | ⟨short, read⟩ := readExactly_ofChunks greeting.length chunks
  · rw [read]
    dsimp only
    refine ⟨rfl, ?_, fun _ => ⟨left, rfl, rest⟩⟩
    by_cases same : chunks.flatten.take greeting.length = greeting
    · rw [if_pos same]
      exact iff_of_true rfl (same ▸ List.take_prefix _ _)
    · rw [if_neg same]
      refine iff_of_false (by simp) fun begins => same ?_
      exact (List.prefix_iff_eq_take.mp begins).symm
  · have longer : ¬greeting <+: chunks.flatten := fun begins => by
      have := begins.length_le
      omega
    cases result : readExactly greeting.length (Source.ofChunks chunks) with
    | mk answer left =>
      rw [result] at read
      obtain rfl : answer = .error .earlyEnd := read
      exact ⟨rfl, iff_of_false (by simp) longer, by simp⟩

theorem length_greeting : greeting.length = 14 := by decide

end Handshake

namespace FrameReader

theorem framed_of_decode {limit : Nat} {frame : Bytes} (fits : frame.length ≤ limit)
    (read : ∃ packet, Packet.decode frame = .ok packet) : Framed limit frame :=
  ⟨Packet.decode_eq_ok_iff.mp read, fits⟩

/-- What is read of a stream depends on its bytes alone: they are cut at the declared lengths into
packets that can be decoded and that are not longer than the limit, up to a rest which decides how
reading ends. So packets that were written are read as they were written, however many bytes the
sink takes at a time and wherever the chunks end; and a handshake succeeds just on a stream that
begins with the greeting, and leaves what stands behind it. -/
theorem reads_framed (limit : Nat) :
    (∀ stream : Bytes, ∃ (frames : List Bytes) (tail : Bytes) (last : Outcome),
      stream = frames.flatten ++ tail ∧
      (∀ frame ∈ frames, headerLength ≤ frame.length ∧ frame.length ≤ limit ∧
        Packet.declaredLength frame = frame.length ∧ ∃ packet, Packet.decode frame = .ok packet) ∧
      (tail = [] ∨ Inside limit tail ∨ Misfit limit tail) ∧
      (last = .finished ↔ tail = []) ∧
      (last = .failed (.stream .earlyEnd) ↔ Inside limit tail) ∧
      ((∃ fault, last = .failed (.wireFormat fault)) ↔ Misfit limit tail) ∧
      ∀ chunks : List Bytes, chunks.flatten = stream → ∀ calls,
        Outcome.upToEnd (readMany limit calls start (Source.ofChunks chunks)) =
          (frames.map Outcome.frame ++ [last]).take calls) ∧
    (∀ (sink : Sink) (frames : List Bytes), sink.Willing →
      (∀ frame ∈ frames, frame.length ≤ limit ∧ ∃ packet, Packet.decode frame = .ok packet) →
      (sink.writePackets frames).1 = frames.map (fun _ => .ok ()) ∧
      ∃ stream, (sink.writePackets frames).2.written = sink.written ++ stream ∧
        ∀ chunks : List Bytes, chunks.flatten = stream → ∀ calls,
          Outcome.upToEnd (readMany limit calls start (Source.ofChunks chunks)) =
            (frames.map Outcome.frame ++ [Outcome.finished]).take calls) ∧
    ∀ (sink : Sink) (chunks : List Bytes), sink.Willing →
      let shaken := Handshake.run (Source.ofChunks chunks) sink
      shaken.2.2.written = sink.written ++ Handshake.greeting ∧
      (shaken.1 = .ok () ↔ Handshake.greeting <+: chunks.flatten) ∧
      (shaken.1 = .ok () → ∀ behind : List Bytes, behind.flatten = chunks.flatten.drop 14 →
        ∀ calls, Outcome.upToEnd (readMany limit calls start shaken.2.1) =
          Outcome.upToEnd (readMany limit calls start (Source.ofChunks behind))) := by
  refine ⟨fun stream => ?_, fun sink frames willing all => ?_, fun sink chunks willing => ?_⟩
  · obtain ⟨frames, tail, split, all, ending⟩ := exists_cut limit stream
    refine ⟨frames, tail, firstOutcome limit tail, split, fun frame mem => ?_, ?_,
      ending.finished_iff, ending.broken_iff, ending.refused_iff, fun chunks same calls => ?_⟩
    · obtain ⟨whole, fits⟩ := all frame mem
      exact ⟨whole.header, fits, whole.length, Packet.decode_eq_ok_iff.mpr whole⟩
    · exact ending.cases
    · exact upToEnd_readMany all ending (same.trans split) calls
  · obtain ⟨results, written⟩ := willing.writePackets frames
    refine ⟨results, frames.flatten, written, fun chunks same calls => ?_⟩
    have framed : ∀ frame ∈ frames, Framed limit frame := fun frame mem =>
      framed_of_decode (all frame mem).1 (all frame mem).2
    have stream : chunks.flatten = frames.flatten ++ [] := by rw [same, List.append_nil]
    exact upToEnd_readMany framed (.finished rfl) stream calls
  · obtain ⟨written, succeeds, leaves⟩ := Handshake.run_ofChunks willing chunks
    refine ⟨written, succeeds, fun done behind same calls => ?_⟩
    obtain ⟨left, source, rest⟩ := leaves done
    rw [Handshake.length_greeting, ← same] at rest
    obtain ⟨frames, tail, split, all, ending⟩ := exists_cut limit behind.flatten
    calc Outcome.upToEnd (readMany limit calls start _)
        = Outcome.upToEnd (readMany limit calls start (Source.ofChunks left)) := by rw [source]
      _ = (frames.map Outcome.frame ++ [firstOutcome limit tail]).take calls :=
          upToEnd_readMany all ending (rest.trans split) calls
      _ = Outcome.upToEnd (readMany limit calls start (Source.ofChunks behind)) :=
          (upToEnd_readMany all ending split calls).symm

/-- A sink that takes one, two or three bytes at a time. -/
def fitful : Sink :=
  { step := ⟨fun taken => some (taken % 3 + 1)⟩ }

/-- An event packet and a reply. -/
def exchange : List Bytes :=
  [Packet.encode (.command ⟨7, 64, 100, [2]⟩), Packet.encode (.reply ⟨1, 0, []⟩)]

/-- The greeting and the packets, in chunks that end inside the greeting and inside a length. -/
def greeted : List Bytes :=
  [Handshake.greeting.take 9, Handshake.greeting.drop 9 ++ exchange.flatten.take 2, [],
    exchange.flatten.drop 2]

theorem reads_framed_greeted :
    fitful.Willing ∧
      (∀ frame ∈ exchange, frame.length ≤ 64 ∧ ∃ packet, Packet.decode frame = .ok packet) ∧
      (Handshake.run (Source.ofChunks greeted) fitful).1 = .ok () ∧
      Outcome.upToEnd (readMany 64 5 start (Handshake.run (Source.ofChunks greeted) fitful).2.1) =
        exchange.map Outcome.frame ++ [Outcome.finished] := by
  obtain ⟨-, written, handshake⟩ := reads_framed 64
  have willing : fitful.Willing := ⟨rfl, fun taken => by simp [fitful]⟩
  have decodes : ∀ frame ∈ exchange,
      frame.length ≤ 64 ∧ ∃ packet, Packet.decode frame = .ok packet := by
    simp only [exchange, List.forall_mem_cons]
    exact ⟨⟨by decide, _, Packet.decode_encode (by decide)⟩,
      ⟨by decide, _, Packet.decode_encode (by decide)⟩, by simp⟩
  have stream : greeted.flatten = Handshake.greeting ++ exchange.flatten := by decide
  obtain ⟨-, succeeds, leaves⟩ := handshake fitful greeted willing
  have done := succeeds.mpr (stream ▸ List.prefix_append _ _)
  obtain ⟨-, stream', arrived, same⟩ := written fitful exchange willing decodes
  have all : (fitful.writePackets exchange).2.written = exchange.flatten := by decide
  obtain rfl : stream' = exchange.flatten := (arrived.symm.trans all)
  have behind : [exchange.flatten].flatten = greeted.flatten.drop 14 := by decide
  refine ⟨willing, decodes, done, ?_⟩
  calc Outcome.upToEnd (readMany 64 5 start (Handshake.run (Source.ofChunks greeted) fitful).2.1)
      = Outcome.upToEnd (readMany 64 5 start (Source.ofChunks [exchange.flatten])) :=
        leaves done _ behind 5
    _ = (exchange.map Outcome.frame ++ [Outcome.finished]).take 5 :=
        same _ (List.append_nil _) 5
    _ = exchange.map Outcome.frame ++ [Outcome.finished] := List.take_of_length_le (by decide)

end FrameReader

end DebugLink
