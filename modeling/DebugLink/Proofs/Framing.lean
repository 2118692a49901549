import DebugLink.Proofs.Codec
import DebugLink.Stream.Source

/-!
# Framing: a byte stream is cut at its length fields

A stream is known chunk by chunk, but what a reader makes of it is decided by the bytes alone: to
take in two chunks is to take in the one and then the other (`consume_append`), so an attempt to
read a packet gives what it would give if the stream were one chunk (`read_ofChunks`).

So there is a plain way to say what is read. A stream is packets that declare their own lengths,
one behind the other (`Framed`), and a rest that begins with none. What the rest is decides how
reading ends (`Ending`).

Main statements: `exists_cut`, that every stream is cut like this, and `upToEnd_readMany`, that the
packets and the ending are what is read, wherever the chunks end.
-/

namespace DebugLink

/-- A stream that is known to its end, in chunks. -/
def Source.ofChunks (chunks : List Bytes) : Source :=
  chunks.map .bytes ++ [.finish]

namespace FrameReader

variable {limit : Nat}

/-- The outcomes up to the first that is no packet. -/
def Outcome.upToEnd : List Outcome → List Outcome
  | [] => []
  | .frame bytes :: rest => .frame bytes :: upToEnd rest
  | last :: _ => [last]

/-! ## One attempt -/

/-- The bytes of two chunks are taken in one after the other. -/
theorem consume_append (reader : FrameReader) (first second : Bytes) :
    reader.consume limit (first ++ second) =
      match reader.consume limit first with
      | (.more reader, _) => reader.consume limit second
      | (other, left) => (other, left ++ second) := by
  induction first generalizing reader with
  | nil => rfl
  | cons b first ih =>
    simp only [List.cons_append, consume]
    cases reader.advance limit b with
    | more reader => exact ih reader
    | frame bytes => rfl
    | refused fault => rfl

/-- What an attempt gives if the stream ends behind the bytes that were taken in. -/
def Advance.outcome : Advance → Outcome
  | .more reader => if reader = start then .finished else .failed (.stream .earlyEnd)
  | .frame bytes => .frame bytes
  | .refused fault => .failed (.wireFormat fault)

/-- What an attempt gives depends on the bytes of the chunks, not on where they end, and so do the
bytes that it leaves. -/
theorem read_ofChunks (limit : Nat) (reader : FrameReader) (chunks : List Bytes) :
    ∃ left, reader.read limit (Source.ofChunks chunks) =
        ((reader.consume limit chunks.flatten).1.outcome, start, Source.ofChunks left) ∧
      left.flatten = (reader.consume limit chunks.flatten).2 := by
  induction chunks generalizing reader with
  | nil =>
    refine ⟨[], ?_, rfl⟩
    show reader.read limit [.finish] = _
    simp only [read, consume, List.flatten_nil, Advance.outcome]
    split <;> rfl
  | cons chunk chunks ih =>
    have next : Source.ofChunks (chunk :: chunks) = .bytes chunk :: Source.ofChunks chunks := rfl
    rw [next, read, List.flatten_cons, consume_append]
    cases taken : reader.consume limit chunk with
    | mk advance left =>
      cases advance with
      | more reader => exact ih reader
      | frame bytes => exact ⟨left :: chunks, rfl, rfl⟩
      | refused fault => exact ⟨left :: chunks, rfl, rfl⟩

/-! ## What is taken in -/

theorem consume_body (gathered bytes : Bytes) {missing : Nat} (some : 0 < missing) :
    (FrameReader.body gathered missing).consume limit bytes =
      if bytes.length < missing then
        (.more (.body (bytes.reverse ++ gathered) (missing - bytes.length)), [])
      else (.frame (gathered.reverse ++ bytes.take missing), bytes.drop missing) := by
  induction bytes generalizing gathered missing with
  | nil =>
    rw [if_pos (by simpa using some)]
    rfl
  | cons b bytes ih =>
    rw [consume, advance]
    by_cases last : missing ≤ 1
    · obtain rfl : missing = 1 := by omega
      rw [if_pos last, if_neg (by simp)]
      simp
    · rw [if_neg last]
      dsimp only
      rw [ih (b :: gathered) (by omega), List.length_cons]
      by_cases short : bytes.length < missing - 1
      · rw [if_pos short, if_pos (by omega)]
        simp [Nat.sub_sub, Nat.add_comm]
      · obtain ⟨before, rfl⟩ : ∃ before, missing = before + 1 := ⟨missing - 1, by omega⟩
        rw [if_neg short, if_neg (by omega)]
        simp

/-- What is taken in between two packets: less than a length field, or a length field that is
checked, and then as much of the packet as there is. -/
theorem consume_start (bytes : Bytes) :
    start.consume limit bytes =
      if bytes.length < 4 then (.more (.length bytes.reverse), [])
      else if Packet.declaredLength bytes < headerLength then
        (.refused (.lengthBelowHeader (Packet.declaredLength bytes)), bytes.drop 4)
      else if Packet.declaredLength bytes > limit then
        (.refused (.packetTooLarge (Packet.declaredLength bytes) limit), bytes.drop 4)
      else if bytes.length < Packet.declaredLength bytes then
        (.more (.body bytes.reverse (Packet.declaredLength bytes - bytes.length)), [])
      else
        (.frame (bytes.take (Packet.declaredLength bytes)),
          bytes.drop (Packet.declaredLength bytes)) := by
  match bytes with
  | [] => rfl
  | [a] => rfl
  | [a, b] => rfl
  | [a, b, c] => rfl
  | a :: b :: c :: d :: rest =>
    have field : start.consume limit (a :: b :: c :: d :: rest) =
        (FrameReader.length [c, b, a]).consume limit (d :: rest) := rfl
    have length : (a :: b :: c :: d :: rest).length = 4 + rest.length := by simp; omega
    have check : (FrameReader.length [c, b, a]).advance limit d =
        if Packet.declaredLength (a :: b :: c :: d :: rest) < headerLength then
          .refused (.lengthBelowHeader (Packet.declaredLength (a :: b :: c :: d :: rest)))
        else if Packet.declaredLength (a :: b :: c :: d :: rest) > limit then
          .refused (.packetTooLarge (Packet.declaredLength (a :: b :: c :: d :: rest)) limit)
        else .more (.body [d, c, b, a] (Packet.declaredLength (a :: b :: c :: d :: rest) - 4)) :=
      rfl
    rw [field, consume, check, length, if_neg (show ¬4 + rest.length < 4 by omega)]
    generalize Packet.declaredLength (a :: b :: c :: d :: rest) = size
    by_cases below : size < headerLength
    · rw [if_pos below, if_pos below]
      rfl
    · rw [if_neg below, if_neg below]
      by_cases above : size > limit
      · rw [if_pos above, if_pos above]
        rfl
      · have some : 0 < size - 4 := by
          simp only [headerLength] at below
          omega
        obtain ⟨behind, rfl⟩ : ∃ behind, size = behind + 4 := ⟨size - 4, by omega⟩
        rw [if_neg above, if_neg above]
        dsimp only
        rw [consume_body _ _ some, Nat.add_sub_cancel]
        by_cases short : rest.length < behind
        · rw [if_pos short, if_pos (by omega)]
          simp [Nat.add_comm 4, Nat.add_sub_add_right]
        · rw [if_neg short, if_neg (by omega)]
          simp

/-! ## The whole stream -/

/-- A packet that is as long as it says, and not longer than a reader takes. -/
structure Framed (limit : Nat) (frame : Bytes) : Prop where
  whole : Packet.Whole frame
  fits : frame.length ≤ limit

/-- A stream ends inside a length field, or inside a packet that a reader would take. -/
def Inside (limit : Nat) (tail : Bytes) : Prop :=
  tail ≠ [] ∧ (tail.length < 4 ∨
    headerLength ≤ Packet.declaredLength tail ∧ Packet.declaredLength tail ≤ limit ∧
      tail.length < Packet.declaredLength tail)

/-- The next length field of a stream is complete, and no reader would take such a packet. -/
def Misfit (limit : Nat) (tail : Bytes) : Prop :=
  4 ≤ tail.length ∧
    (Packet.declaredLength tail < headerLength ∨ limit < Packet.declaredLength tail)

/-- What comes of reading on where no packet begins. -/
inductive Ending (limit : Nat) (tail : Bytes) : Outcome → Prop
  | finished (none : tail = []) : Ending limit tail .finished
  | broken (inside : Inside limit tail) : Ending limit tail (.failed (.stream .earlyEnd))
  | refused (misfit : Misfit limit tail) (fault : WireFault) :
    Ending limit tail (.failed (.wireFormat fault))

theorem not_misfit_of_inside {tail : Bytes} (inside : Inside limit tail) : ¬Misfit limit tail := by
  rintro ⟨field, misfit⟩
  obtain ⟨-, short | ⟨least, most, -⟩⟩ := inside
  · omega
  · omega

theorem not_misfit_nil : ¬Misfit limit [] :=
  fun ⟨field, _⟩ => absurd field (by simp)

namespace Ending

variable {tail : Bytes} {last : Outcome}

theorem cases (ending : Ending limit tail last) :
    tail = [] ∨ Inside limit tail ∨ Misfit limit tail := by
  cases ending with
  | finished none => exact .inl none
  | broken inside => exact .inr (.inl inside)
  | refused misfit fault => exact .inr (.inr misfit)

theorem finished_iff (ending : Ending limit tail last) : last = .finished ↔ tail = [] := by
  cases ending with
  | finished none => exact iff_of_true rfl none
  | broken inside => exact iff_of_false (by simp) inside.1
  | refused misfit fault =>
    refine iff_of_false (by simp) ?_
    rintro rfl
    exact not_misfit_nil misfit

theorem broken_iff (ending : Ending limit tail last) :
    last = .failed (.stream .earlyEnd) ↔ Inside limit tail := by
  cases ending with
  | finished none => exact iff_of_false (by simp) fun inside => inside.1 none
  | broken inside => exact iff_of_true rfl inside
  | refused misfit fault =>
    exact iff_of_false (by simp) fun inside => not_misfit_of_inside inside misfit

theorem refused_iff (ending : Ending limit tail last) :
    (∃ fault, last = .failed (.wireFormat fault)) ↔ Misfit limit tail := by
  cases ending with
  | finished none =>
    subst none
    exact iff_of_false (by simp) not_misfit_nil
  | broken inside => exact iff_of_false (by simp) (not_misfit_of_inside inside)
  | refused misfit fault => exact iff_of_true ⟨fault, rfl⟩ misfit

theorem upToEnd_eq (ending : Ending limit tail last) (rest : List Outcome) :
    Outcome.upToEnd (last :: rest) = [last] := by
  cases ending <;> rfl

end Ending

theorem consume_framed {frame : Bytes} (framed : Framed limit frame) (rest : Bytes) :
    start.consume limit (frame ++ rest) = (.frame frame, rest) := by
  have header := framed.whole.header
  have fits := framed.fits
  have four : 4 ≤ frame.length := Nat.le_trans (by decide) header
  have declared : Packet.declaredLength (frame ++ rest) = frame.length := by
    rw [Packet.declaredLength, List.take_append_of_le_length four]
    exact framed.whole.length
  rw [consume_start, declared, if_neg (by rw [List.length_append]; omega), if_neg (by omega),
    if_neg (by omega), if_neg (by rw [List.length_append]; omega), List.take_left, List.drop_left]

/-- What an attempt gives that finds `bytes` before the end of the stream. -/
def firstOutcome (limit : Nat) (bytes : Bytes) : Outcome :=
  (start.consume limit bytes).1.outcome

/-- A packet begins a stream, or none does and reading ends. -/
theorem framed_or_ending (limit : Nat) (stream : Bytes) :
    (∃ frame rest, Framed limit frame ∧ stream = frame ++ rest) ∨
      Ending limit stream (firstOutcome limit stream) := by
  rw [firstOutcome, consume_start]
  by_cases short : stream.length < 4
  · rw [if_pos short]
    by_cases none : stream = []
    · subst none
      exact .inr (.finished rfl)
    · have ending : Ending limit stream (.failed (.stream .earlyEnd)) :=
        .broken ⟨none, .inl short⟩
      have outcome : (Advance.more (.length stream.reverse)).outcome =
          .failed (.stream .earlyEnd) := if_neg (by simpa [start] using none)
      exact .inr (outcome ▸ ending)
  · have some : stream ≠ [] := by
      rintro rfl
      exact short (by decide)
    have field : 4 ≤ stream.length := Nat.le_of_not_lt short
    rw [if_neg short]
    by_cases below : Packet.declaredLength stream < headerLength
    · rw [if_pos below]
      exact .inr (.refused ⟨field, .inl below⟩ _)
    · rw [if_neg below]
      by_cases above : Packet.declaredLength stream > limit
      · rw [if_pos above]
        exact .inr (.refused ⟨field, .inr above⟩ _)
      · have least : headerLength ≤ Packet.declaredLength stream := Nat.le_of_not_lt below
        have most : Packet.declaredLength stream ≤ limit := Nat.le_of_not_lt above
        rw [if_neg above]
        by_cases part : stream.length < Packet.declaredLength stream
        · rw [if_pos part]
          exact .inr (.broken ⟨some, .inr ⟨least, most, part⟩⟩)
        · have split := (List.take_append_drop (Packet.declaredLength stream) stream).symm
          have length : (stream.take (Packet.declaredLength stream)).length =
              Packet.declaredLength stream := by
            rw [List.length_take]
            omega
          have declared : Packet.declaredLength (stream.take (Packet.declaredLength stream)) =
              Packet.declaredLength stream := by
            rw [Packet.declaredLength, List.take_take, Nat.min_eq_left]
            · rfl
            · exact Nat.le_trans (by decide) least
          refine .inl ⟨_, _, ⟨⟨?_, ?_⟩, ?_⟩, split⟩
          · rw [length]
            exact least
          · rw [declared, length]
          · rw [length]
            exact most

/-- Every stream is packets, one behind the other, and a rest that begins with none. -/
theorem exists_cut (limit : Nat) (stream : Bytes) :
    ∃ (frames : List Bytes) (tail : Bytes), stream = frames.flatten ++ tail ∧
      (∀ frame ∈ frames, Framed limit frame) ∧ Ending limit tail (firstOutcome limit tail) := by
  obtain ⟨frame, rest, framed, split⟩ | ending := framed_or_ending limit stream
  · have shorter : rest.length < stream.length := by
      have header := framed.whole.header
      rw [split, List.length_append]
      simp only [headerLength] at header
      omega
    obtain ⟨frames, tail, rfl, all, ending⟩ := exists_cut limit rest
    refine ⟨frame :: frames, tail, ?_, List.forall_mem_cons.mpr ⟨framed, all⟩, ending⟩
    rw [split, List.flatten_cons, List.append_assoc]
  · exact ⟨[], stream, rfl, by simp, ending⟩
termination_by stream.length

/-- The packets and the ending are what is read, one attempt after the other. -/
theorem upToEnd_readMany {frames : List Bytes} {tail : Bytes}
    (all : ∀ frame ∈ frames, Framed limit frame)
    (ending : Ending limit tail (firstOutcome limit tail)) {chunks : List Bytes}
    (stream : chunks.flatten = frames.flatten ++ tail) (calls : Nat) :
    Outcome.upToEnd (readMany limit calls start (Source.ofChunks chunks)) =
      (frames.map Outcome.frame ++ [firstOutcome limit tail]).take calls := by
  induction frames generalizing chunks calls with
  | nil =>
    cases calls with
    | zero => rfl
    | succ calls =>
      obtain ⟨left, read, -⟩ := read_ofChunks limit start chunks
      rw [List.flatten_nil, List.nil_append] at stream
      rw [stream, ← firstOutcome] at read
      rw [readMany, read, List.map_nil, List.nil_append, List.take_succ_cons, List.take_nil]
      exact ending.upToEnd_eq _
  | cons frame frames ih =>
    obtain ⟨framed, all⟩ := List.forall_mem_cons.mp all
    cases calls with
    | zero => rfl
    | succ calls =>
      obtain ⟨left, read, rest⟩ := read_ofChunks limit start chunks
      rw [List.flatten_cons, List.append_assoc] at stream
      rw [stream, consume_framed framed] at read rest
      rw [readMany, read]
      exact congrArg _ (ih all rest calls)

end FrameReader

end DebugLink
