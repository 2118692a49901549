import DebugLink.Packet

/-!
# Stream.Sink: packets written to a byte stream

A sink takes at most `step` bytes at a time, which may change as it goes on, and `limit` bytes in
all, and then takes none. Writing a packet hands over what is left of it until nothing is left, and
flushes once; a sink that takes no byte of a non-empty rest has failed.
-/

namespace DebugLink

/-- The most bytes that are taken at a time, by how many were taken before; no bound where
absent. -/
structure Pace where
  bound : Nat → Option Nat

/-- A pace that does not change. -/
def Pace.steady (bound : Option Nat) : Pace :=
  ⟨fun _ => bound⟩

instance : Coe (Option Nat) Pace := ⟨Pace.steady⟩

/-- The receiving end of a byte stream, with a record of what was done to it. -/
structure Sink where
  step : Pace := .steady none
  /-- The most bytes taken in all; no bound if absent. -/
  limit : Option Nat := none
  written : Bytes := []
  flushes : Nat := 0
  shutdowns : Nat := 0

namespace Sink

/-- How many of `size` offered bytes the sink takes. -/
def accepts (sink : Sink) (size : Nat) : Nat :=
  let room := sink.limit.elim size fun limit => min size (limit - sink.written.length)
  (sink.step.bound sink.written.length).elim room (min room)

/-- Hands over bytes until none are left, `fuel` times at most. -/
def writeLoop : (fuel : Nat) → Sink → Bytes → Except StreamFault Unit × Sink
  | _, sink, [] => (.ok (), sink)
  | 0, sink, _ => (.error .sinkFull, sink)
  | fuel + 1, sink, bytes =>
    match sink.accepts bytes.length with
    | 0 => (.error .sinkFull, sink)
    | taken =>
      writeLoop fuel { sink with written := sink.written ++ bytes.take taken } (bytes.drop taken)

/-- Writes all bytes. Each time at least one is taken, so there are no more times than bytes. -/
def writeAll (sink : Sink) (bytes : Bytes) : Except StreamFault Unit × Sink :=
  writeLoop bytes.length sink bytes

def flush (sink : Sink) : Sink :=
  { sink with flushes := sink.flushes + 1 }

/-- Writes one packet and flushes it. -/
def writePacket (sink : Sink) (frame : Bytes) : Except StreamFault Unit × Sink :=
  match sink.writeAll frame with
  | (.ok (), sink) => (.ok (), sink.flush)
  | failed => failed

/-- Writes packets one after the other, whatever becomes of each. -/
def writePackets (sink : Sink) : List Bytes → List (Except StreamFault Unit) × Sink
  | [] => ([], sink)
  | frame :: rest =>
    let (result, sink) := sink.writePacket frame
    let (results, sink) := sink.writePackets rest
    (result :: results, sink)

/-- Shuts the stream down. -/
def close (sink : Sink) : Sink :=
  { sink with shutdowns := sink.shutdowns + 1 }

end Sink

end DebugLink
