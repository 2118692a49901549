import DebugLink.Stream.Source
import DebugLink.Stream.Sink

/-!
# Stream.Handshake: the exchange that opens a stream

Each side sends the same fourteen bytes before the first packet. The stream is good if the bytes
that come back are those that were sent; whatever follows them belongs to the packets.
-/

namespace DebugLink.Handshake

/-- The bytes that open a stream. -/
def greeting : Bytes :=
  Utf8.encode "JDWP-Handshake".toList

/-- The next `size` bytes of a stream and the stream behind them. -/
def readExactly (size : Nat) : Source → Except StreamFault Bytes × Source
  | [] => (if size = 0 then .ok [] else .error .earlyEnd, [])
  | chunk :: rest =>
    if size = 0 then (.ok [], chunk :: rest)
    else match chunk with
      | .finish => (.error .earlyEnd, chunk :: rest)
      | .fault fault => (.error fault, rest)
      | .bytes bytes =>
        if size ≤ bytes.length then (.ok (bytes.take size), .bytes (bytes.drop size) :: rest)
        else
          let (result, left) := readExactly (size - bytes.length) rest
          (result.map (bytes ++ ·), left)

/-- Greets the other side and checks its greeting. -/
def run (source : Source) (sink : Sink) : Except Failure Unit × Source × Sink :=
  match sink.writeAll greeting with
  | (.error fault, sink) => (.error (.stream fault), source, sink)
  | (.ok (), sink) =>
    let sink := sink.flush
    match readExactly greeting.length source with
    | (.error fault, source) => (.error (.stream fault), source, sink)
    | (.ok answer, source) =>
      (if answer = greeting then .ok () else .error .invalidHandshake, source, sink)

end DebugLink.Handshake
