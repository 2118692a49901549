import DebugLink.Packet

/-!
# Stream.Source: packets cut out of a byte stream

A stream arrives in chunks. `FrameReader` gathers bytes until a packet is complete: four bytes of
length first, which are checked at once, then as many more as the length asks for. What has been
gathered survives a chunk's end, so the packets do not depend on where the chunks are cut; it does
not survive a fault, after which reading goes on at the next byte.
-/

namespace DebugLink

/-- A piece of a byte stream. -/
inductive Chunk
  | bytes (bytes : Bytes)
  /-- A fault that is met once, at this point of the stream. -/
  | fault (fault : StreamFault)
  /-- The end of the stream, which is never passed. -/
  | finish
  deriving DecidableEq, Repr

/-- A byte stream, as far as it is known. -/
abbrev Source := List Chunk

/-- All bytes of a stream that are still to be read. -/
def Source.remaining (source : Source) : Bytes :=
  source.flatMap fun
    | .bytes bytes => bytes
    | _ => []

/-- What has been gathered of the next packet. Bytes are kept last first. -/
inductive FrameReader
  /-- Fewer than four bytes of length. -/
  | length (gathered : Bytes)
  /-- The length and some of what follows; `missing` bytes are to come. -/
  | body (gathered : Bytes) (missing : Nat)
  deriving DecidableEq, Repr

namespace FrameReader

/-- A reader between two packets. -/
def start : FrameReader := .length []

/-- What one more byte leads to. -/
inductive Advance
  | more (reader : FrameReader)
  | frame (bytes : Bytes)
  | refused (fault : WireFault)
  deriving DecidableEq, Repr

/-- Checks a complete length field, kept last byte first. -/
def checkLength (limit : Nat) (gathered : Bytes) : Advance :=
  let length := Bytes.toNat gathered.reverse
  if length < headerLength then .refused (.lengthBelowHeader length)
  else if length > limit then .refused (.packetTooLarge length limit)
  else .more (.body gathered (length - 4))

/-- Takes one byte in. -/
def advance (limit : Nat) (b : UInt8) : FrameReader → Advance
  | .length gathered =>
    if gathered.length < 3 then .more (.length (b :: gathered))
    else checkLength limit (b :: gathered)
  | .body gathered missing =>
    if missing ≤ 1 then .frame (b :: gathered).reverse
    else .more (.body (b :: gathered) (missing - 1))

/-- What an attempt to read a packet ends with. -/
inductive Outcome
  | frame (bytes : Bytes)
  /-- The stream ended between two packets. -/
  | finished
  | failed (failure : Failure)
  /-- The packet is not complete and no more of the stream is known. -/
  | starved
  deriving DecidableEq, Repr

/-- Takes bytes in until the packet is complete or refused, or the bytes are used up. -/
def consume (limit : Nat) (reader : FrameReader) : Bytes → Advance × Bytes
  | [] => (.more reader, [])
  | b :: rest =>
    match reader.advance limit b with
    | .more reader => reader.consume limit rest
    | other => (other, rest)

/-- Reads on until there is an outcome. The rest of a chunk goes back to the stream. -/
def read (limit : Nat) (reader : FrameReader) : Source → Outcome × FrameReader × Source
  | [] => (.starved, reader, [])
  | .bytes bytes :: rest =>
    match reader.consume limit bytes with
    | (.more reader, _) => reader.read limit rest
    | (.frame frame, left) => (.frame frame, start, .bytes left :: rest)
    | (.refused fault, left) => (.failed (.wireFormat fault), start, .bytes left :: rest)
  | .fault fault :: rest => (.failed (.stream fault), start, rest)
  | .finish :: rest =>
    if reader = start then (.finished, start, .finish :: rest)
    else (.failed (.stream .earlyEnd), start, .finish :: rest)

/-- The outcomes of `calls` attempts in a row. -/
def readMany (limit : Nat) : (calls : Nat) → FrameReader → Source → List Outcome
  | 0, _, _ => []
  | calls + 1, reader, source =>
    let (outcome, reader, source) := reader.read limit source
    outcome :: readMany limit calls reader source

end FrameReader

end DebugLink
