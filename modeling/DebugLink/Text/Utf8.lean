import DebugLink.Bytes

/-!
# Text.Utf8: strict UTF-8 over byte sequences

`encode` writes characters as bytes. `decode` reads bytes back and refuses everything `encode`
cannot have written: overlong forms, surrogates, numbers above the last character, stray
continuation bytes. A refusal says where the longest valid beginning ends and how many bytes of
the broken sequence could still have been right, or that the input stopped in the middle of a
sequence that was right so far.

The strictness is all in the table `Lead.of?`: what a first byte allows the byte after it to be.
-/

namespace DebugLink.Utf8

/-- Why a byte sequence is no UTF-8 text. `start` counts the bytes of its longest valid
beginning. -/
inductive Fault
  /-- The sequence at `start` is wrong; its first `length` bytes could have begun a right one. -/
  | broken (length start : Nat)
  /-- The input ends inside the sequence at `start`. -/
  | incomplete (start : Nat)
  deriving DecidableEq, Repr

/-- The wording of a fault. -/
def Fault.message : Fault → String
  | .broken length start => s!"invalid utf-8 sequence of {length} bytes from index {start}"
  | .incomplete start => s!"incomplete utf-8 byte sequence from index {start}"

/-- A sequence that has begun: the number spelled so far, how many bytes it has and still needs,
and the range the next byte has to be in. -/
structure Lead where
  value : Nat
  seen : Nat
  missing : Nat
  low : Nat
  high : Nat
  deriving DecidableEq, Repr

/-- What a first byte begins, or `none` if no sequence begins with it. The narrowed ranges behind
`E0`, `ED`, `F0` and `F4` leave out overlong forms, surrogates and numbers that are too large. -/
def Lead.of? (b : UInt8) : Option Lead :=
  let n := b.toNat
  if n < 0x80 then some ⟨n, 1, 0, 0x80, 0xBF⟩
  else if n < 0xC2 then none
  else if n < 0xE0 then some ⟨n - 0xC0, 1, 1, 0x80, 0xBF⟩
  else if n = 0xE0 then some ⟨0, 1, 2, 0xA0, 0xBF⟩
  else if n = 0xED then some ⟨0xD, 1, 2, 0x80, 0x9F⟩
  else if n < 0xF0 then some ⟨n - 0xE0, 1, 2, 0x80, 0xBF⟩
  else if n = 0xF0 then some ⟨0, 1, 3, 0x90, 0xBF⟩
  else if n < 0xF4 then some ⟨n - 0xF0, 1, 3, 0x80, 0xBF⟩
  else if n = 0xF4 then some ⟨4, 1, 3, 0x80, 0x8F⟩
  else none

/-- The sequence with one more byte, or `none` if the byte is out of range. Only the second byte's
range is ever narrowed. -/
def Lead.continue? (lead : Lead) (b : UInt8) : Option Lead :=
  if lead.low ≤ b.toNat ∧ b.toNat ≤ lead.high then
    some ⟨lead.value * 64 + (b.toNat - 0x80), lead.seen + 1, lead.missing - 1, 0x80, 0xBF⟩
  else none

/-- The sequence after one more byte, which either continues the one under way or begins one. -/
def Lead.step? (open? : Option Lead) (b : UInt8) : Option Lead :=
  match open? with
  | none => Lead.of? b
  | some lead => lead.continue? b

/-- Reads characters from byte number `start` on, where `open?` is the sequence that is under way
and began at `start`. A sequence that misses no byte is a character. -/
def decodeFrom (start : Nat) (open? : Option Lead) : Bytes → Except Fault (List Char)
  | [] => if open?.isSome then .error (.incomplete start) else .ok []
  | b :: rest =>
    match Lead.step? open? b with
    | none => .error (.broken (open?.elim 1 Lead.seen) start)
    | some lead =>
      if lead.missing = 0 then
        (Char.ofNat lead.value :: ·) <$> decodeFrom (start + lead.seen) none rest
      else decodeFrom start (some lead) rest

/-- The characters a byte sequence spells. -/
def decode (bytes : Bytes) : Except Fault (List Char) :=
  decodeFrom 0 none bytes

/-- The bytes of one character: one to four, by the size of its number. -/
def encodeChar (c : Char) : Bytes :=
  let n := c.toNat
  let more (unit : Nat) : UInt8 := UInt8.ofNat (0x80 + n / unit % 64)
  if n < 0x80 then [UInt8.ofNat n]
  else if n < 0x800 then [UInt8.ofNat (0xC0 + n / 64), more 1]
  else if n < 0x10000 then [UInt8.ofNat (0xE0 + n / 4096), more 64, more 1]
  else [UInt8.ofNat (0xF0 + n / 262144), more 4096, more 64, more 1]

/-- The bytes of a character sequence. -/
def encode (text : List Char) : Bytes :=
  text.flatMap encodeChar

end DebugLink.Utf8
