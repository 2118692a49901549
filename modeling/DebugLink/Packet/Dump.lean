import DebugLink.Text.Hex

/-!
# Packet.Dump: packets as rows of hexadecimal digits, for traces

Each row shows the offset of its first byte and up to sixteen bytes.
-/

namespace DebugLink

/-- The number of bytes in a row. -/
def dumpWidth : Nat := 16

/-- One row: its offset, then its bytes. -/
def dumpRow (offset : Nat) (row : Bytes) : String :=
  Hex.digits 4 offset ++ ": " ++ " ".intercalate (row.map fun b => String.ofList (Hex.byte b))

/-- The rows of `bytes`, of which the first begins at `offset`; at most `rows` of them. -/
def dumpRows : (rows offset : Nat) → Bytes → List String
  | 0, _, _ => []
  | _, _, [] => []
  | rows + 1, offset, bytes =>
    dumpRow offset (bytes.take dumpWidth) ::
      dumpRows rows (offset + dumpWidth) (bytes.drop dumpWidth)

/-- All rows of a byte sequence. -/
def dump (bytes : Bytes) : List String :=
  dumpRows bytes.length 0 bytes

end DebugLink
