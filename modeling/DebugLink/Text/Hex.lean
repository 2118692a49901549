import DebugLink.Bytes

/-!
# Text.Hex: bytes as hexadecimal text

Two lower-case digits a byte, nothing in between. `digits` pads a number with zeros on the left.
-/

namespace DebugLink.Hex

/-- The lower-case hexadecimal digit of a number below sixteen. -/
def digit (n : Nat) : Char :=
  Char.ofNat (if n < 10 then '0'.toNat + n else 'a'.toNat + (n - 10))

/-- The hexadecimal digits of `n`, at least `width` of them. -/
def digits (width n : Nat) : String :=
  let text := String.ofList (Nat.toDigits 16 n)
  String.ofList (List.replicate (width - text.length) '0') ++ text

/-- The two digits of a byte. -/
def byte (b : UInt8) : List Char :=
  [digit (b.toNat / 16), digit (b.toNat % 16)]

/-- All bytes as digits. -/
def encode (bytes : Bytes) : String :=
  String.ofList (bytes.flatMap byte)

/-- The value of a digit of either case. -/
def value? (c : Char) : Option Nat :=
  if '0' ≤ c ∧ c ≤ '9' then some (c.toNat - '0'.toNat)
  else if 'a' ≤ c ∧ c ≤ 'f' then some (c.toNat - 'a'.toNat + 10)
  else if 'A' ≤ c ∧ c ≤ 'F' then some (c.toNat - 'A'.toNat + 10)
  else none

/-- The bytes that pairs of digits spell. -/
def decodeDigits? : List Char → Option Bytes
  | [] => some []
  | [_] => none
  | high :: low :: rest => do
    let byte := (← value? high) * 16 + (← value? low)
    return UInt8.ofNat byte :: (← decodeDigits? rest)

/-- The bytes a hexadecimal text spells, or `none` if it spells none. -/
def decode? (text : String) : Option Bytes :=
  decodeDigits? text.toList

end DebugLink.Hex
