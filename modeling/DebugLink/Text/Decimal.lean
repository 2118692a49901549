/-!
# Text.Decimal: decimal numerals and the range of doubles

A numeral is read as a double in three roundings. The digits make up a significand as long as it
fits 64 bits; digits behind that only count as places. Then the double nearest to the significand
is multiplied with the double nearest to the power of ten, and the product is rounded once more.
Whether that ends in an infinity is decided here in natural numbers: all that can overflow is whole.

Main statement: a significand fits 64 bits (`absorb_lt`).
-/

namespace DebugLink

/-- A significand and the power of ten that it is multiplied with. -/
structure Decimal where
  significand : Nat
  exponent : Int
  deriving DecidableEq, Repr

namespace Decimal

/-- The digit that a character stands for. -/
def digit (c : Char) : Nat :=
  c.toNat - '0'.toNat

/-- The number that decimal digits spell. -/
def value (digits : List Char) : Nat :=
  digits.foldl (fun n c => n * 10 + digit c) 0

/-- Appends digits to a significand as long as it fits 64 bits. The digits behind are left. -/
def absorb (significand : Nat) : List Char → Nat × List Char
  | [] => (significand, [])
  | c :: rest =>
    let longer := significand * 10 + digit c
    if longer < UInt64.size then absorb longer rest else (significand, c :: rest)

theorem absorb_lt {significand : Nat} (h : significand < UInt64.size) (digits : List Char) :
    (absorb significand digits).1 < UInt64.size := by
  induction digits generalizing significand with
  | nil => exact h
  | cons c rest ih =>
    simp only [absorb]
    split
    · next longer => exact ih longer
    · exact h

/-- The numeral with these digits in front of and behind its point. A digit in front that does not
fit moves the point; one behind is dropped. -/
def ofDigits (digits decimals : List Char) (exponent : Int) : Decimal :=
  let (whole, beyond) := absorb 0 digits
  let (significand, dropped) := absorb whole decimals
  { significand
    exponent := exponent + beyond.length - (decimals.length - dropped.length : Nat) }

/-- The number with at most 53 significant bits nearest to `n`. Of two the even one is taken. -/
def nearest (n : Nat) : Nat :=
  let unit := Nat.pow 2 (n.log2 - 52)
  let below := n / unit
  let rest := n % unit
  if 2 * rest < unit ∨ (2 * rest = unit ∧ below % 2 = 0) then below * unit
  else (below + 1) * unit

/-- The least number that rounds to infinity: half a unit above the largest double. -/
def overflow : Nat :=
  Nat.pow 2 1024 - Nat.pow 2 970

/-- Whether the numeral is read as a finite double. Powers above `10 ^ 308` are not doubles. -/
def isFinite (decimal : Decimal) : Bool :=
  decimal.significand = 0 ∨ decimal.exponent < 0 ∨ (decimal.exponent ≤ 308 ∧
    nearest decimal.significand * nearest (Nat.pow 10 decimal.exponent.toNat) < overflow)

end Decimal

end DebugLink
