/-!
# Bytes: byte sequences and the numbers they spell

Every multi-byte number on the wire is big-endian. `Bytes.toNat` reads a sequence of any length
as one number, most significant byte first, and `Bytes.ofNat` writes a number at a given width,
dropping what does not fit. `Bytes.place` is what a byte counts by the number of bytes behind it.

Main statements: a number written at a width is that wide (`length_ofNat`) and reads back modulo
`place width` (`toNat_ofNat`); a sequence read and written again at its own length is unchanged
(`ofNat_toNat`).
-/

namespace DebugLink

/-- A sequence of bytes, first byte first. -/
abbrev Bytes := List UInt8

namespace Bytes

/-- What a byte counts with so many bytes behind it. -/
def place : Nat → Nat
  | 0 => 1
  | behind + 1 => place behind * 256

/-- The number a byte sequence spells, most significant byte first. -/
def toNat (bytes : Bytes) : Nat :=
  bytes.foldl (fun n b => n * 256 + b.toNat) 0

/-- The `width` lowest base-256 digits of `n`, most significant first. -/
def ofNat : (width n : Nat) → Bytes
  | 0, _ => []
  | width + 1, n => UInt8.ofNat (n / place width) :: ofNat width n

theorem place_pos (behind : Nat) : 0 < place behind := by
  induction behind with
  | zero => decide
  | succ behind ih => exact Nat.mul_pos ih (by decide)

@[simp]
theorem length_ofNat (width n : Nat) : (ofNat width n).length = width := by
  induction width with
  | zero => rfl
  | succ width ih => simp [ofNat, ih]

theorem foldl_digits (bytes : Bytes) (start : Nat) :
    bytes.foldl (fun n b => n * 256 + b.toNat) start
      = start * place bytes.length + toNat bytes := by
  induction bytes generalizing start with
  | nil => simp [toNat, place]
  | cons b rest ih =>
    simp only [toNat, List.foldl_cons, List.length_cons, place]
    rw [ih, ih (0 * 256 + b.toNat), Nat.add_mul, Nat.zero_mul, Nat.zero_add, Nat.mul_assoc,
      Nat.mul_comm 256, Nat.add_assoc]

/-- The first byte counts what its place says. -/
theorem toNat_cons (b : UInt8) (rest : Bytes) :
    toNat (b :: rest) = b.toNat * place rest.length + toNat rest := by
  rw [toNat, List.foldl_cons, foldl_digits]; simp

theorem toNat_lt (bytes : Bytes) : toNat bytes < place bytes.length := by
  induction bytes with
  | nil => simp [toNat, place]
  | cons b rest ih =>
    have hb : b.toNat + 1 ≤ 256 := b.toNat_lt
    have := Nat.mul_le_mul_right (place rest.length) hb
    rw [toNat_cons, List.length_cons, place, Nat.mul_comm (place rest.length)]
    rw [Nat.add_mul] at this
    omega

/-- A number written at a width reads back modulo that width. -/
theorem toNat_ofNat (width n : Nat) : toNat (ofNat width n) = n % place width := by
  induction width with
  | zero => simp [ofNat, toNat, place, Nat.mod_one]
  | succ width ih =>
    have hdigit : n % place (width + 1)
        = n % place width + place width * (n / place width % 256) := Nat.mod_mul
    rw [ofNat, toNat_cons, ih, length_ofNat, UInt8.toNat_ofNat', hdigit, Nat.add_comm,
      Nat.mul_comm (place width)]

/-- A sequence is the only one of its length that spells its number. -/
theorem ofNat_toNat (bytes : Bytes) : ofNat bytes.length (toNat bytes) = bytes := by
  suffices h : ∀ (bytes : Bytes) (high : Nat),
      ofNat bytes.length (high * place bytes.length + toNat bytes) = bytes by
    simpa using h bytes 0
  intro bytes
  induction bytes with
  | nil => intro; rfl
  | cons b rest ih =>
    intro high
    have hlt := toNat_lt rest
    have hsplit : high * (place rest.length * 256) + (b.toNat * place rest.length + toNat rest)
        = (high * 256 + b.toNat) * place rest.length + toNat rest := by
      rw [Nat.add_mul, Nat.mul_assoc, Nat.mul_comm 256, Nat.add_assoc]
    rw [toNat_cons, List.length_cons, place, hsplit, ofNat, ih]
    congr 1
    rw [Nat.add_comm, Nat.add_mul_div_right _ _ (place_pos _), Nat.div_eq_of_lt hlt]
    apply UInt8.toNat_inj.1
    have := b.toNat_lt
    rw [UInt8.toNat_ofNat']
    omega

end Bytes

end DebugLink
