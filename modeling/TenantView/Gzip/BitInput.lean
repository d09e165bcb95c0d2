import TenantView.Text.Bytes

/-!
# Bits of a byte sequence

Compressed data is a sequence of bits, which are taken from the bytes lowest bit first.  Numbers
are written lowest bit first as well.
-/

namespace TenantView.Gzip

/-- The bits of a byte, the lowest first. -/
def byteBits (b : UInt8) : List Bool :=
  (List.range 8).map b.toNat.testBit

theorem length_byteBits (b : UInt8) : (byteBits b).length = 8 := by
  rw [byteBits, List.length_map, List.length_range]

/-- The bits that are left: the rest of the current byte, which has been begun, and the bytes behind
it. -/
structure BitInput where
  current : List Bool
  bytes : Bytes
  length_lt : current.length < 8

namespace BitInput

/-- All bits of a byte sequence. -/
def ofBytes (bytes : Bytes) : BitInput where
  current := []
  bytes
  length_lt := Nat.succ_pos 7

/-- Takes one bit. -/
def next : BitInput → Option (Bool × BitInput)
  | ⟨bit :: current, bytes, h⟩ => some (bit, ⟨current, bytes, Nat.lt_of_succ_lt h⟩)
  | ⟨[], [], _⟩ => none
  | ⟨[], b :: bytes, _⟩ =>
    some (b.toNat.testBit 0, ⟨(byteBits b).drop 1, bytes, by simp [length_byteBits]⟩)

/-- Takes a number of the given number of bits. -/
def number : (count : Nat) → BitInput → Option (Nat × BitInput)
  | 0, input => some (0, input)
  | count + 1, input => do
    let (bit, input) ← input.next
    let (value, input) ← number count input
    return (2 * value + bit.toNat, input)

/-- The bytes behind the current one. -/
def dropCurrent (input : BitInput) : BitInput :=
  .ofBytes input.bytes

end BitInput

end TenantView.Gzip
