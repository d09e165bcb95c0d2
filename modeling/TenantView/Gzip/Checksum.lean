import TenantView.Text.Bytes

/-!
# Checksums

The cyclic redundancy check of 32 bits, with bits in reflected order: a byte is added to the
lowest bits, and eight times the remainder is shifted out by one bit and corrected by the
generator polynomial.
-/

namespace TenantView.Gzip

/-- The generator polynomial, its highest bits first. -/
def generator : UInt32 := 0xedb88320

/-- The remainder after one more bit. -/
def checksumBit (remainder : UInt32) : UInt32 :=
  if remainder &&& 1 = 0 then remainder >>> 1 else (remainder >>> 1) ^^^ generator

/-- The remainder after one more byte. -/
def checksumByte (remainder : UInt32) (b : UInt8) : UInt32 :=
  Nat.repeat checksumBit 8 (remainder ^^^ b.toUInt32)

/-- The checksum of a sequence of bytes. -/
def checksum (bytes : Bytes) : UInt32 :=
  bytes.foldl checksumByte 0xffffffff ^^^ 0xffffffff

end TenantView.Gzip
