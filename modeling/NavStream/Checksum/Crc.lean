import NavStream.Bytes.Fields
import NavStream.Checksum.Verdict

/-!
# The cyclic redundancy check of binary frames

Binary frames end in a 32-bit cyclic redundancy check over header and payload: the reflected form
of the generator `04C11DB7`, started from zero and not complemented at the end.

* `crc32` — the check value of a byte sequence;
* `crc32_append` — the check continues over a concatenation;
* `checkCrc32` — the comparison with a little-endian trailer.
-/

namespace NavStream.Checksum

open NavStream.Bytes

/-- The generator polynomial with its bits in reflected order. -/
def generator : UInt32 := 0xEDB88320

/-- The number of bytes of the trailer. -/
def trailerLength : Nat := 4

/-- Divides out one bit: the register moves one place, and a bit that leaves it brings the generator
in. -/
def shiftBit (register : UInt32) : UInt32 :=
  if register &&& 1 = 1 then (register >>> 1) ^^^ generator else register >>> 1

/-- Divides out one byte, least significant bit first. -/
def shiftByte (register : UInt32) (byte : UInt8) : UInt32 :=
  Nat.repeat shiftBit 8 (register ^^^ byte.toUInt32)

/-- The register after a byte sequence, from a given register on. -/
def crcFrom (register : UInt32) (bytes : List UInt8) : UInt32 :=
  bytes.foldl shiftByte register

/-- The check value of a byte sequence. -/
def crc32 (bytes : List UInt8) : UInt32 := crcFrom 0 bytes

/-- A check value as it is written behind the bytes it covers. -/
def trailerOf (value : UInt32) : List UInt8 := leBytes trailerLength value.toNat

/-- Compares `trailer`, the four bytes behind `bytes`, with the check value of `bytes`. -/
def checkCrc32 (bytes trailer : List UInt8) : Verdict :=
  .compare (UInt32.ofNat (leValue trailer)) (crc32 bytes)

/-- The check of a concatenation goes on where the check of its first part ended. -/
theorem crc32_append (front back : List UInt8) :
    crc32 (front ++ back) = crcFrom (crc32 front) back := by
  simp [crc32, crcFrom, List.foldl_append]

/-- The check passes exactly when the trailer spells the check value. -/
theorem checkCrc32_eq_intact_iff {bytes trailer : List UInt8} :
    checkCrc32 bytes trailer = .intact ↔ UInt32.ofNat (leValue trailer) = crc32 bytes :=
  Verdict.compare_eq_intact_iff

/-- A trailer spells the check value that it was written for. -/
theorem ofNat_leValue_trailerOf (value : UInt32) :
    UInt32.ofNat (leValue (trailerOf value)) = value := by
  have hvalue : value.toNat < Nat.pow 256 trailerLength := value.toNat_lt
  rw [trailerOf, leValue_leBytes, Nat.mod_eq_of_lt hvalue, UInt32.ofNat_toNat]

end NavStream.Checksum
