import NavStream.Proofs.Bytes.FixedWidth

/-!
# Fields by their offsets

A layout can be told without reading it: each field stands at an offset of its own. Where there are
enough bytes, a reader that has come to some offset finds the number that stands there, and goes on
behind it.

* `numberAt` — the number that stands at an offset;
* `word16_drop`, `word32_drop`, … — each field reads the number at the offset it has come to.
-/

namespace NavStream.Bytes

/-- The little-endian number of `width` bytes that stands at an offset. -/
def numberAt (bytes : List UInt8) (offset width : Nat) : Nat :=
  leValue ((bytes.drop offset).take width)

/-- A number that stands at an offset fits the width of its field. -/
theorem numberAt_lt (bytes : List UInt8) (offset width : Nat) :
    numberAt bytes offset width < Nat.pow 256 width :=
  Nat.lt_of_lt_of_le (leValue_lt _)
    (Nat.pow_le_pow_right (by decide) (List.length_take_le width _))

namespace FieldReader

variable {bytes : List UInt8} {offset : Nat}

/-- As many bytes as there are can be taken. -/
theorem take_drop {width : Nat} (h : offset + width ≤ bytes.length) :
    take width (bytes.drop offset) =
      some ((bytes.drop offset).take width, bytes.drop (offset + width)) := by
  have hroom : width ≤ (bytes.drop offset).length := by
    rw [List.length_drop]
    omega
  rw [take, if_pos hroom, List.drop_drop]

/-- Bytes that are there can be skipped. -/
theorem skip_drop {width : Nat} (h : offset + width ≤ bytes.length) :
    skip width (bytes.drop offset) = some ((), bytes.drop (offset + width)) := by
  rw [skip, bind_of_eq (take_drop h)]
  rfl

/-- A number is read at its offset. -/
theorem number_drop {width : Nat} (h : offset + width ≤ bytes.length) :
    number width (bytes.drop offset) =
      some (numberAt bytes offset width, bytes.drop (offset + width)) := by
  rw [number, bind_of_eq (take_drop h)]
  rfl

/-- A number of two bytes is read at its offset. -/
theorem word16_drop (h : offset + 2 ≤ bytes.length) :
    word16 (bytes.drop offset) =
      some (UInt16.ofNat (numberAt bytes offset 2), bytes.drop (offset + 2)) := by
  rw [word16, bind_of_eq (number_drop h)]
  rfl

/-- A number of four bytes is read at its offset. -/
theorem word32_drop (h : offset + 4 ≤ bytes.length) :
    word32 (bytes.drop offset) =
      some (UInt32.ofNat (numberAt bytes offset 4), bytes.drop (offset + 4)) := by
  rw [word32, bind_of_eq (number_drop h)]
  rfl

/-- A single precision number is read at its offset. -/
theorem float32_drop (h : offset + 4 ≤ bytes.length) :
    float32 (bytes.drop offset) =
      some (Float32.ofBits (UInt32.ofNat (numberAt bytes offset 4)), bytes.drop (offset + 4)) := by
  rw [float32, bind_of_eq (word32_drop h)]
  rfl

/-- A double precision number is read at its offset. -/
theorem float64_drop (h : offset + 8 ≤ bytes.length) :
    float64 (bytes.drop offset) =
      some (Float.ofBits (UInt64.ofNat (numberAt bytes offset 8)), bytes.drop (offset + 8)) := by
  rw [float64, bind_of_eq (number_drop h)]
  rfl

end FieldReader

end NavStream.Bytes
