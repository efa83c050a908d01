import Mathlib
import NavStream.Checksum.Crc

/-!
# What the cyclic redundancy check tells apart

Dividing out a bit loses nothing: the bit that leaves the register can be read off the highest bit
of the generator that it brought in. So bytes that end in different registers stay different
whatever follows, and a single byte that changes always shows. Once the check goes on over its own
check value the register is empty, which is what a receiver can look for.

* `shiftBit_injective`, `shiftByte_injective`, `crcFrom_injective` — the register is never lost;
* `crc32_append_cons_inj` — a byte that changes shows;
* `crcFrom_leValue`, `crc32_append_eq_zero_iff` — the register behind the check value is empty.
-/

namespace NavStream.Checksum

open NavStream.Bytes

/-! ## Nothing is lost -/

/-- A register that is moved one place is halved. -/
theorem toNat_shiftRight_one (register : UInt32) : (register >>> 1).toNat = register.toNat / 2 :=
  UInt32.toNat_shiftRight register 1

/-- The bit that leaves a register next is its parity. -/
theorem and_one_eq_one_iff {register : UInt32} :
    register &&& 1 = 1 ↔ register.toNat % 2 = 1 := by
  rw [← UInt32.toNat_inj, UInt32.toNat_and]
  show register.toNat &&& 1 = 1 ↔ _
  rw [Nat.and_one_is_mod]

/-- A register that was moved one place has no highest bit. -/
theorem testBit_shiftRight (register : UInt32) : (register >>> 1).toNat.testBit 31 = false := by
  have hlt := register.toNat_lt
  refine Nat.testBit_lt_two_pow ?_
  rw [toNat_shiftRight_one]
  omega

/-- The highest bit after dividing out a bit is the bit that has left. -/
theorem testBit_shiftBit (register : UInt32) :
    (shiftBit register).toNat.testBit 31 = decide (register &&& 1 = 1) := by
  have hgenerator : generator.toNat.testBit 31 = true := by decide
  unfold shiftBit
  by_cases hbit : register &&& 1 = 1
  · rw [if_pos hbit, UInt32.toNat_xor, Nat.testBit_xor, testBit_shiftRight, hgenerator]
    simp [hbit]
  · rw [if_neg hbit, testBit_shiftRight]
    simp [hbit]

/-- A register is given by its lowest bit and the others. -/
theorem register_ext {register other : UInt32} (hbit : register &&& 1 = 1 ↔ other &&& 1 = 1)
    (hrest : register >>> 1 = other >>> 1) : register = other := by
  rw [and_one_eq_one_iff, and_one_eq_one_iff] at hbit
  rw [← UInt32.toNat_inj, toNat_shiftRight_one, toNat_shiftRight_one] at hrest
  rw [← UInt32.toNat_inj]
  omega

/-- Dividing out a bit loses nothing. -/
theorem shiftBit_injective : Function.Injective shiftBit := by
  intro register other h
  have hbit : register &&& 1 = 1 ↔ other &&& 1 = 1 := by
    rw [← decide_eq_decide, ← testBit_shiftBit, ← testBit_shiftBit, h]
  refine register_ext hbit ?_
  unfold shiftBit at h
  by_cases hone : register &&& 1 = 1
  · rw [if_pos hone, if_pos (hbit.mp hone)] at h
    exact (UInt32.xor_left_inj _).mp h
  · rwa [if_neg hone, if_neg (mt hbit.mpr hone)] at h

/-- What loses nothing loses nothing when it is repeated. -/
theorem repeat_injective {α : Type} {f : α → α} (h : Function.Injective f) (count : Nat) :
    Function.Injective (Nat.repeat f count) := by
  induction count with
  | zero => exact fun _ _ heq => heq
  | succ count ih => exact h.comp ih

/-- Dividing out a byte does not lose the register. -/
theorem shiftByte_injective (byte : UInt8) : Function.Injective (shiftByte · byte) :=
  (repeat_injective shiftBit_injective 8).comp fun _ _ => (UInt32.xor_left_inj _).mp

/-- Dividing out a byte does not lose the byte. -/
theorem shiftByte_inj {register : UInt32} {byte other : UInt8} :
    shiftByte register byte = shiftByte register other ↔ byte = other := by
  constructor
  · intro h
    have hregister := repeat_injective shiftBit_injective 8 h
    exact UInt8.toUInt32_inj.mp ((UInt32.xor_right_inj register).mp hregister)
  · rintro rfl
    rfl

/-- Dividing out bytes does not lose the register. -/
theorem crcFrom_injective (bytes : List UInt8) : Function.Injective (crcFrom · bytes) := by
  induction bytes with
  | nil => exact fun _ _ h => h
  | cons byte rest ih => exact ih.comp (shiftByte_injective byte)

/-- **A byte that changes shows** in the check value, whatever stands around it. -/
theorem crc32_append_cons_inj {before after : List UInt8} {byte other : UInt8} :
    crc32 (before ++ byte :: after) = crc32 (before ++ other :: after) ↔ byte = other := by
  rw [crc32_append, crc32_append]
  exact (crcFrom_injective after).eq_iff.trans shiftByte_inj

/-! ## Behind the check value -/

/-- A zero bit that leaves changes nothing else. -/
theorem shiftBit_double {value : Nat} (h : 2 * value < 2 ^ 32) :
    shiftBit (UInt32.ofNat (2 * value)) = UInt32.ofNat value := by
  have hdouble : (UInt32.ofNat (2 * value)).toNat = 2 * value := UInt32.toNat_ofNat_of_lt' h
  have hvalue : (UInt32.ofNat value).toNat = value :=
    UInt32.toNat_ofNat_of_lt' (show value < 2 ^ 32 by omega)
  have heven : ¬UInt32.ofNat (2 * value) &&& 1 = 1 := by
    rw [and_one_eq_one_iff, hdouble]
    omega
  rw [shiftBit, if_neg heven, ← UInt32.toNat_inj, toNat_shiftRight_one, hdouble, hvalue]
  omega

/-- The exclusive or with its lowest byte clears the lowest byte of a number. -/
theorem xor_lowest {low value : Nat} (h : low < 2 ^ 8) :
    (low + 2 ^ 8 * value) ^^^ low = 2 ^ 8 * value := by
  have hmod : ((low + 2 ^ 8 * value) ^^^ low) % 2 ^ 8 = 0 := by
    rw [Nat.xor_mod_two_pow, Nat.add_mul_mod_self_left, Nat.xor_self]
  have hdiv : ((low + 2 ^ 8 * value) ^^^ low) / 2 ^ 8 = value := by
    rw [Nat.xor_div_two_pow, Nat.add_mul_div_left _ _ (by decide), Nat.div_eq_of_lt h,
      Nat.zero_add, Nat.xor_zero]
  omega

/-- A register that ends in a byte is without it after the byte was divided out. -/
theorem shiftByte_ofNat {byte : UInt8} {value : Nat} (h : byte.toNat + 256 * value < 2 ^ 32) :
    shiftByte (UInt32.ofNat (byte.toNat + 256 * value)) byte = UInt32.ofNat value := by
  have hrest : 256 * value < 2 ^ 32 := by omega
  have hxor : UInt32.ofNat (byte.toNat + 256 * value) ^^^ byte.toUInt32 =
      UInt32.ofNat (256 * value) := by
    rw [← UInt32.toNat_inj, UInt32.toNat_xor, UInt8.toNat_toUInt32,
      UInt32.toNat_ofNat_of_lt' h, UInt32.toNat_ofNat_of_lt' hrest]
    exact xor_lowest byte.toNat_lt
  have hdouble : 256 * value = 2 * (2 * (2 * (2 * (2 * (2 * (2 * (2 * value))))))) := by omega
  rw [shiftByte, hxor, hdouble]
  simp only [Nat.repeat]
  iterate 8 rw [shiftBit_double (by omega)]

/-- Bytes empty the register that spells them. -/
theorem crcFrom_leValue {bytes : List UInt8} (h : bytes.length ≤ trailerLength) :
    crcFrom (UInt32.ofNat (leValue bytes)) bytes = 0 := by
  induction bytes with
  | nil => rfl
  | cons byte rest ih =>
    have hlength : rest.length < trailerLength := h
    have hfits : leValue (byte :: rest) < 2 ^ 32 :=
      Nat.lt_of_lt_of_le (leValue_lt _) (Nat.pow_le_pow_right (by decide) h)
    show crcFrom (shiftByte (UInt32.ofNat (byte.toNat + 256 * leValue rest)) byte) rest = 0
    rw [shiftByte_ofNat hfits]
    exact ih (Nat.le_of_lt hlength)

/-- **The register behind the check value is empty**, and behind no other four bytes. -/
theorem crc32_append_eq_zero_iff {bytes trailer : List UInt8}
    (h : trailer.length = trailerLength) :
    crc32 (bytes ++ trailer) = 0 ↔ crc32 bytes = UInt32.ofNat (leValue trailer) := by
  rw [crc32_append, ← crcFrom_leValue (Nat.le_of_eq h)]
  exact (crcFrom_injective trailer).eq_iff

end NavStream.Checksum
