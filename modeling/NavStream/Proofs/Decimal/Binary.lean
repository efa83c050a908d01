import NavStream.Decimal.Binary
import Mathlib

/-!
# The parts of a finite number

A number is finite unless its exponent field holds ones only. The parts of a finite number are a
significand that fits the fraction field with one digit more, and an exponent between those of the
smallest and the largest numbers.
-/

namespace NavStream.Decimal

open Float.Model (UnpackedFloat)

/-- A significand with its exponent, within the range of a format. -/
structure Format.InRange (format : Format) (significand : Nat) (exponent : Int) : Prop where
  /-- The significand has one digit more than the fraction field. -/
  significand : significand < 2 ^ (format.fractionBits + 1)
  /-- The last place of the smallest numbers. -/
  low : 1 - (format.bias + format.fractionBits : Nat) ≤ exponent
  /-- The last place of the largest numbers. -/
  high : exponent ≤ (2 ^ format.exponentBits : Nat) - 2 - (format.bias + format.fractionBits : Nat)

/-- A pattern whose exponent field does not hold ones only stands for a finite number. -/
theorem Format.exists_parts (format : Format) (hbits : 1 < format.exponentBits) {bits : Nat}
    (h : bits / 2 ^ format.fractionBits % 2 ^ format.exponentBits ≠ 2 ^ format.exponentBits - 1) :
    ∃ negative significand exponent narrowBelow,
      format.parts bits = .finite negative significand exponent narrowBelow ∧
        format.InRange significand exponent := by
  have hfraction := Nat.mod_lt bits (Nat.two_pow_pos format.fractionBits)
  have hexponent := Nat.mod_lt (bits / 2 ^ format.fractionBits)
    (Nat.two_pow_pos format.exponentBits)
  have hwide : 2 ^ 2 ≤ 2 ^ format.exponentBits := Nat.pow_le_pow_right (by decide) hbits
  have hdouble := Nat.pow_succ 2 format.fractionBits
  rw [Format.parts]
  simp only [Nat.pow_eq, h, if_false]
  split
  · exact ⟨_, _, _, _, rfl, by omega, by omega, by omega⟩
  · exact ⟨_, _, _, _, rfl, by omega, by omega, by omega⟩

/-- A number is finite unless its exponent field holds ones only. -/
theorem isFinite_unpack (spec : Float.Model.Format) (b : BitVec spec.numBits) :
    (UnpackedFloat.unpack spec b).isFinite =
      decide (b.toNat / 2 ^ spec.mantissaBitsWithoutImplicit % 2 ^ spec.exponentBits ≠
        2 ^ spec.exponentBits - 1) := by
  have hfield : (UnpackedFloat.unpackExponent b).toNat =
      b.toNat / 2 ^ spec.mantissaBitsWithoutImplicit % 2 ^ spec.exponentBits := by
    have := spec.he
    have hwidth : spec.mantissaBitsWithoutImplicit + spec.exponentBits - 1 -
        spec.mantissaBitsWithoutImplicit + 1 = spec.exponentBits := by omega
    rw [UnpackedFloat.unpackExponent, BitVec.toNat_cast, BitVec.extractLsb_toNat, hwidth,
      Nat.shiftRight_eq_div_pow]
  have hones : UnpackedFloat.unpackExponent b = -1#_ ↔
      (UnpackedFloat.unpackExponent b).toNat = 2 ^ spec.exponentBits - 1 := by
    rw [← BitVec.toNat_inj, BitVec.neg_one_eq_allOnes, BitVec.toNat_allOnes]
  rw [UnpackedFloat.unpack, ← hfield]
  simp only [hones]
  split
  next h =>
    split <;> simp [h, UnpackedFloat.isFinite]
  next h =>
    split
    · split <;> simp [h, UnpackedFloat.isFinite]
    · simp [h, UnpackedFloat.isFinite]

/-- The parts of a finite number of double precision. -/
theorem exists_partsOf {x : Float} (h : x.isFinite = true) :
    ∃ negative significand exponent narrowBelow,
      partsOf x = .finite negative significand exponent narrowBelow ∧
        significand < 2 ^ 53 ∧ -1074 ≤ exponent ∧ exponent ≤ 971 := by
  have hfield := (isFinite_unpack Float.Model.Format.binary64 x.toBits.toBitVec).symm.trans h
  obtain ⟨negative, significand, exponent, narrowBelow, hparts, hrange⟩ :=
    binary64.exists_parts (by decide) (of_decide_eq_true hfield)
  exact ⟨_, _, _, _, hparts, hrange.significand, hrange.low, hrange.high⟩

/-- The parts of a finite number of single precision. -/
theorem exists_partsOf32 {x : Float32} (h : x.isFinite = true) :
    ∃ negative significand exponent narrowBelow,
      partsOf32 x = .finite negative significand exponent narrowBelow ∧
        significand < 2 ^ 24 ∧ -149 ≤ exponent ∧ exponent ≤ 104 := by
  have hfield := (isFinite_unpack Float.Model.Format.binary32 x.toBits.toBitVec).symm.trans h
  obtain ⟨negative, significand, exponent, narrowBelow, hparts, hrange⟩ :=
    binary32.exists_parts (by decide) (of_decide_eq_true hfield)
  exact ⟨_, _, _, _, hparts, hrange.significand, hrange.low, hrange.high⟩

end NavStream.Decimal
