import NavStream.Json.Number
import Mathlib

/-!
# Rounding what is read

A number with a power of ten is read in two steps, each of which rounds: its digits are rounded to
double precision, and so is their product with the power. This module bounds both errors by half a
unit in the last place, and concludes that digits which stand for a number below the largest one of
double precision are never taken for an infinity.

* `roundWithAccuracy_holds` — what a number is rounded to exceeds it by half a place at most;
* `Holds.unpack_pack` — numbers that are not too large are packed without loss;
* `Holds.mul`, `toFloat_holds`, `powerOfTen_holds` — products, whole numbers and powers of ten;
* `isSome_scaled?_of_le` — digits in front of a power of ten.
-/

namespace NavStream.Json

open Float.Model (UnpackedFloat totalExponent)
open Float.Model.UnpackedFloat

/-! ## Dropping digits -/

/-- What remains of the whole number `n` when its last `k` binary digits are dropped: where a half
is seen in them, they are worth at least one. -/
structure Dropped (n k : Nat) (em : ExtendedMantissa) : Prop where
  /-- The digits in front. -/
  mantissa : em.mantissa = n / 2 ^ k
  /-- The first digit behind them. -/
  half : em.roundBit = true → 2 ^ k ≤ 2 * (n % 2 ^ k)

namespace Dropped

variable {n k : Nat} {em : ExtendedMantissa}

/-- One more digit is dropped. -/
theorem shiftRightOne (h : Dropped n k em) : Dropped n (k + 1) em.shiftRightOne where
  mantissa := by
    rw [ExtendedMantissa.shiftRightOne, h.mantissa, Nat.div_div_eq_div_mul, Nat.pow_succ]
  half := by
    intro hbit
    have hodd : n / 2 ^ k % 2 = 1 := by
      rw [ExtendedMantissa.shiftRightOne, h.mantissa] at hbit
      simpa using hbit
    rw [Nat.mod_pow_succ, hodd, Nat.pow_succ]
    omega

/-- Digits are dropped one after another. -/
theorem shiftRight (n k : Nat) : Dropped n k (ExtendedMantissa.mk n false false >>> k) := by
  induction k with
  | zero => exact ⟨(Nat.div_one n).symm, fun h => absurd h Bool.false_ne_true⟩
  | succ k ih => exact ih.shiftRightOne

/-- Rounding adds one at most, and only where a half is seen. -/
theorem rounded (em : ExtendedMantissa) : em.mantissa ≤ em.roundedMantissa ∧
    em.roundedMantissa ≤ em.mantissa + em.roundBit.toNat := by
  obtain ⟨m, round, sticky⟩ := em
  cases round <;> cases sticky <;>
    simp only [ExtendedMantissa.roundedMantissa, ExtendedMantissa.accuracy,
      Accuracy.roundToNearestEven, Bool.toNat_false, Bool.toNat_true] <;> omega

/-- The rounded number exceeds the number by half a unit at most. -/
theorem roundedMantissa_le (h : Dropped n k em) :
    2 * (em.roundedMantissa * 2 ^ k) ≤ 2 * n + 2 ^ k := by
  have hle := Nat.mul_le_mul_right (2 ^ k) (rounded em).2
  have hsplit := Nat.mod_add_div n (2 ^ k)
  rw [Nat.mul_comm (2 ^ k), ← h.mantissa] at hsplit
  cases hbit : em.roundBit with
  | false =>
    rw [hbit, Bool.toNat_false, Nat.add_zero] at hle
    omega
  | true =>
    have hhalf := h.half hbit
    rw [hbit, Bool.toNat_true, Nat.add_mul, Nat.one_mul] at hle
    omega

end Dropped

/-! ## Rounding to double precision -/

/-- An unpacked number of double precision that is not below one, with its size. -/
inductive Holds : ℚ → UnpackedFloat → Prop where
  /-- All 53 binary digits of the number are there. -/
  | finite (sign : Sign) {m : Nat} {e : Int} (low : 2 ^ 52 ≤ m) (high : m < 2 ^ 53)
      (last : -52 ≤ e) (pos : 0 < m) : Holds (m * 2 ^ e) (.finite sign m e pos)

theorem Holds.nonneg {v : ℚ} {x : UnpackedFloat} (h : Holds v x) : 0 ≤ v := by
  cases h with
  | finite => positivity

theorem Holds.isInf {v : ℚ} {x : UnpackedFloat} (h : Holds v x) : x.isInf = false := by
  cases h with
  | finite => rfl

/-- The last place that double precision has for a number. -/
theorem targetExponent_eq (n : Nat) (e : Int) :
    Float.Model.Format.binary64.targetExponent (totalExponent n e) =
      max (n.log2 + e - 52) (-1074) := by
  have hmin : Float.Model.Format.binary64.minExponent = -1074 := by decide
  have hbits : Float.Model.Format.binary64.mantissaBits = 53 := rfl
  rw [Float.Model.Format.targetExponent, totalExponent, hmin, hbits]
  omega

/-- A number with `53 + k` binary digits keeps 53 of them. -/
theorem shiftToTargetExponent_eq {n k : Nat} {e : Int} (hlog : n.log2 = 52 + k)
    (he : -1074 ≤ e + k) :
    shiftToTargetExponent Float.Model.Format.binary64 n e .exact =
      (ExtendedMantissa.mk n false false >>> k, e + k) := by
  have htarget : max ((n.log2 : Int) + e - 52) (-1074) = e + k := by omega
  have hshift : (e + k - e).toNat = k := by omega
  rw [shiftToTargetExponent, targetExponent_eq, htarget, shiftToExponent]
  simp only [hshift]
  rfl

/-- A number lies between the powers of two of its binary digits. -/
theorem bounds_of_log2 {n k : Nat} (hlog : n.log2 = 52 + k) :
    2 ^ 52 * 2 ^ k ≤ n ∧ n < 2 ^ 53 * 2 ^ k := by
  have hn : n ≠ 0 := by
    rintro rfl
    rw [Nat.log2_zero] at hlog
    omega
  rw [← Nat.pow_add, ← Nat.pow_add, ← hlog, show 53 + k = n.log2 + 1 by omega]
  exact ⟨Nat.log2_self_le hn, Nat.lt_log2_self⟩

/-- What 53 binary digits are rounded to has 53 digits, or is the next power of two. -/
theorem roundedMantissa_bounds {n k : Nat} (hlog : n.log2 = 52 + k) :
    2 ^ 52 ≤ (ExtendedMantissa.mk n false false >>> k).roundedMantissa ∧
      (ExtendedMantissa.mk n false false >>> k).roundedMantissa ≤ 2 ^ 53 := by
  obtain ⟨hlow, hhigh⟩ := bounds_of_log2 hlog
  have hlow : 2 ^ 52 ≤ n / 2 ^ k := (Nat.le_div_iff_mul_le (Nat.two_pow_pos k)).mpr hlow
  have hhigh : n / 2 ^ k < 2 ^ 53 := (Nat.div_lt_iff_lt_mul (Nat.two_pow_pos k)).mpr hhigh
  have hrounded := Dropped.rounded (ExtendedMantissa.mk n false false >>> k)
  have hbit := Bool.toNat_le (ExtendedMantissa.mk n false false >>> k).roundBit
  rw [(Dropped.shiftRight n k).mantissa] at hrounded
  omega

/-- A whole number with more than 52 binary digits, times a power of two, is rounded to a multiple
of its last place that exceeds it by half of that at most. -/
theorem roundWithAccuracy_holds (sign : Sign) {n k : Nat} {e : Int} (hlog : n.log2 = 52 + k)
    (he : -52 ≤ e + k) : ∃ r : Nat, 2 * (r * 2 ^ k) ≤ 2 * n + 2 ^ k ∧
      Holds (r * 2 ^ (e + k)) (roundWithAccuracy Float.Model.Format.binary64 sign n e .exact) := by
  obtain ⟨hlow, hhigh⟩ := roundedMantissa_bounds hlog
  obtain ⟨r, hr⟩ :
      ∃ r, r = (ExtendedMantissa.mk n false false >>> k).roundedMantissa := ⟨_, rfl⟩
  refine ⟨r, hr ▸ (Dropped.shiftRight n k).roundedMantissa_le, ?_⟩
  rw [← hr] at hlow hhigh
  rw [roundWithAccuracy, shiftToTargetExponent_eq hlog (by omega)]
  simp only [← hr]
  rcases Nat.lt_or_eq_of_le hhigh with hless | hcarry
  · -- the rounded number keeps its last place
    have hlog : r.log2 = 52 + 0 := (Nat.log2_eq_iff (by omega)).mpr ⟨hlow, hless⟩
    have hsecond := shiftToTargetExponent_eq (e := e + k) hlog (by omega)
    simp only [hsecond]
    change Holds _ (if h : r = 0 then _ else .finite sign r (e + k + 0) _)
    rw [dif_neg (by omega), Int.add_zero]
    exact .finite sign hlow hless (by omega) (by omega)
  · -- the rounded number is a power of two, and its last place moves by one
    have hlog : r.log2 = 52 + 1 := by rw [hcarry, Nat.log2_two_pow]
    have hsecond := shiftToTargetExponent_eq (e := e + k) hlog (by omega)
    simp only [hsecond]
    change Holds _ (if h : r / 2 = 0 then _ else .finite sign (r / 2) (e + k + 1) _)
    have hsize : (r : ℚ) * 2 ^ (e + k) = (r / 2 : Nat) * 2 ^ (e + k + 1) := by
      rw [hcarry, show 2 ^ 53 / 2 = 2 ^ 52 by rfl, zpow_add_one₀ (by norm_num)]
      push_cast
      ring
    rw [dif_neg (by omega), hsize]
    exact .finite sign (by omega) (by omega) (by omega) (by omega)

/-! ## Packing -/

@[simp] theorem unpackSign_packComponents {spec : Float.Model.Format} {sign exponent mantissa} :
    unpackSign (packComponents spec sign exponent mantissa) = sign.toBitVec := by
  ext i hi
  have hi : i = 0 := by omega
  simp [hi, unpackSign, packComponents, BitVec.getLsbD_append, BitVec.getElem_append]

@[simp] theorem ofBitVec_toBitVec (sign : Sign) : Sign.ofBitVec sign.toBitVec = sign := by
  cases sign <;> rfl

/-- The fields of a number with all 53 digits stand for the number. -/
theorem unpack_packComponents (sign : Sign) {field m : Nat} (hpos : 0 < field)
    (hfits : field < 2047) (hlow : 2 ^ 52 ≤ m) (hhigh : m < 2 ^ 53) (hm : 0 < m) :
    unpack Float.Model.Format.binary64 (packComponents Float.Model.Format.binary64 sign
      (BitVec.ofNat 11 field) (BitVec.ofNat 52 m)) = .finite sign m (field - 1075) hm := by
  have hfield : (BitVec.ofNat 11 field).toNat = field := by
    rw [BitVec.toNat_ofNat, Nat.mod_eq_of_lt (by omega)]
  have hones : BitVec.ofNat 11 field ≠ -1#11 := by
    rw [Ne, ← BitVec.toNat_inj, hfield]
    exact hfits.ne
  have hzeros : BitVec.ofNat 11 field ≠ 0#11 := by
    rw [Ne, ← BitVec.toNat_inj, hfield]
    exact hpos.ne'
  have hmantissa : (1#1 ++ BitVec.ofNat 52 m).toNat = m := by
    rw [BitVec.toNat_append, ← Nat.shiftLeft_add_eq_or_of_lt (BitVec.isLt _), BitVec.toNat_ofNat,
      BitVec.toNat_ofNat, Nat.shiftLeft_eq]
    omega
  rw [unpack]
  simp only [unpackMantissa_packComponents, unpackExponent_packComponents,
    unpackSign_packComponents, ofBitVec_toBitVec, hones, hzeros, hfield, hmantissa, if_false]
  rfl

/-- Numbers below two to the power of 1024 are packed without loss. -/
theorem Holds.unpack_pack {v : ℚ} {x : UnpackedFloat} (h : Holds v x) (hv : v < 2 ^ (1024 : Int)) :
    unpack Float.Model.Format.binary64 (pack Float.Model.Format.binary64 x) = x := by
  cases h with
  | @finite sign m e hlow hhigh he hpos =>
    have hlast : e ≤ 971 := by
      by_contra hlarge
      have hle : (2 : ℚ) ^ (52 + 972 : Int) ≤ m * 2 ^ e := by
        rw [zpow_add₀ (by norm_num)]
        gcongr
        · exact_mod_cast hlow
        · norm_num
        · omega
      exact absurd hv (not_lt.mpr hle)
    obtain ⟨field, hfield⟩ : ∃ field : Nat, field = e + 1075 := ⟨(e + 1075).toNat, by omega⟩
    have hbias : (e + Float.Model.Format.binary64.exponentBias + (52 : Nat)).toNat = field := by
      rw [show Float.Model.Format.binary64.exponentBias = 1023 by rfl]
      omega
    have hlog : m.log2 + 1 = Float.Model.Format.binary64.mantissaBits := by
      rw [(Nat.log2_eq_iff (by omega)).mpr ⟨hlow, hhigh⟩]
      rfl
    have hfits : ¬ 2 ^ 11 ≤ field + 1 := by omega
    rw [UnpackedFloat.pack]
    simp only [hlog, hbias, hfits, if_true, if_false]
    rw [unpack_packComponents sign (by omega) (by omega) hlow hhigh hpos]
    congr 1
    omega

/-! ## Products -/

/-- Half of the last place of the largest numbers of double precision. -/
@[irreducible] def halfPlace : Nat := 2 ^ 970

theorem halfPlace_eq : (halfPlace : ℚ) = 2 ^ (970 : Int) := by
  unfold halfPlace
  exact Nat.cast_pow 2 970

/-- What is nearer to the largest number of double precision than to two to the power of 1024 has a
last place of two units at most, a unit being half of the last place of the largest number. -/
theorem last_le {n k : Nat} {e : Int} (hlow : 2 ^ 52 * 2 ^ k ≤ n)
    (hn : (n : ℚ) * 2 ^ e < (2 ^ 54 - 1) * halfPlace) :
    (2 : ℚ) ^ k * 2 ^ e ≤ 2 * halfPlace := by
  have hplace : (2 : ℚ) ^ k * 2 ^ e = 2 ^ (e + k) := by
    rw [zpow_add₀ (by norm_num), zpow_natCast, mul_comm]
  rw [halfPlace_eq] at hn ⊢
  rw [hplace]
  have hlast : e + k ≤ 971 := by
    by_contra hlarge
    have hunit : (0 : ℚ) < 2 ^ (970 : Int) := by positivity
    have hlow : (2 : ℚ) ^ 52 * 2 ^ k * 2 ^ e ≤ n * 2 ^ e := by
      gcongr
      exact_mod_cast hlow
    have hle : (2 : ℚ) ^ (970 : Int) * 2 ^ (2 : Int) ≤ 2 ^ (e + k) := by
      rw [← zpow_add₀ (by norm_num)]
      exact zpow_le_zpow_right₀ (by norm_num) (by omega)
    rw [mul_assoc, hplace] at hlow
    generalize (2 : ℚ) ^ (970 : Int) = unit at *
    norm_num at hle
    linarith
  calc (2 : ℚ) ^ (e + k) ≤ 2 ^ (1 + 970 : Int) := zpow_le_zpow_right₀ (by norm_num) hlast
    _ = 2 * 2 ^ (970 : Int) := by rw [zpow_add₀ (by norm_num), zpow_one]

/-- What is nearer to the largest number of double precision than to two to the power of 1024 is
rounded below the latter. -/
theorem rounded_lt {n k r : Nat} {e : Int} (hlow : 2 ^ 52 * 2 ^ k ≤ n)
    (hr : 2 * (r * 2 ^ k) ≤ 2 * n + 2 ^ k) (hn : (n : ℚ) * 2 ^ e < (2 ^ 54 - 1) * halfPlace) :
    (r : ℚ) * 2 ^ (e + k) < 2 ^ (1024 : Int) := by
  have hlast := last_le hlow hn
  have hr : (2 : ℚ) * (r * 2 ^ k) * 2 ^ e ≤ (2 * n + 2 ^ k) * 2 ^ e := by
    gcongr
    exact_mod_cast hr
  have hlargest : (2 : ℚ) ^ (1024 : Int) = 2 ^ 54 * halfPlace := by
    rw [halfPlace_eq, ← zpow_natCast, ← zpow_add₀ (by norm_num)]
    rfl
  rw [hlargest, zpow_add₀ (by norm_num), zpow_natCast]
  linarith

/-- The product of two numbers not below one is rounded to such a number, and not to an infinity,
where it is not nearer to two to the power of 1024 than to the largest number of double
precision. -/
theorem Holds.mul {a b : ℚ} {x y : UnpackedFloat} (hx : Holds a x) (hy : Holds b y)
    (hab : a * b < (2 ^ 54 - 1) * halfPlace) :
    ∃ v < (2 : ℚ) ^ (1024 : Int), Holds v (mul Float.Model.Format.binary64 x y) := by
  cases hx with
  | @finite s₁ m₁ e₁ hlow₁ hhigh₁ he₁ hpos₁ =>
    cases hy with
    | @finite s₂ m₂ e₂ hlow₂ hhigh₂ he₂ hpos₂ =>
      have hlow : 2 ^ 104 ≤ m₁ * m₂ := calc
        2 ^ 104 = 2 ^ 52 * 2 ^ 52 := by rw [← Nat.pow_add]
        _ ≤ m₁ * m₂ := Nat.mul_le_mul hlow₁ hlow₂
      have hlog : 52 + 52 ≤ (m₁ * m₂).log2 := (Nat.le_log2 (by omega)).mpr hlow
      obtain ⟨k, hk⟩ : ∃ k, (m₁ * m₂).log2 = 52 + k := Nat.exists_eq_add_of_le (by omega)
      obtain ⟨r, hr, hholds⟩ := roundWithAccuracy_holds (s₁ * s₂) (e := e₁ + e₂) hk (by omega)
      have hproduct : (m₁ : ℚ) * 2 ^ e₁ * (m₂ * 2 ^ e₂) = (m₁ * m₂ : Nat) * 2 ^ (e₁ + e₂) := by
        rw [zpow_add₀ (by norm_num), Nat.cast_mul]
        ring
      rw [hproduct] at hab
      exact ⟨_, rounded_lt (bounds_of_log2 hk).1 hr hab, hholds⟩

/-! ## Whole numbers -/

/-- A positive number is brought to 53 binary digits, unless it has more, and rounded. -/
theorem ofNat_eq {n : Nat} (hn : 0 < n) : ofNat Float.Model.Format.binary64 n =
    roundWithAccuracy Float.Model.Format.binary64 .positive (n * 2 ^ (52 - n.log2))
      (-(52 - n.log2 : Nat)) .exact := by
  have htarget : max ((n.log2 : Int) + 0 - 52) (-1074) = n.log2 - 52 := by omega
  have hcompare : compare (n : Int) 0 = .gt := Int.compare_eq_gt.mpr (by omega)
  have hshift : (-((n.log2 : Int) - 52)).toNat = 52 - n.log2 := by omega
  rw [ofNat, ofInt, UnpackedFloat.normalize, hcompare]
  simp only [UnpackedFloat.round, Int.toNat_natCast, targetExponent_eq, htarget, decreaseExponent,
    Nat.shiftLeft_eq, Int.zero_sub, hshift]

/-- A positive number that is brought to 53 binary digits has no fewer. -/
theorem log2_mul_pow {n : Nat} (hn : 0 < n) :
    (n * 2 ^ (52 - n.log2)).log2 = 52 + (n.log2 - 52) := by
  have hpos := Nat.two_pow_pos (52 - n.log2)
  rw [Nat.log2_eq_iff (Nat.mul_pos hn hpos).ne',
    show 52 + (n.log2 - 52) = n.log2 + (52 - n.log2) by omega,
    show n.log2 + (52 - n.log2) + 1 = n.log2 + 1 + (52 - n.log2) by omega, Nat.pow_add, Nat.pow_add]
  exact ⟨Nat.mul_le_mul_right _ (Nat.log2_self_le hn.ne'),
    Nat.mul_lt_mul_of_pos_right Nat.lt_log2_self hpos⟩

/-- What a number is rounded to exceeds it only as far as the number exceeds 53 binary digits. -/
theorem rounded_le {n r : Nat} (hn : 0 < n)
    (hr : 2 * (r * 2 ^ (n.log2 - 52)) ≤ 2 * (n * 2 ^ (52 - n.log2)) + 2 ^ (n.log2 - 52)) :
    (r : ℚ) * 2 ^ (-(52 - n.log2 : Nat) + (n.log2 - 52 : Nat) : Int) ≤
      (n + n / 2 ^ 53 : Nat) := by
  rcases Nat.lt_or_ge 52 n.log2 with hlong | hshort
  · -- half of the last place of a longer number is below what it has in front of 53 digits
    obtain ⟨k, hk⟩ : ∃ k, n.log2 = 53 + k := Nat.exists_eq_add_of_le hlong
    have hhalf : 2 ^ k ≤ n / 2 ^ 53 := by
      rw [Nat.le_div_iff_mul_le (by decide), ← Nat.pow_add, Nat.add_comm, ← hk]
      exact Nat.log2_self_le hn.ne'
    rw [hk, show 52 - (53 + k) = 0 by omega, show 53 + k - 52 = k + 1 by omega] at hr ⊢
    rw [Nat.pow_zero, Nat.mul_one, Nat.pow_succ] at hr
    have hle : r * (2 ^ k * 2) ≤ n + n / 2 ^ 53 := by omega
    rw [Nat.cast_zero, neg_zero, zero_add, zpow_natCast, pow_succ]
    exact_mod_cast hle
  · -- a number of at most 53 digits is not rounded
    rw [Nat.sub_eq_zero_of_le hshort] at hr ⊢
    have hr : r ≤ n * 2 ^ (52 - n.log2) := by omega
    rw [Nat.cast_zero, add_zero, zpow_neg, zpow_natCast, ← div_eq_mul_inv,
      div_le_iff₀ (by positivity)]
    calc (r : ℚ) ≤ (n * 2 ^ (52 - n.log2) : Nat) := by exact_mod_cast hr
      _ = n * 2 ^ (52 - n.log2) := by push_cast; rfl
      _ ≤ (n + n / 2 ^ 53 : Nat) * 2 ^ (52 - n.log2) := by
        gcongr
        omega

/-- A positive word is rounded to a number that exceeds it by half of its last place at most. -/
theorem toFloat_holds {word : UInt64} {n : Nat} (hword : word.toNat = n) (hn : 0 < n) :
    ∃ v : ℚ, v ≤ (n + n / 2 ^ 53 : Nat) ∧ Holds v word.toFloat.toModel.unpack := by
  obtain ⟨r, hr, hholds⟩ := roundWithAccuracy_holds .positive (log2_mul_pow hn)
    (e := -(52 - n.log2 : Nat)) (by omega)
  have hle := rounded_le hn hr
  have hless : n + n / 2 ^ 53 < 2 ^ 65 := by
    have := word.toNat_lt
    omega
  have hpacked : word.toFloat.toModel.unpack = UnpackedFloat.unpack Float.Model.Format.binary64
      (UnpackedFloat.pack Float.Model.Format.binary64 (ofNat Float.Model.Format.binary64 n)) := by
    rw [← hword]
    rfl
  refine ⟨_, hle, ?_⟩
  rw [hpacked, ofNat_eq hn, hholds.unpack_pack]
  · exact hholds
  · calc _ ≤ ((n + n / 2 ^ 53 : Nat) : ℚ) := hle
      _ < 2 ^ (65 : Int) := by exact_mod_cast hless
      _ ≤ 2 ^ (1024 : Int) := zpow_le_zpow_right₀ (by norm_num) (by norm_num)

/-! ## Digits in front of a power of ten -/

/-- The largest digits that are written in front of a power of ten. -/
def mostDigits (power : Nat) : Nat :=
  min (10 ^ 17) ((2 ^ 54 - 3) * halfPlace / 10 ^ power)

/-- Whether a number that stands for a power of ten can be multiplied with the digits that are
written in front of it. -/
def hasRoom (power : Nat) : UnpackedFloat → Bool
  | .finite _ m e _ =>
    let digits := mostDigits power
    2 ^ 52 ≤ m && m < 2 ^ 53 && -52 ≤ e &&
      (digits + digits / 2 ^ 53) * (m * 2 ^ (e + 52).toNat) <
        (2 ^ 54 - 1) * halfPlace * 2 ^ 52
  | _ => false

/-- Every power of ten has room. -/
theorem hasRoom_of_le : ∀ power ≤ largestPower,
    hasRoom power (powerOfTen power).toModel.unpack = true := by decide +kernel

/-- The rounded powers of ten are not below one, and digits that are written in front of them are
below the largest number of double precision when both are rounded. -/
theorem powerOfTen_holds {power : Nat} (h : power ≤ largestPower) :
    ∃ p : ℚ, Holds p (powerOfTen power).toModel.unpack ∧
      ((mostDigits power + mostDigits power / 2 ^ 53 : Nat) : ℚ) * p <
        (2 ^ 54 - 1) * halfPlace := by
  have hroom := hasRoom_of_le power h
  generalize (powerOfTen power).toModel.unpack = x at hroom ⊢
  cases x with
  | finite sign m e hm =>
    simp only [hasRoom, Bool.and_eq_true, decide_eq_true_eq] at hroom
    obtain ⟨⟨⟨hlow, hhigh⟩, he⟩, hproduct⟩ := hroom
    refine ⟨m * 2 ^ e, .finite sign hlow hhigh he hm, ?_⟩
    have hscale : (2 : ℚ) ^ (e + 52).toNat = 2 ^ e * 2 ^ 52 := by
      rw [← zpow_natCast, Int.toNat_of_nonneg (by omega), zpow_add₀ (by norm_num)]
      rfl
    have hproduct : ((mostDigits power + mostDigits power / 2 ^ 53 : Nat) : ℚ) *
        (m * 2 ^ (e + 52).toNat) < (2 ^ 54 - 1 : Nat) * halfPlace * 2 ^ 52 := by
      exact_mod_cast hproduct
    rw [hscale] at hproduct
    have hpositive : (0 : ℚ) < 2 ^ 52 := by positivity
    refine lt_of_mul_lt_mul_right ?_ hpositive.le
    calc _ = ((mostDigits power + mostDigits power / 2 ^ 53 : Nat) : ℚ) *
          (m * (2 ^ e * 2 ^ 52)) := by ring
      _ < _ := hproduct
      _ = _ := by norm_num
  | _ => exact absurd hroom Bool.false_ne_true

/-- Digits in front of a power of ten are never taken for an infinity where they are written. -/
theorem isSome_scaled?_of_le {digits power : Nat} (hpos : 0 < digits) (hdigits : digits ≤ 10 ^ 17)
    (hsize : digits * 10 ^ power ≤ (2 ^ 54 - 3) * halfPlace) :
    (scaled? digits power).isSome := by
  have hpower : power ≤ largestPower := by
    by_contra hlarge
    have hlarge : 10 ^ (largestPower + 1) ≤ digits * 10 ^ power := calc
      10 ^ (largestPower + 1) ≤ 10 ^ power :=
        Nat.pow_le_pow_right (by decide) (Nat.not_le.mp hlarge)
      _ ≤ digits * 10 ^ power := Nat.le_mul_of_pos_left _ hpos
    have hless : (2 ^ 54 - 3) * halfPlace < 10 ^ (largestPower + 1) := by decide +kernel
    exact absurd (hlarge.trans hsize) (Nat.not_le.mpr hless)
  have hmost : digits ≤ mostDigits power := le_min
    hdigits ((Nat.le_div_iff_mul_le (Nat.pow_pos (by decide))).mpr hsize)
  have hword : digits.toUInt64.toNat = digits := by
    rw [Nat.toUInt64_eq, UInt64.toNat_ofNat_of_lt' (by rw [UInt64.size]; omega)]
  obtain ⟨v, hv, hfirst⟩ := toFloat_holds hword hpos
  obtain ⟨p, hp, hroom⟩ := powerOfTen_holds hpower
  have hless : v * p < (2 ^ 54 - 1) * halfPlace := by
    have hnonneg := hp.nonneg
    have hmono : digits + digits / 2 ^ 53 ≤ mostDigits power + mostDigits power / 2 ^ 53 := by omega
    calc v * p ≤ (digits + digits / 2 ^ 53 : Nat) * p := by gcongr
      _ ≤ (mostDigits power + mostDigits power / 2 ^ 53 : Nat) * p := by gcongr
      _ < (2 ^ 54 - 1) * halfPlace := hroom
  obtain ⟨w, hw, hproduct⟩ := hfirst.mul hp hless
  have hfinite : (digits.toUInt64.toFloat * powerOfTen power).isInf = false := by
    have hpacked : (digits.toUInt64.toFloat * powerOfTen power).toModel.unpack =
        UnpackedFloat.unpack Float.Model.Format.binary64 (UnpackedFloat.pack
          Float.Model.Format.binary64 (mul Float.Model.Format.binary64
            digits.toUInt64.toFloat.toModel.unpack (powerOfTen power).toModel.unpack)) := rfl
    change (digits.toUInt64.toFloat * powerOfTen power).toModel.unpack.isInf = false
    rw [hpacked, hproduct.unpack_pack hw]
    exact hproduct.isInf
  have hsign : ¬ (power : Int) < 0 := by omega
  have hlimit : (power : Int) ≤ largestPower := by exact_mod_cast hpower
  simp only [scaled?, hsign, hlimit, if_true, if_false, Int.toNat_natCast, hfinite]
  rfl

end NavStream.Json
