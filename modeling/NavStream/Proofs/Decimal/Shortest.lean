import NavStream.Decimal.Shortest
import Mathlib.Algebra.Order.Field.Power
import Mathlib.Data.Rat.Defs
import Mathlib.Tactic.Linarith
import Mathlib.Tactic.NormNum
import Mathlib.Tactic.Positivity
import Mathlib.Tactic.Ring

/-!
# Where the shortest decimal lies

The search for a decimal tries one grid after another and takes a decimal only if it lies in the
interval around the number. So what is found is positive and exceeds the number by half of its last
place at most, and it has no more digits than were tried.

* `lt_leadingExponent` — a fraction is below the power of ten after its leading digit;
* `Interval.search_eq_some`, `Interval.nearest?_eq_some` — what the search finds;
* `shortest_written` — what is known of the shortest decimal.
-/

namespace NavStream.Decimal

/-! ## Fractions -/

namespace Ratio

/-- The number that a fraction stands for. -/
def value (x : Ratio) : ℚ := x.num / x.den

end Ratio

/-- A power is made of positive numbers. -/
theorem powerRatio_pos {base : Nat} (hbase : 0 < base) (exponent : Int) :
    0 < (powerRatio base exponent).num ∧ 0 < (powerRatio base exponent).den := by
  rw [powerRatio]
  split
  · exact ⟨Nat.pow_pos hbase, Nat.one_pos⟩
  · exact ⟨Nat.one_pos, Nat.pow_pos hbase⟩

/-- A power stands for itself. -/
theorem value_powerRatio (base : Nat) (exponent : Int) :
    (powerRatio base exponent).value = (base : ℚ) ^ exponent := by
  rw [powerRatio]
  split
  next h =>
    obtain ⟨n, rfl⟩ := Int.eq_ofNat_of_zero_le h
    simp [Ratio.value]
  next h =>
    obtain ⟨n, rfl⟩ : ∃ n : Nat, exponent = -n := ⟨(-exponent).toNat, by omega⟩
    simp [Ratio.value]

/-! ## The leading digit -/

theorem digitCount_pos (n : Nat) : 0 < digitCount n := Nat.length_toDigits_pos

/-- A number has at most `count` digits where it is below that power of ten. -/
theorem digitCount_le_iff {n count : Nat} (hcount : 0 < count) :
    digitCount n ≤ count ↔ n < 10 ^ count :=
  Nat.length_toDigits_le_iff (by decide) hcount

/-- A number is below the power of ten of its number of digits. -/
theorem lt_pow_digitCount (n : Nat) : n < 10 ^ digitCount n :=
  (digitCount_le_iff (digitCount_pos n)).mp le_rfl

/-- A positive number is not below the power of ten of its first digit. -/
theorem pow_le_of_digitCount {n k : Nat} (hn : 0 < n) (hk : digitCount n = k + 1) : 10 ^ k ≤ n := by
  rcases Nat.eq_zero_or_pos k with rfl | hpos
  · exact hn
  · by_contra hless
    have := (digitCount_le_iff hpos).mpr (Nat.not_le.mp hless)
    omega

/-- A number below a power of two has at most as many decimal digits as binary ones. -/
theorem digitCount_le_of_lt {n k : Nat} (hk : 0 < k) (hn : n < 2 ^ k) : digitCount n ≤ k :=
  (digitCount_le_iff hk).mpr (hn.trans_le (Nat.pow_le_pow_left (by decide) k))

/-- A fraction is below the power of ten after that of its leading digit. -/
theorem lt_leadingExponent (x : Ratio) (hden : 0 < x.den) :
    x.value < 10 ^ (leadingExponent x + 1) := by
  obtain ⟨k, hk⟩ : ∃ k, digitCount x.den = k + 1 :=
    Nat.exists_eq_add_one.mpr (digitCount_pos x.den)
  have hdenominator : (0 : ℚ) < x.den := by exact_mod_cast hden
  rw [leadingExponent]
  split
  next =>
    -- the digits of numerator and denominator alone bound the fraction
    have hnum : (x.num : ℚ) < 10 ^ digitCount x.num := by exact_mod_cast lt_pow_digitCount x.num
    have hpow : (10 : ℚ) ^ k ≤ x.den := by exact_mod_cast pow_le_of_digitCount hden hk
    have hexponent : (digitCount x.num : Int) - digitCount x.den + 1 = digitCount x.num - k := by
      omega
    rw [hexponent, zpow_sub₀ (by norm_num), zpow_natCast, zpow_natCast, Ratio.value]
    exact div_lt_div₀ hnum hpow (by positivity) (by positivity)
  next hless =>
    -- the guess was too large, and the comparison says so
    rw [Int.sub_add_cancel, ← Nat.cast_ofNat, ← value_powerRatio]
    obtain ⟨-, hpower⟩ := powerRatio_pos (show 0 < 10 by decide)
      ((digitCount x.num : Int) - digitCount x.den)
    rw [Ratio.value, Ratio.value, div_lt_div_iff₀ hdenominator (by exact_mod_cast hpower)]
    exact_mod_cast Nat.not_le.mp hless

/-- The leading digit is no farther from the point than numerator and denominator have digits. -/
theorem leadingExponent_bounds (x : Ratio) :
    -digitCount x.den ≤ leadingExponent x ∧ leadingExponent x ≤ digitCount x.num := by
  have := digitCount_pos x.num
  rw [leadingExponent]
  split <;> omega

/-! ## The interval -/

namespace Interval

variable {interval : Interval} {power : Ratio} {digits : Nat}

/-- What an interval contains lies between its ends. -/
theorem value_of_contains (h : interval.contains digits power = true)
    (hunit : 0 < interval.unit.den) (hpower : 0 < power.den) :
    interval.low * interval.unit.value ≤ digits * power.value ∧
      digits * power.value ≤ interval.high * interval.unit.value := by
  have hweak : interval.low * interval.unit.num * power.den ≤
        digits * power.num * interval.unit.den ∧
      digits * power.num * interval.unit.den ≤
        interval.high * interval.unit.num * power.den := by
    rw [contains] at h
    split at h
    · simpa using h
    · simp only [Bool.and_eq_true, decide_eq_true_eq] at h
      exact ⟨h.1.le, h.2.le⟩
  have hunit : (0 : ℚ) < interval.unit.den := by exact_mod_cast hunit
  have hpower : (0 : ℚ) < power.den := by exact_mod_cast hpower
  rw [Ratio.value, Ratio.value, ← mul_div_assoc, ← mul_div_assoc, ← mul_div_assoc,
    div_le_div_iff₀ hunit hpower, div_le_div_iff₀ hpower hunit]
  exact_mod_cast hweak

/-- The decimal nearest to a number reads back, and is at most the next one on its grid. -/
theorem nearest?_eq_some {tie : Tie} (h : interval.nearest? tie power = some digits) :
    interval.contains digits power = true ∧
      digits ≤ interval.value * interval.unit.num * power.den /
        (power.num * interval.unit.den) + 1 := by
  unfold nearest? at h
  simp only at h
  generalize interval.value * interval.unit.num * power.den / (power.num * interval.unit.den) =
    below at h ⊢
  split at h
  next hbelow habove =>
    have heither : digits = below ∨ digits = below + 1 := by
      split at h
      next => exact Or.inl (Option.some.inj h).symm
      next =>
        split at h
        next => exact Or.inr (Option.some.inj h).symm
        next =>
          split at h
          next => exact Or.inr (Option.some.inj h).symm
          next =>
            rw [← Option.some.inj h]
            split
            · exact Or.inl rfl
            · exact Or.inr rfl
    rcases heither with rfl | rfl
    · exact ⟨hbelow, by omega⟩
    · exact ⟨habove, by omega⟩
  next hbelow habove =>
    cases h
    exact ⟨hbelow, by omega⟩
  next hbelow habove =>
    cases h
    exact ⟨habove, by omega⟩
  next => cases h

/-- What the search finds is the nearest decimal on one of the grids that it tries. -/
theorem search_eq_some {tie : Tie} {leading : Int} {fuel count : Nat} {d : Numeral}
    (h : interval.search tie leading fuel count = some d) :
    ∃ k, count ≤ k ∧ k < count + fuel ∧ d.exponent = leading - k + 1 ∧
      interval.nearest? tie (powerRatio 10 d.exponent) = some d.digits := by
  induction fuel generalizing count with
  | zero => cases h
  | succ fuel ih =>
    rw [search] at h
    split at h
    next digits hnearest =>
      cases h
      exact ⟨count, le_rfl, by omega, rfl, hnearest⟩
    next =>
      obtain ⟨k, hlow, hhigh, hrest⟩ := ih h
      exact ⟨k, by omega, by omega, hrest⟩

end Interval

/-! ## The shortest decimal -/

namespace Numeral

/-- The number that a decimal stands for. -/
def value (d : Numeral) : ℚ := d.digits * 10 ^ d.exponent

end Numeral

/-- What is known about a decimal that is found for a number, when at most `zeros` zeros have been
dropped: it has digits, but not too many, its power is in the range of the number's, and it is at
most half a place above the number. -/
structure Written (format : Format) (significand : Nat) (exponent : Int) (zeros : Nat)
    (d : Numeral) : Prop where
  /-- It has at least one digit. -/
  pos : 0 < d.digits
  /-- It has no more digits than tell two numbers apart. -/
  digits : d.digits ≤ 10 ^ format.sufficientDigits
  /-- Its power is not too small. -/
  low : -digitCount (powerRatio 2 (exponent - 2)).den - format.sufficientDigits + 1 ≤ d.exponent
  /-- Its power is not too large. -/
  high : d.exponent ≤ digitCount (4 * significand * (powerRatio 2 (exponent - 2)).num) + zeros
  /-- It is at most half of the last place above the number. -/
  value : d.value ≤ (2 * significand + 1) * 2 ^ (exponent - 1)

/-- On the grid that gives a fraction `count` digits, no number below it has more. -/
theorem quotient_lt {x : Ratio} (hden : 0 < x.den) {leading : Int} (count : Nat)
    (hx : x.value < 10 ^ (leading + 1)) :
    x.num * (powerRatio 10 (leading - count + 1)).den /
      ((powerRatio 10 (leading - count + 1)).num * x.den) < 10 ^ count := by
  obtain ⟨hnum, hpower⟩ := powerRatio_pos (show 0 < 10 by decide) (leading - count + 1)
  have hvalue := value_powerRatio 10 (leading - count + 1)
  generalize powerRatio 10 (leading - count + 1) = power at *
  rw [Nat.div_lt_iff_lt_mul (Nat.mul_pos hnum hden)]
  have hsplit : (10 : ℚ) ^ (leading + 1) = 10 ^ count * power.value := by
    rw [hvalue, ← zpow_natCast, Nat.cast_ofNat, ← zpow_add₀ (by norm_num)]
    congr 1
    omega
  have hden : (0 : ℚ) < x.den := by exact_mod_cast hden
  have hpower : (0 : ℚ) < power.den := by exact_mod_cast hpower
  rw [hsplit, Ratio.value, Ratio.value, ← mul_div_assoc, div_lt_div_iff₀ hden hpower] at hx
  have hx : x.num * power.den < 10 ^ count * power.num * x.den := by exact_mod_cast hx
  rwa [← Nat.mul_assoc]

/-- What the search finds for a positive number. -/
theorem written_of_search (format : Format) (tie : Tie) {significand : Nat}
    (hsignificand : 0 < significand) (exponent : Int) (narrowBelow : Bool) {d : Numeral}
    (h : (intervalOf significand exponent narrowBelow).search tie
      (leadingExponent ⟨4 * significand * (powerRatio 2 (exponent - 2)).num,
        (powerRatio 2 (exponent - 2)).den⟩) format.sufficientDigits 1 = some d) :
    Written format significand exponent 0 d := by
  obtain ⟨hnum, hden⟩ := powerRatio_pos Nat.two_pos (exponent - 2)
  obtain ⟨k, hk, hhigh, hexponent, hnearest⟩ := Interval.search_eq_some h
  obtain ⟨hcontains, hdigits⟩ := Interval.nearest?_eq_some hnearest
  have hpower : (powerRatio 10 d.exponent).value = 10 ^ d.exponent := value_powerRatio 10 _
  have hunit : (intervalOf significand exponent narrowBelow).unit.value = 2 ^ (exponent - 2) :=
    value_powerRatio 2 _
  obtain ⟨hbelow, habove⟩ := Interval.value_of_contains hcontains hden
    (powerRatio_pos (by decide) _).2
  rw [hpower, hunit] at hbelow habove
  obtain ⟨x, hx⟩ : ∃ x : Ratio, x = ⟨4 * significand * (powerRatio 2 (exponent - 2)).num,
    (powerRatio 2 (exponent - 2)).den⟩ := ⟨_, rfl⟩
  have hxden : x.den = (powerRatio 2 (exponent - 2)).den := by rw [hx]
  have hxnum : x.num = 4 * significand * (powerRatio 2 (exponent - 2)).num := by rw [hx]
  obtain ⟨hleadinglow, hleadinghigh⟩ := leadingExponent_bounds x
  rw [← hx] at hexponent
  refine ⟨?_, ?_, by rw [← hxden]; omega, by rw [← hxnum]; omega, ?_⟩
  · -- the lower end of the interval is positive
    have hlow : 0 < (intervalOf significand exponent narrowBelow).low := by
      change 0 < 4 * significand - (if narrowBelow then 1 else 2)
      split <;> omega
    by_contra hzero
    rw [Nat.eq_zero_of_not_pos hzero, Nat.cast_zero, zero_mul] at hbelow
    have hpositive : (0 : ℚ) <
        (intervalOf significand exponent narrowBelow).low * 2 ^ (exponent - 2) := by positivity
    exact absurd hbelow (not_le.mpr hpositive)
  · -- no grid is finer than the last one that is tried
    have hden : 0 < x.den := hxden ▸ hden
    have hquotient := quotient_lt hden k (lt_leadingExponent x hden)
    rw [← hexponent, hxnum, hxden] at hquotient
    calc d.digits ≤ 10 ^ k := hdigits.trans hquotient
      _ ≤ 10 ^ format.sufficientDigits := Nat.pow_le_pow_right (by decide) (by omega)
  · -- the upper end of the interval is half of the last place above the number
    calc d.value ≤ ((4 * significand + 2 : Nat) : ℚ) * 2 ^ (exponent - 2) := habove
      _ = (2 * significand + 1) * 2 ^ (exponent - 1) := by
        rw [show exponent - 1 = exponent - 2 + 1 by omega, zpow_add_one₀ (by norm_num)]
        push_cast
        ring

/-! ## Zeros at the end -/

/-- Zeros at the end of a number are dropped by counting them. -/
theorem stripZeros_eq (fuel : Nat) (d : Numeral) : ∃ zeros ≤ fuel,
    (stripZeros fuel d).exponent = d.exponent + zeros ∧
      (stripZeros fuel d).digits * 10 ^ zeros = d.digits := by
  induction fuel generalizing d with
  | zero => exact ⟨0, le_rfl, (Int.add_zero _).symm, Nat.mul_one _⟩
  | succ fuel ih =>
    rw [stripZeros]
    split
    next hzero =>
      obtain ⟨zeros, hle, hexponent, hdigits⟩ := ih ⟨d.digits / 10, d.exponent + 1⟩
      refine ⟨zeros + 1, by omega, ?_, ?_⟩
      · rw [hexponent]
        push_cast
        ring
      · rw [Nat.pow_succ, ← Nat.mul_assoc, hdigits]
        exact Nat.div_mul_cancel (Nat.dvd_of_mod_eq_zero hzero.2)
    next => exact ⟨0, by omega, (Int.add_zero _).symm, Nat.mul_one _⟩

/-- Dropping zeros does not change the number. -/
theorem Written.stripZeros {format : Format} {significand : Nat} {exponent : Int} {d : Numeral}
    (h : Written format significand exponent 0 d) (fuel : Nat) :
    Written format significand exponent fuel (stripZeros fuel d) := by
  obtain ⟨zeros, hzeros, hexponent, hdigits⟩ := stripZeros_eq fuel d
  have hlow := h.low
  have hhigh := h.high
  refine ⟨?_, ?_, by omega, by omega, ?_⟩
  · exact Nat.pos_of_mul_pos_right (hdigits ▸ h.pos)
  · calc (Decimal.stripZeros fuel d).digits
        ≤ (Decimal.stripZeros fuel d).digits * 10 ^ zeros :=
          Nat.le_mul_of_pos_right _ (Nat.pow_pos (by decide))
      _ = d.digits := hdigits
      _ ≤ 10 ^ format.sufficientDigits := h.digits
  · have hsame : (Decimal.stripZeros fuel d).value = d.value := by
      rw [Numeral.value, Numeral.value, hexponent, ← hdigits, zpow_add₀ (by norm_num),
        zpow_natCast]
      push_cast
      ring
    exact hsame.trans_le h.value

/-- The shortest decimal of a positive number is zero only where none is found. -/
theorem shortest_written (format : Format) (tie : Tie) {significand : Nat}
    (hsignificand : 0 < significand) (exponent : Int) (narrowBelow : Bool) :
    shortest format tie significand exponent narrowBelow = ⟨0, 0⟩ ∨
      Written format significand exponent format.sufficientDigits
        (shortest format tie significand exponent narrowBelow) := by
  obtain ⟨found, hfound⟩ : ∃ found, found =
    (intervalOf significand exponent narrowBelow).search tie
      (leadingExponent ⟨4 * significand * (powerRatio 2 (exponent - 2)).num,
        (powerRatio 2 (exponent - 2)).den⟩) format.sufficientDigits 1 := ⟨_, rfl⟩
  have hshortest : shortest format tie significand exponent narrowBelow =
      stripZeros format.sufficientDigits (found.getD ⟨0, 0⟩) := by
    rw [hfound]
    rfl
  rw [hshortest]
  cases found with
  | none =>
    left
    cases format.sufficientDigits <;> rfl
  | some d =>
    right
    have hwritten := written_of_search format tie hsignificand exponent narrowBelow hfound.symm
    exact hwritten.stripZeros format.sufficientDigits

end NavStream.Decimal
