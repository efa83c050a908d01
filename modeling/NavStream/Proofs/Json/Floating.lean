import NavStream.Proofs.Decimal.Binary
import NavStream.Proofs.Decimal.Shortest
import NavStream.Proofs.Json.Layout
import NavStream.Proofs.Json.Rounding

/-!
# Floating-point numbers that are written can be read

A finite number is written as its shortest decimal, which has at most 17 digits and hardly exceeds
the number. So its text is a literal that is never refused: neither do its digits overflow 64 bits,
nor is it too large. What is read need not be the number that was written, as it is rounded twice.

* `Restored` — numbers that are read as themselves;
* `exists_literal` — finite numbers are written as literals that can be read;
* `text_of_not_isFinite` — all others are written as null.
-/

namespace NavStream.Json

open Decimal (Format Numeral Style Tie Written digitCount powerRatio shortest shortest_written)

/-! ## Decimals that can be read -/

/-- A power of two has at most as many binary digits as its exponent says. -/
theorem powerRatio_two_le (exponent : Int) :
    (powerRatio 2 exponent).num ≤ 2 ^ exponent.toNat ∧
      (powerRatio 2 exponent).den ≤ 2 ^ (-exponent).toNat := by
  rw [powerRatio]
  split
  · exact ⟨le_rfl, Nat.one_le_two_pow⟩
  · exact ⟨Nat.one_le_two_pow, le_rfl⟩

/-- The decimal that is written for a number can be read unless the number is the largest one. -/
theorem readable_of_written {format : Format} (hformat : format.sufficientDigits ≤ 17)
    {significand : Nat} {exponent : Int} {d : Numeral}
    (h : Written format significand exponent format.sufficientDigits d)
    (hsignificand : significand < 2 ^ 53) (hlow : -1074 ≤ exponent) (hhigh : exponent ≤ 971)
    (hsize : (2 * significand + 1 : ℚ) * 2 ^ (exponent - 1) ≤ (2 ^ 54 - 3) * halfPlace) :
    Literal.Readable d := by
  have hdigits : d.digits ≤ 10 ^ 17 :=
    h.digits.trans (Nat.pow_le_pow_right (by decide) hformat)
  refine ⟨by omega, ?_, ?_⟩
  · obtain ⟨hnum, hden⟩ := powerRatio_two_le (exponent - 2)
    have hdenominator : digitCount (powerRatio 2 (exponent - 2)).den ≤
        (-(exponent - 2)).toNat + 1 := by
      refine Decimal.digitCount_le_of_lt (Nat.succ_pos _) (hden.trans_lt ?_)
      exact Nat.pow_lt_pow_right (by decide) (Nat.lt_succ_self _)
    have hnumerator : digitCount (4 * significand * (powerRatio 2 (exponent - 2)).num) ≤
        55 + (exponent - 2).toNat := by
      refine Decimal.digitCount_le_of_lt (by omega) ?_
      calc 4 * significand * (powerRatio 2 (exponent - 2)).num
          ≤ 4 * significand * 2 ^ (exponent - 2).toNat := Nat.mul_le_mul_left _ hnum
        _ < 2 ^ 55 * 2 ^ (exponent - 2).toNat :=
          Nat.mul_lt_mul_of_pos_right (by omega) (Nat.two_pow_pos _)
        _ = 2 ^ (55 + (exponent - 2).toNat) := (Nat.pow_add ..).symm
    have := h.low
    have := h.high
    omega
  · intro hexponent
    obtain ⟨power, hpower⟩ := Int.eq_ofNat_of_zero_le hexponent
    rw [hpower]
    refine isSome_scaled?_of_le h.pos hdigits ?_
    have hvalue := h.value.trans hsize
    rw [Numeral.value, hpower, zpow_natCast] at hvalue
    have hlargest : ((2 ^ 54 - 3 : Nat) : ℚ) = 2 ^ 54 - 3 := by norm_num
    rw [← hlargest] at hvalue
    exact_mod_cast hvalue

/-- Zero can be read. -/
theorem readable_zero : Literal.Readable ⟨0, 0⟩ :=
  ⟨by decide, by decide, fun _ => by decide +kernel⟩

/-- The decimal of a number can be read. -/
theorem readable_shortest {format : Format} (hformat : format.sufficientDigits ≤ 17) (tie : Tie)
    {significand : Nat} {exponent : Int} (hpos : 0 < significand)
    (hsignificand : significand < 2 ^ 53) (hlow : -1074 ≤ exponent) (hhigh : exponent ≤ 971)
    (hless : significand < 2 ^ 53 - 1 ∨ exponent < 971) (narrowBelow : Bool) :
    Literal.Readable (shortest format tie significand exponent narrowBelow) := by
  have hsize : (2 * significand + 1 : ℚ) * 2 ^ (exponent - 1) ≤ (2 ^ 54 - 3) * halfPlace := by
    have hscale : (0 : ℚ) < 2 ^ (exponent - 1) := by positivity
    rcases hless with hless | hless
    · have hodd : (2 * significand + 1 : ℚ) ≤ 2 ^ 54 - 3 := by
        rw [le_sub_iff_add_le]
        exact_mod_cast show 2 * significand + 1 + 3 ≤ 2 ^ 54 by omega
      have hplace : (2 : ℚ) ^ (exponent - 1) ≤ halfPlace := by
        rw [halfPlace_eq]
        exact zpow_le_zpow_right₀ (by norm_num) (by omega)
      exact mul_le_mul hodd hplace hscale.le (by norm_num)
    · have hodd : (2 * significand + 1 : ℚ) ≤ (2 ^ 54 - 3) * 2 := by
        rw [sub_mul, le_sub_iff_add_le]
        exact_mod_cast show 2 * significand + 1 + 3 * 2 ≤ 2 ^ 54 * 2 by omega
      have hplace : (2 : ℚ) * 2 ^ (exponent - 1) ≤ halfPlace := by
        rw [halfPlace_eq, ← zpow_one_add₀ (by norm_num)]
        exact zpow_le_zpow_right₀ (by norm_num) (by omega)
      calc (2 * significand + 1 : ℚ) * 2 ^ (exponent - 1)
          ≤ (2 ^ 54 - 3) * 2 * 2 ^ (exponent - 1) := mul_le_mul_of_nonneg_right hodd hscale.le
        _ = (2 ^ 54 - 3) * (2 * 2 ^ (exponent - 1)) := mul_assoc ..
        _ ≤ (2 ^ 54 - 3) * halfPlace := mul_le_mul_of_nonneg_left hplace (by norm_num)
  rcases shortest_written format tie hpos exponent narrowBelow with hzero | hwritten
  · exact hzero ▸ readable_zero
  · exact readable_of_written hformat hwritten hsignificand hlow hhigh hsize

/-- The decimal of the largest number of double precision can be read. -/
theorem readable_largest (narrowBelow : Bool) :
    Literal.Readable (shortest Decimal.binary64 .even (2 ^ 53 - 1) 971 narrowBelow) := by
  have hlargest : shortest Decimal.binary64 .even (2 ^ 53 - 1) 971 narrowBelow =
      ⟨17976931348623157, 292⟩ := by
    cases narrowBelow <;> decide +kernel
  rw [hlargest]
  exact ⟨by decide, by decide, fun _ => by decide +kernel⟩

/-- The decimals of a family of texts are literals. -/
theorem exists_literal_render (style : Style) (format : Format)
    (signed : style.signedPower = true) (plain : style.plainTo ≤ 17)
    (zero : style.unsigned ⟨0, 0⟩ = ['0', '.', '0']) (negative : Bool) (significand : Nat)
    (exponent : Int) (narrowBelow : Bool)
    (h : 0 < significand → Literal.Readable
      (shortest format style.tie significand exponent narrowBelow)) :
    ∃ l : Literal,
      l.bytes = utf8 (style.render format
        (.finite negative significand exponent narrowBelow)).toList ∧
      l.Countable ∧ l.number?.isSome := by
  obtain ⟨d, hzero, hunsigned, hreadable⟩ : ∃ d : Numeral, (d.digits = 0 → d.exponent = 0) ∧
      (if significand = 0 then ['0', '.', '0']
        else style.unsigned (shortest format style.tie significand exponent narrowBelow)) =
        style.unsigned d ∧ Literal.Readable d := by
    by_cases hsignificand : significand = 0
    · exact ⟨⟨0, 0⟩, fun _ => rfl, by rw [if_pos hsignificand, zero], readable_zero⟩
    · have hpos := Nat.pos_of_ne_zero hsignificand
      refine ⟨_, fun hdigits => ?_, if_neg hsignificand, h hpos⟩
      rcases shortest_written format style.tie hpos exponent narrowBelow with hzero | hwritten
      · rw [hzero]
      · exact absurd hdigits hwritten.pos.ne'
  obtain ⟨l, hbytes, hread⟩ := Literal.exists_unsigned negative signed plain hzero
  refine ⟨l, ?_, hread hreadable⟩
  rw [hbytes, Style.render, hunsigned, String.toList_ofList]
  cases negative <;> rfl

/-! ## Floating-point numbers of either precision -/

/-- A floating-point number of either precision. -/
inductive Floating where
  /-- One of double precision. -/
  | double (x : Float)
  /-- One of single precision. -/
  | single (x : Float32)
deriving DecidableEq

namespace Floating

/-- Whether a number is neither infinite nor undefined. -/
def isFinite : Floating → Bool
  | double x => x.isFinite
  | single x => x.isFinite

/-- The text of a number. -/
def text : Floating → String
  | double x => float64 x
  | single x => float32 x

/-- A number in the precision of another one. -/
def ofNumber (n : Number) : Floating → Floating
  | double _ => double n.toFloat
  | single _ => single n.toFloat32

/-- A number is restored where its text is read as itself. -/
def Restored (x : Floating) : Prop :=
  ∃ n, readNumber x.text.toUTF8.toList = .ok (n, []) ∧ x.ofNumber n = x

/-- Reading decides whether a number is restored. -/
instance : DecidablePred Restored := fun x =>
  match hread : readNumber x.text.toUTF8.toList with
  | .ok (n, []) => decidable_of_iff (x.ofNumber n = x)
      ⟨fun same => ⟨n, hread, same⟩, fun ⟨m, hm, same⟩ => by
        cases hread.symm.trans hm
        exact same⟩
  | .ok (_, _ :: _) => isFalse fun ⟨_, hm, _⟩ => by cases hread.symm.trans hm
  | .error _ => isFalse fun ⟨_, hm, _⟩ => by cases hread.symm.trans hm

-- what is read is rounded once for the digits and once for the power, so some numbers move
example : ¬ (double 264042116423.64166).Restored := by decide +kernel

/-- A finite number is written as a literal that can be read. -/
theorem exists_literal {x : Floating} (h : x.isFinite = true) :
    ∃ l : Literal, l.bytes = utf8 x.text.toList ∧ l.Countable ∧ l.number?.isSome := by
  cases x with
  | double x =>
    obtain ⟨negative, significand, exponent, narrowBelow, hparts,
      hsignificand, hlow, hhigh⟩ :=
      Decimal.exists_partsOf h
    have htext : (double x).text = style64.render Decimal.binary64
        (.finite negative significand exponent narrowBelow) := by
      rw [← hparts]
      exact if_pos h
    rw [htext]
    refine exists_literal_render style64 Decimal.binary64 rfl (by decide) (by decide) negative
      significand exponent narrowBelow fun hpos => ?_
    by_cases hlargest : significand = 2 ^ 53 - 1 ∧ exponent = 971
    · rw [hlargest.1, hlargest.2]
      exact readable_largest narrowBelow
    · exact readable_shortest (by decide) _ hpos hsignificand hlow hhigh (by omega) narrowBelow
  | single x =>
    obtain ⟨negative, significand, exponent, narrowBelow, hparts,
      hsignificand, hlow, hhigh⟩ :=
      Decimal.exists_partsOf32 h
    have htext : (single x).text = style32.render Decimal.binary32
        (.finite negative significand exponent narrowBelow) := by
      rw [← hparts]
      exact if_pos h
    rw [htext]
    refine exists_literal_render style32 Decimal.binary32 rfl (by decide) (by decide) negative
      significand exponent narrowBelow fun hpos => ?_
    exact readable_shortest (by decide) _ hpos (by omega) (by omega) (by omega) (by omega)
      narrowBelow

/-- A number that is not finite is written as nothing. -/
theorem text_of_not_isFinite {x : Floating} (h : x.isFinite = false) : x.text = "null" := by
  cases x with
  | double x => exact if_neg (Bool.eq_false_iff.mp h)
  | single x => exact if_neg (Bool.eq_false_iff.mp h)

/-- A number that is restored is finite. -/
theorem Restored.isFinite {x : Floating} (h : x.Restored) : x.isFinite = true := by
  obtain ⟨n, hread, _⟩ := h
  cases hx : x.isFinite with
  | true => rfl
  | false =>
    have hnull : "null".toUTF8.toList = [110, 117, 108, 108] := by decide +kernel
    rw [text_of_not_isFinite hx, hnull] at hread
    cases hread

end Floating

end NavStream.Json
