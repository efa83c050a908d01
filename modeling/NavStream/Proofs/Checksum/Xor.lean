import NavStream.Checksum.Xor

/-!
# What the check of sentences catches

A single byte that changes always changes the exclusive or of all bytes, and a check value is
spelled by its own two digits only, as far as the case of letters does not count.

* `xorChecksum_set_ne` — a changed byte changes the check value;
* `lowerCase` — a byte without the case of its letter;
* `lowerCase_of_hexByte?` — digits of the same value differ in case only.
-/

namespace NavStream.Checksum

/-! ## Changed bytes -/

/-- The check of one more byte in front. -/
theorem xorChecksum_cons (byte : UInt8) (rest : List UInt8) :
    xorChecksum (byte :: rest) = byte ^^^ xorChecksum rest := by
  have hsplit := xorChecksum_append [byte] rest
  have hone : xorChecksum [byte] = byte := UInt8.zero_xor
  rw [hone] at hsplit
  exact hsplit

/-- **A changed byte changes the check value.** -/
theorem xorChecksum_set_ne {bytes : List UInt8} {index : Nat} (hindex : index < bytes.length)
    {byte : UInt8} (hbyte : byte ≠ bytes[index]) :
    xorChecksum (bytes.set index byte) ≠ xorChecksum bytes := by
  induction bytes generalizing index with
  | nil => cases hindex
  | cons first rest ih =>
    cases index with
    | zero =>
      rw [List.set_cons_zero, xorChecksum_cons, xorChecksum_cons]
      intro hsame
      exact hbyte (UInt8.xor_left_inj _ |>.1 hsame)
    | succ index =>
      rw [List.set_cons_succ, xorChecksum_cons, xorChecksum_cons]
      intro hsame
      exact ih (Nat.lt_of_succ_lt_succ hindex) hbyte (UInt8.xor_right_inj _ |>.1 hsame)

/-! ## Digits -/

/-- A byte without the case of its letter. -/
def lowerCase (byte : UInt8) : UInt8 := if 65 ≤ byte ∧ byte ≤ 90 then byte + 32 else byte

/-- A digit has a value below 16, which tells the digit but for its case. -/
theorem toNat_lowerCase_of_hexDigit? {digit value : UInt8} (h : hexDigit? digit = some value) :
    value.toNat < 16 ∧
      (lowerCase digit).toNat = value.toNat + if value.toNat < 10 then 48 else 87 := by
  unfold hexDigit? at h
  unfold lowerCase
  simp only [UInt8.le_iff_toNat_le, UInt8.reduceToNat] at h ⊢
  split at h
  · next hdecimal =>
    cases h
    have hle : (48 : UInt8) ≤ digit := UInt8.le_iff_toNat_le.2 hdecimal.1
    have hvalue : (digit - 48).toNat = digit.toNat - 48 := UInt8.toNat_sub_of_le _ _ hle
    rw [hvalue, if_neg (by omega), if_pos (by omega)]
    omega
  · split at h
    · next hupper =>
      cases h
      have hle : (55 : UInt8) ≤ digit := UInt8.le_iff_toNat_le.2 (by simp; omega)
      have hvalue : (digit - 55).toNat = digit.toNat - 55 := UInt8.toNat_sub_of_le _ _ hle
      have hlower : (digit + 32).toNat = digit.toNat + 32 := by
        simp only [UInt8.toNat_add, UInt8.reduceToNat]
        omega
      rw [hvalue, if_pos (by omega), if_neg (by omega), hlower]
      omega
    · split at h
      · next hlower =>
        cases h
        have hle : (87 : UInt8) ≤ digit := UInt8.le_iff_toNat_le.2 (by simp; omega)
        have hvalue : (digit - 87).toNat = digit.toNat - 87 := UInt8.toNat_sub_of_le _ _ hle
        rw [hvalue, if_neg (by omega), if_neg (by omega)]
        omega
      · cases h

/-- Two digits spell a byte of which they are the halves. -/
theorem toNat_of_hexByte? {high low value : UInt8} (h : hexByte? high low = some value) :
    ∃ first second, hexDigit? high = some first ∧ hexDigit? low = some second ∧
      value.toNat = 16 * first.toNat + second.toNat ∧ second.toNat < 16 := by
  unfold hexByte? at h
  obtain ⟨first, hfirst, h⟩ := Option.bind_eq_some_iff.1 h
  obtain ⟨second, hsecond, h⟩ := Option.bind_eq_some_iff.1 h
  obtain rfl := Option.some.inj h
  have hhigh := (toNat_lowerCase_of_hexDigit? hfirst).1
  have hlow := (toNat_lowerCase_of_hexDigit? hsecond).1
  refine ⟨first, second, hfirst, hsecond, ?_, hlow⟩
  simp only [UInt8.toNat_add, UInt8.toNat_mul, UInt8.reduceToNat]
  omega

/-- Digits of the same value differ in case only. -/
theorem lowerCase_of_hexDigit? {digit other value : UInt8} (h : hexDigit? digit = some value)
    (hother : hexDigit? other = some value) : lowerCase digit = lowerCase other := by
  rw [← UInt8.toNat_inj, (toNat_lowerCase_of_hexDigit? h).2,
    (toNat_lowerCase_of_hexDigit? hother).2]

/-- **Digits that spell the same byte differ in case only.** -/
theorem lowerCase_of_hexByte? {high low high' low' value : UInt8}
    (h : hexByte? high low = some value) (hother : hexByte? high' low' = some value) :
    lowerCase high = lowerCase high' ∧ lowerCase low = lowerCase low' := by
  obtain ⟨first, second, hhigh, hlow, hvalue, hlt⟩ := toNat_of_hexByte? h
  obtain ⟨first', second', hhigh', hlow', hvalue', hlt'⟩ := toNat_of_hexByte? hother
  have hfirst : first = first' := by
    rw [← UInt8.toNat_inj]
    omega
  have hsecond : second = second' := by
    rw [← UInt8.toNat_inj]
    omega
  subst hfirst hsecond
  exact ⟨lowerCase_of_hexDigit? hhigh hhigh', lowerCase_of_hexDigit? hlow hlow'⟩

end NavStream.Checksum
