import NavStream.Proofs.Checksum.Residue

/-!
# Bursts of errors

Dividing out respects the exclusive or, so the check of damaged bytes is the check of the bytes and
that of the error by itself. An error whose bits lie close together is first read into the register
as it stands, and a register that holds something never becomes empty again. Bytes and trailer
together leave the register empty exactly where the check passes: it fails after any such error.

* `bits`, `crcFrom_eq_foldl_bits` — the check bit by bit;
* `foldl_shiftIn` — few bits are the register that spells them;
* `crcFrom_damage` — the check of damaged bytes;
* `bursts_show` — errors within 32 places show.
-/

namespace NavStream.Checksum

open NavStream.Bytes

/-! ## Bit by bit -/

/-- The bits of a byte, the least significant one first. -/
def bitsOf (byte : UInt8) : List Bool := (List.range 8).map byte.toNat.testBit

/-- The bits of bytes in the order in which they are divided out. -/
def bits (bytes : List UInt8) : List Bool := bytes.flatMap bitsOf

/-- The number that bits spell, the least significant one first. -/
def bitValue : List Bool → Nat
  | [] => 0
  | bit :: rest => bit.toNat + 2 * bitValue rest

/-- Divides out one bit of the data. -/
def shiftIn (register : UInt32) (bit : Bool) : UInt32 :=
  shiftBit (register ^^^ UInt32.ofNat bit.toNat)

/-- Dividing out a bit respects the exclusive or. -/
theorem shiftBit_xor (register other : UInt32) :
    shiftBit (register ^^^ other) = shiftBit register ^^^ shiftBit other := by
  have hshift : (register ^^^ other) >>> 1 = (register >>> 1) ^^^ (other >>> 1) :=
    UInt32.shiftRight_xor
  have hbit : (register ^^^ other) &&& 1 = 1 ↔ ¬(register &&& 1 = 1 ↔ other &&& 1 = 1) := by
    rw [and_one_eq_one_iff, and_one_eq_one_iff, and_one_eq_one_iff, UInt32.toNat_xor,
      Nat.xor_mod_two_eq_one]
  unfold shiftBit
  rw [hshift]
  by_cases hr : register &&& 1 = 1 <;> by_cases ho : other &&& 1 = 1
  · rw [if_neg (by simp [hbit, hr, ho]), if_pos hr, if_pos ho]
    rw [UInt32.xor_assoc, UInt32.xor_comm (other >>> 1), ← UInt32.xor_assoc generator]
    simp
  · rw [if_pos (by simp [hbit, hr, ho]), if_pos hr, if_neg ho]
    ac_rfl
  · rw [if_pos (by simp [hbit, hr, ho]), if_neg hr, if_pos ho]
    ac_rfl
  · rw [if_neg (by simp [hbit, hr, ho]), if_neg hr, if_neg ho]

/-- Dividing out bits respects the exclusive or. -/
theorem repeat_shiftBit_xor (count : Nat) (register other : UInt32) :
    Nat.repeat shiftBit count (register ^^^ other) =
      Nat.repeat shiftBit count register ^^^ Nat.repeat shiftBit count other := by
  induction count with
  | zero => rfl
  | succ count ih => rw [Nat.repeat, ih, shiftBit_xor]; rfl

/-- The first of several bits may be divided out apart. -/
theorem repeat_shiftBit_succ (count : Nat) (register : UInt32) :
    Nat.repeat shiftBit (count + 1) register = Nat.repeat shiftBit count (shiftBit register) := by
  induction count with
  | zero => rfl
  | succ count ih => rw [Nat.repeat, ih]; rfl

/-- An empty register stays empty. -/
theorem repeat_shiftBit_zero (count : Nat) : Nat.repeat shiftBit count 0 = 0 := by
  induction count with
  | zero => rfl
  | succ count ih => rw [Nat.repeat, ih]; rfl

/-- A register that is not empty never becomes empty. -/
theorem repeat_shiftBit_ne_zero {register : UInt32} (h : register ≠ 0) (count : Nat) :
    Nat.repeat shiftBit count register ≠ 0 := by
  intro hzero
  rw [← repeat_shiftBit_zero count] at hzero
  exact h (repeat_injective shiftBit_injective count hzero)

/-- Bits spell no number that needs more of them. -/
theorem bitValue_lt (bits : List Bool) : bitValue bits < 2 ^ bits.length := by
  induction bits with
  | nil => exact Nat.one_pos
  | cons bit rest ih =>
    have hbit := bit.toNat_lt
    rw [bitValue, List.length_cons, Nat.pow_succ]
    omega

/-- Bits spell something exactly where one of them is set. -/
theorem bitValue_pos_iff {bits : List Bool} : 0 < bitValue bits ↔ true ∈ bits := by
  induction bits with
  | nil => simp [bitValue]
  | cons bit rest ih => cases bit <;> simp [bitValue, ← ih]

/-- The bits of a byte spell it. -/
theorem bitValue_bitsOf (byte : UInt8) : bitValue (bitsOf byte) = byte.toNat := by
  have hall : ∀ n < 256, bitValue ((List.range 8).map (Nat.testBit n)) = n := by decide +kernel
  exact hall _ byte.toNat_lt

/-- The lowest bit of a number apart from the others. -/
theorem ofNat_bit_xor (bit : Bool) (value : Nat) :
    UInt32.ofNat (bit.toNat + 2 * value) =
      UInt32.ofNat bit.toNat ^^^ UInt32.ofNat (2 * value) := by
  cases bit with
  | false => simp
  | true =>
    have hodd : (1 : Nat) ^^^ (2 * value) = 1 + 2 * value := by
      rw [Nat.add_comm, Nat.xor_comm]
      exact Nat.xor_one_of_even (even_two_mul value)
    rw [Bool.toNat_true, ← hodd, UInt32.ofNat_xor]

/-- **No more bits than the register has are divided out like the register that spells them.** -/
theorem foldl_shiftIn {bits : List Bool} (h : bits.length ≤ 32) (register : UInt32) :
    bits.foldl shiftIn register =
      Nat.repeat shiftBit bits.length (register ^^^ UInt32.ofNat (bitValue bits)) := by
  induction bits generalizing register with
  | nil => simp [bitValue, Nat.repeat]
  | cons bit rest ih =>
    have hrest : rest.length < 32 := h
    have hfits : 2 * bitValue rest < 2 ^ 32 := by
      have hvalue := bitValue_lt rest
      have hpow : 2 ^ rest.length ≤ 2 ^ 31 := Nat.pow_le_pow_right (by decide) (by omega)
      omega
    rw [List.foldl_cons, ih (Nat.le_of_lt hrest), ← shiftBit_double hfits, shiftIn, ← shiftBit_xor,
      List.length_cons, repeat_shiftBit_succ, bitValue, ofNat_bit_xor, UInt32.xor_assoc]

/-- Dividing out bytes is dividing out their bits. -/
theorem crcFrom_eq_foldl_bits (bytes : List UInt8) (register : UInt32) :
    crcFrom register bytes = (bits bytes).foldl shiftIn register := by
  induction bytes generalizing register with
  | nil => rfl
  | cons byte rest ih =>
    have hbyte : shiftByte register byte = (bitsOf byte).foldl shiftIn register := by
      rw [foldl_shiftIn (by simp [bitsOf]), bitValue_bitsOf, shiftByte]
      simp [bitsOf]
    rw [bits, List.flatMap_cons, List.foldl_append, ← hbyte]
    exact ih _

/-! ## Errors -/

/-- Bytes in which the bits that are set in `error` have changed. -/
def damage (bytes error : List UInt8) : List UInt8 := List.zipWith (· ^^^ ·) bytes error

/-- The check of damaged bytes is the check of the bytes and that of the error. -/
theorem crcFrom_damage {bytes error : List UInt8} (h : error.length = bytes.length)
    (register other : UInt32) :
    crcFrom (register ^^^ other) (damage bytes error) =
      crcFrom register bytes ^^^ crcFrom other error := by
  induction bytes generalizing error register other with
  | nil =>
    obtain rfl := List.eq_nil_of_length_eq_zero h
    rfl
  | cons byte bytes ih =>
    obtain ⟨wrong, error, rfl⟩ := List.exists_cons_of_length_eq_add_one h
    have hstep : shiftByte (register ^^^ other) (byte ^^^ wrong) =
        shiftByte register byte ^^^ shiftByte other wrong := by
      rw [shiftByte, UInt8.toUInt32_xor, shiftByte, shiftByte, ← repeat_shiftBit_xor]
      congr 1
      ac_rfl
    have hlength : error.length = bytes.length := Nat.succ.inj h
    have hrest := ih hlength (shiftByte register byte) (shiftByte other wrong)
    rw [← hstep] at hrest
    exact hrest

/-- Bits that are not set only move the register. -/
theorem foldl_shiftIn_of_unset {bits : List Bool} (h : true ∉ bits) (register : UInt32) :
    bits.foldl shiftIn register = Nat.repeat shiftBit bits.length register := by
  induction bits generalizing register with
  | nil => rfl
  | cons bit rest ih =>
    rw [List.mem_cons, not_or] at h
    obtain rfl : bit = false := by simpa using h.1
    rw [List.foldl_cons, ih h.2, List.length_cons, repeat_shiftBit_succ, shiftIn]
    simp

/-- **Bits that are set within 32 consecutive places leave something in the register.** -/
theorem foldl_shiftIn_ne_zero {bits : List Bool} {start : Nat} (hset : true ∈ bits)
    (hwithin : ∀ index, bits[index]? = some true → start ≤ index ∧ index < start + 32) :
    bits.foldl shiftIn 0 ≠ 0 := by
  have hfront : true ∉ bits.take start := by
    intro hmem
    obtain ⟨index, hindex⟩ := List.mem_iff_getElem?.mp hmem
    rw [List.getElem?_take] at hindex
    split at hindex
    next hlt => exact absurd (hwithin index hindex).1 (Nat.not_le_of_lt hlt)
    next => cases hindex
  have hback : true ∉ bits.drop (start + 32) := by
    intro hmem
    obtain ⟨index, hindex⟩ := List.mem_iff_getElem?.mp hmem
    rw [List.getElem?_drop] at hindex
    have hlt := (hwithin _ hindex).2
    omega
  have hsplit : bits =
      bits.take start ++ ((bits.drop start).take 32 ++ bits.drop (start + 32)) := by
    rw [← List.drop_drop, List.take_append_drop, List.take_append_drop]
  have hmiddle : true ∈ (bits.drop start).take 32 := by
    rw [hsplit, List.mem_append, List.mem_append] at hset
    exact (hset.resolve_left hfront).resolve_right hback
  have hshort : ((bits.drop start).take 32).length ≤ 32 := by simp
  have hspelled : UInt32.ofNat (bitValue ((bits.drop start).take 32)) ≠ 0 := by
    have hpos := bitValue_pos_iff.mpr hmiddle
    have hlt : bitValue ((bits.drop start).take 32) < 2 ^ 32 :=
      Nat.lt_of_lt_of_le (bitValue_lt _) (Nat.pow_le_pow_right (by decide) hshort)
    intro hzero
    rw [← UInt32.toNat_inj, UInt32.toNat_ofNat_of_lt' hlt] at hzero
    exact absurd hzero (Nat.ne_of_gt hpos)
  rw [hsplit, List.foldl_append, List.foldl_append, foldl_shiftIn_of_unset hfront,
    repeat_shiftBit_zero, foldl_shiftIn hshort, UInt32.zero_xor, foldl_shiftIn_of_unset hback]
  exact repeat_shiftBit_ne_zero (repeat_shiftBit_ne_zero hspelled _) _

/-- Whether an error in bytes and the trailer behind them shows. -/
def Shows (bytes trailer error : List UInt8) : Prop :=
  let damaged := damage (bytes ++ trailer) error
  ∃ expected computed, checkCrc32 (damaged.take bytes.length) (damaged.drop bytes.length) =
    .mismatch expected computed

/-- An error shows that leaves something in the register. -/
theorem shows_of_crc32_ne_zero {bytes trailer error : List UInt8}
    (htrailer : trailer.length = trailerLength) (hintact : checkCrc32 bytes trailer = .intact)
    (hlength : error.length = (bytes ++ trailer).length) (hleft : crc32 error ≠ 0) :
    Shows bytes trailer error := by
  have hdamaged : (damage (bytes ++ trailer) error).length = bytes.length + trailerLength := by
    rw [damage, List.length_zipWith, hlength, List.length_append, htrailer, Nat.min_self]
  have hempty : crc32 (bytes ++ trailer) = 0 := by
    rw [crc32_append_eq_zero_iff htrailer]
    exact (checkCrc32_eq_intact_iff.mp hintact).symm
  have hregister : crc32 (damage (bytes ++ trailer) error) = crc32 error := by
    have hxor := crcFrom_damage hlength 0 0
    rw [UInt32.zero_xor] at hxor
    rw [crc32, hxor, ← crc32, hempty, UInt32.zero_xor, ← crc32]
  dsimp only [Shows]
  cases hcheck : checkCrc32 ((damage (bytes ++ trailer) error).take bytes.length)
      ((damage (bytes ++ trailer) error).drop bytes.length) with
  | mismatch expected computed => exact ⟨expected, computed, rfl⟩
  | intact =>
    rw [checkCrc32_eq_intact_iff] at hcheck
    refine absurd ?_ hleft
    rw [← hregister, ← List.take_append_drop bytes.length (damage (bytes ++ trailer) error),
      crc32_append_eq_zero_iff (by rw [List.length_drop, hdamaged]; omega)]
    exact hcheck.symm

/-! ## Which errors show -/

/-- A byte has eight bits. -/
theorem length_bits (bytes : List UInt8) : (bits bytes).length = 8 * bytes.length := by
  induction bytes with
  | nil => rfl
  | cons byte rest ih =>
    rw [bits, List.flatMap_cons, List.length_append, ← bits, ih, List.length_cons]
    simp only [bitsOf, List.length_map, List.length_range]
    omega

/-- The bits of bytes behind each other. -/
theorem bits_append (front back : List UInt8) : bits (front ++ back) = bits front ++ bits back :=
  List.flatMap_append

/-- A byte that is not zero has a bit that is set. -/
theorem true_mem_bits_of_ne_zero {bytes : List UInt8} {byte : UInt8} (hmem : byte ∈ bytes)
    (hne : byte ≠ 0) : true ∈ bits bytes := by
  refine List.mem_flatMap.mpr ⟨byte, hmem, ?_⟩
  rw [← bitValue_pos_iff, bitValue_bitsOf, Nat.pos_iff_ne_zero]
  exact fun hzero => hne (UInt8.toNat_inj.mp hzero)

/-- Bytes that are zero have no bit that is set. -/
theorem true_not_mem_bits_replicate (count : Nat) : true ∉ bits (List.replicate count 0) := by
  intro hmem
  obtain ⟨byte, hbyte, hbit⟩ := List.mem_flatMap.mp hmem
  obtain rfl := List.eq_of_mem_replicate hbyte
  revert hbit
  decide

/-- The bits that are set in a change of at most four adjacent bytes lie within 32 places. -/
theorem within_of_adjacent {change : List UInt8} (hchange : change.length ≤ 4)
    (before after : Nat) {index : Nat}
    (h : (bits (List.replicate before 0 ++ change ++ List.replicate after 0))[index]? =
      some true) : 8 * before ≤ index ∧ index < 8 * before + 32 := by
  have hfront : (bits (List.replicate before (0 : UInt8))).length = 8 * before := by
    rw [length_bits, List.length_replicate]
  rw [List.append_assoc, bits_append, bits_append, List.getElem?_append] at h
  split at h
  next => exact absurd (List.mem_of_getElem? h) (true_not_mem_bits_replicate before)
  next hge =>
    rw [List.getElem?_append] at h
    split at h
    next hlt =>
      rw [hfront] at hge hlt
      rw [length_bits] at hlt
      omega
    next => exact absurd (List.mem_of_getElem? h) (true_not_mem_bits_replicate after)

/-- **Bursts of errors show.** Where the check of bytes and their trailer passes, it fails once bits
have changed that all lie within 32 consecutive places of both together. So it does after a single
bit has changed, and after any change of at most four adjacent bytes, wherever it stands. -/
theorem bursts_show {bytes trailer : List UInt8} (htrailer : trailer.length = trailerLength)
    (hintact : checkCrc32 bytes trailer = .intact) :
    (∀ (error : List UInt8) (start : Nat), error.length = (bytes ++ trailer).length →
      true ∈ bits error →
      (∀ index, (bits error)[index]? = some true → start ≤ index ∧ index < start + 32) →
      Shows bytes trailer error) ∧
    (∀ (before after : Nat) (bit : Fin 8), before + 1 + after = (bytes ++ trailer).length →
      Shows bytes trailer
        (List.replicate before 0 ++ [(1 : UInt8) <<< UInt8.ofNat bit] ++ List.replicate after 0)) ∧
    (∀ (before after : Nat) (change : List UInt8), change.length ≤ 4 →
      (∃ byte ∈ change, byte ≠ 0) → before + change.length + after = (bytes ++ trailer).length →
      Shows bytes trailer (List.replicate before 0 ++ change ++ List.replicate after 0)) := by
  have hburst (error : List UInt8) (start : Nat)
      (hlength : error.length = (bytes ++ trailer).length) (hset : true ∈ bits error)
      (hwithin : ∀ index, (bits error)[index]? = some true →
        start ≤ index ∧ index < start + 32) : Shows bytes trailer error := by
    refine shows_of_crc32_ne_zero htrailer hintact hlength ?_
    rw [crc32, crcFrom_eq_foldl_bits]
    exact foldl_shiftIn_ne_zero hset hwithin
  have hadjacent (before after : Nat) (change : List UInt8) (hshort : change.length ≤ 4)
      (hne : ∃ byte ∈ change, byte ≠ 0)
      (hlength : before + change.length + after = (bytes ++ trailer).length) :
      Shows bytes trailer (List.replicate before 0 ++ change ++ List.replicate after 0) := by
    obtain ⟨byte, hmem, hbyte⟩ := hne
    refine hburst _ (8 * before) ?_ ?_ fun index => within_of_adjacent hshort before after
    · rw [List.length_append, List.length_append, List.length_replicate, List.length_replicate,
        hlength]
    · exact true_mem_bits_of_ne_zero (by simp [hmem]) hbyte
  refine ⟨hburst, fun before after bit hlength => ?_, hadjacent⟩
  have hbit : ∀ bit : Fin 8, (1 : UInt8) <<< UInt8.ofNat bit ≠ 0 := by decide
  exact hadjacent before after _ (by simp) ⟨_, List.mem_singleton_self _, hbit bit⟩ hlength

/-- A burst over the last byte and the first three of the trailer. -/
theorem bursts_show_across_trailer :
    checkCrc32 [0xAA, 0x44, 0x13] [0x69, 0x13, 0x44, 0xC4] = .intact ∧
      Shows [0xAA, 0x44, 0x13] [0x69, 0x13, 0x44, 0xC4] [0, 0, 0x80, 0, 0, 0x01, 0] := by
  have hintact : checkCrc32 [0xAA, 0x44, 0x13] [0x69, 0x13, 0x44, 0xC4] = .intact := by
    decide +kernel
  exact ⟨hintact, (bursts_show rfl hintact).2.2 2 1 [0x80, 0, 0, 0x01] (by decide)
    ⟨0x80, by decide, by decide⟩ rfl⟩

end NavStream.Checksum
