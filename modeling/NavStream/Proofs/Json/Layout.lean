import NavStream.Proofs.Json.Literal
import NavStream.Proofs.Json.Quotation
import Mathlib.Algebra.Group.Nat.Defs

/-!
# Written numbers are literals

Whole numbers are written as their digits. Decimals are written around a point or as digits and a
power of ten; either way the text is a literal that stands for the digits and the power.

* `Digits.ofNat` — the digits of a number;
* `Literal.ofInt` — whole numbers;
* `exists_unsigned` — decimals in either layout.
-/

namespace NavStream.Json

open NavStream.Decimal (Numeral Style)

/-! ## Digits -/

/-- A digit is one byte. -/
theorem utf8EncodeChar_of_isDigit {c : Char} (h : c.isDigit = true) :
    String.utf8EncodeChar c = [UInt8.ofNat c.toNat] ∧ isDigit (UInt8.ofNat c.toNat) = true ∧
      (UInt8.ofNat c.toNat).toNat = c.toNat := by
  have hrange : 48 ≤ c.toNat ∧ c.toNat ≤ 57 := by
    simpa [Char.isDigit, UInt32.le_iff_toNat_le] using h
  have hsmall : c.toNat < UInt8.size := by simp only [UInt8.size]; omega
  have hbyte : (UInt8.ofNat c.toNat).toNat = c.toNat := UInt8.toNat_ofNat_of_lt' hsmall
  refine ⟨if_pos (by change c.toNat ≤ 127; omega), ?_, hbyte⟩
  simp only [isDigit, Bool.and_eq_true, decide_eq_true_eq, UInt8.le_iff_toNat_le, hbyte]
  exact hrange

section Characters

variable {digits : List Char}

/-- The bytes of digits are digits. -/
theorem isDigit_of_mem_utf8 (h : ∀ c ∈ digits, c.isDigit = true) :
    ∀ b ∈ utf8 digits, isDigit b = true := by
  intro b hb
  obtain ⟨c, hc, hb⟩ := List.mem_flatMap.mp hb
  obtain ⟨hbytes, hdigit, _⟩ := utf8EncodeChar_of_isDigit (h c hc)
  rw [hbytes, List.mem_singleton] at hb
  exact hb ▸ hdigit

/-- Digits have one byte each. -/
theorem length_utf8_digits (h : ∀ c ∈ digits, c.isDigit = true) :
    (utf8 digits).length = digits.length := by
  induction digits with
  | nil => rfl
  | cons c digits ih =>
    rw [utf8_cons, (utf8EncodeChar_of_isDigit (h c (List.mem_cons_self ..))).1, List.length_append,
      ih fun d hd => h d (List.mem_cons_of_mem _ hd)]
    simp [Nat.add_comm]

/-- The bytes of digits spell what the digits do. -/
theorem spelled_utf8 (h : ∀ c ∈ digits, c.isDigit = true) (n : Nat) :
    spelled n (utf8 digits) = Nat.ofDigitChars 10 digits n := by
  induction digits generalizing n with
  | nil => simp
  | cons c digits ih =>
    obtain ⟨hbytes, _, hvalue⟩ := utf8EncodeChar_of_isDigit (h c (List.mem_cons_self ..))
    rw [utf8_cons, hbytes, List.singleton_append, spelled_cons, hvalue,
      ih (fun d hd => h d (List.mem_cons_of_mem _ hd)), Nat.ofDigitChars_cons]
    rfl

/-- Digits whose bytes begin with the byte of a zero begin with a zero. -/
theorem head?_of_head?_utf8 (h : ∀ c ∈ digits, c.isDigit = true)
    (hzero : (utf8 digits).head? = some 48) : digits.head? = some '0' := by
  cases digits with
  | nil => cases hzero
  | cons c digits =>
    obtain ⟨hbytes, _, hvalue⟩ := utf8EncodeChar_of_isDigit (h c (List.mem_cons_self ..))
    rw [utf8_cons, hbytes, List.singleton_append, List.head?_cons, Option.some.injEq] at hzero
    rw [List.head?_cons, Option.some.injEq, ← Char.toNat_inj, ← hvalue, hzero]
    rfl

end Characters

/-- The digits of a number hold no other characters. -/
theorem isDigit_toDigits (n : Nat) : ∀ c ∈ Nat.toDigits 10 n, c.isDigit = true :=
  fun _ hc => Nat.isDigit_of_mem_toDigits (by decide) (by decide) hc

/-- Only the number zero begins with the digit zero. -/
theorem eq_zero_of_head?_toDigits (n : Nat) (h : (Nat.toDigits 10 n).head? = some '0') : n = 0 := by
  induction n using Nat.strongRecOn with
  | ind n ih =>
    by_cases hn : n < 10
    · rw [Nat.toDigits_of_lt_base hn] at h
      have hdigit : ∀ d < 10, [Nat.digitChar d].head? = some '0' → d = 0 := by decide
      exact hdigit n hn h
    · rw [Nat.toDigits_of_base_le (by decide) (by omega),
        List.head?_append_of_ne_nil _ Nat.toDigits_ne_nil] at h
      have := ih (n / 10) (by omega) h
      omega

/-- A zero stands alone among the digits of a number, or not in front. -/
theorem toDigits_of_head? (n : Nat) (h : (Nat.toDigits 10 n).head? = some '0') :
    Nat.toDigits 10 n = ['0'] := by
  rw [eq_zero_of_head?_toDigits n h, Nat.toDigits_zero]

namespace Digits

/-- Digits as they are written. -/
def ofChars (digits : List Char) (hne : digits ≠ []) (h : ∀ c ∈ digits, c.isDigit = true) :
    Digits where
  bytes := utf8 digits
  ne_nil := by
    rw [← List.length_pos_iff, length_utf8_digits h]
    exact List.length_pos_iff.mpr hne
  digit := isDigit_of_mem_utf8 h

/-- The digits of a number. -/
def ofNat (n : Nat) : Digits := ofChars (Nat.toDigits 10 n) Nat.toDigits_ne_nil (isDigit_toDigits n)

@[simp] theorem value_ofNat (n : Nat) : (ofNat n).value = n := by
  rw [value, ofNat, ofChars, spelled_utf8 (isDigit_toDigits n), Nat.ofDigitChars_ten_toDigits]

end Digits

namespace Literal

/-! ## Putting literals together -/

section Assembling

variable (negative : Bool) (ds fs : List Char) (power : Option Int) (hds : ds ≠ [])
  (hdigits : ∀ c ∈ ds ++ fs, c.isDigit = true) (hzero : ds.head? = some '0' → ds = ['0'])

/-- A number with digits in front of the point, perhaps digits behind it, and perhaps a power. -/
def assemble : Literal where
  negative := negative
  whole := .ofChars ds hds fun c hc => hdigits c (List.mem_append_left fs hc)
  canonical h := by
    have hhead := head?_of_head?_utf8 (fun c hc => hdigits c (List.mem_append_left fs hc)) h
    simp only [Digits.ofChars, hzero hhead]
    rfl
  fraction :=
    if hfs : fs = [] then none
    else some (.ofChars fs hfs fun c hc => hdigits c (List.mem_append_right ds hc))
  power := power.map fun p => (decide (p < 0), .ofNat p.natAbs)

/-- The characters of a power of ten. -/
def powerText : Option Int → List Char
  | none => []
  | some p => 'e' :: (if p < 0 then '-' else '+') :: Nat.toDigits 10 p.natAbs

/-- The text of a literal in characters. -/
theorem bytes_assemble : (assemble negative ds fs power hds hdigits hzero).bytes =
    utf8 ((if negative then ['-'] else []) ++ (ds ++ ((if fs = [] then [] else '.' :: fs) ++
      powerText power))) := by
  have hminus : String.utf8EncodeChar '-' = [45] := by decide
  have hpoint : String.utf8EncodeChar '.' = [46] := by decide
  have hmarked : marked (assemble negative ds fs power hds hdigits hzero).power =
      utf8 (powerText power) := by
    obtain _ | p := power
    · rfl
    · by_cases hp : p < 0 <;> simp [assemble, marked, powerText, hp] <;> rfl
  rw [bytes, unsigned, hmarked]
  cases negative <;> by_cases hfs : fs = [] <;>
    simp [assemble, Digits.ofChars, pointed, hfs, hminus, hpoint]

theorem fractionDigits_assemble :
    (assemble negative ds fs power hds hdigits hzero).fractionDigits = utf8 fs := by
  by_cases hfs : fs = [] <;> simp [fractionDigits, assemble, Digits.ofChars, hfs]

/-- The digits of a literal spell what its characters do. -/
theorem significand_assemble :
    (assemble negative ds fs power hds hdigits hzero).significand =
      Nat.ofDigitChars 10 (ds ++ fs) 0 := by
  rw [significand, fractionDigits_assemble, ← spelled_utf8 hdigits, utf8_append]
  rfl

/-- The last digit is worth the power, less one for each digit behind the point. -/
theorem exponent_assemble :
    (assemble negative ds fs power hds hdigits hzero).exponent = power.getD 0 - fs.length := by
  have hlength := length_utf8_digits fun c hc => hdigits c (List.mem_append_right ds hc)
  rw [exponent, fractionDigits_assemble, hlength]
  obtain _ | p := power
  · simp [assemble]
  · by_cases hp : p < 0
    · simp only [assemble, Option.map_some, hp, decide_true, if_true, Digits.value_ofNat,
        Option.getD_some]
      omega
    · simp only [assemble, Option.map_some, hp, decide_false, Bool.false_eq_true, if_false,
        Digits.value_ofNat, Option.getD_some]
      omega

/-- A literal can be counted where its characters spell a number of 64 bits. -/
theorem countable_assemble (small : Nat.ofDigitChars 10 (ds ++ fs) 0 < wordBound)
    (counted : ∀ p ∈ power, p.natAbs ≤ powerLimit) :
    (assemble negative ds fs power hds hdigits hzero).Countable where
  digits := by rwa [significand_assemble]
  power down digits h := by
    obtain ⟨p, hp, hdigits⟩ := Option.map_eq_some_iff.mp h
    cases hdigits
    rw [Digits.value_ofNat]
    exact counted p hp

end Assembling

/-! ## Whole numbers -/

/-- A whole number. -/
def ofInt (n : Int) : Literal :=
  assemble (decide (n < 0)) (Nat.toDigits 10 n.natAbs) [] none Nat.toDigits_ne_nil
    (by simpa using isDigit_toDigits n.natAbs) (toDigits_of_head? n.natAbs)

/-- The characters of a whole number. -/
theorem toList_toString (n : Int) : (toString n).toList =
    (if decide (n < 0) then ['-'] else []) ++ Nat.toDigits 10 n.natAbs := by
  cases n <;> simp [Int.toString_eq_repr, Int.repr]

/-- A whole number is written as its literal. -/
theorem utf8_toString (n : Int) : utf8 (toString n).toList = (ofInt n).bytes := by
  rw [ofInt, bytes_assemble, toList_toString]
  simp [powerText]

/-- The digits of a whole number spell its size. -/
theorem significand_ofInt (n : Int) : (ofInt n).significand = n.natAbs := by
  rw [ofInt, significand_assemble, List.append_nil, Nat.ofDigitChars_ten_toDigits]

/-- A whole number of 64 bits can be counted. -/
theorem countable_ofInt {n : Int} (low : -0x8000000000000000 ≤ n)
    (high : n < 0x10000000000000000) : (ofInt n).Countable where
  digits := by
    rw [significand_ofInt, wordBound]
    omega
  power _ _ h := by cases h

/-- A whole number of 64 bits is read as itself. -/
theorem number?_ofInt {n : Int} (low : -0x8000000000000000 ≤ n) :
    (ofInt n).number? = some (.integer n) := by
  have hnumber : (ofInt n).number? = some (integerOf (decide (n < 0)) (ofInt n).significand) := rfl
  rw [hnumber, significand_ofInt, integerOf]
  by_cases hn : n < 0
  · have hzero : n.natAbs ≠ 0 := by omega
    have hsmall : ¬ 0x8000000000000000 < n.natAbs := by omega
    have hvalue : -(n.natAbs : Int) = n := by omega
    simp only [hn, decide_true, Bool.not_true, hzero, hsmall, decide_false, Bool.or_self, hvalue]
    rfl
  · have hvalue : (n.natAbs : Int) = n := by omega
    simp only [hn, decide_false, Bool.not_false, hvalue]
    rfl

/-! ## Decimals -/

/-- Digits around a point are a literal without a power. -/
theorem exists_pointed (negative : Bool) (ds fs : List Char) (hds : ds ≠ []) (hfs : fs ≠ [])
    (hdigits : ∀ c ∈ ds ++ fs, c.isDigit = true) (hzero : ds.head? = some '0' → ds = ['0']) :
    ∃ l : Literal, l.bytes = utf8 ((if negative then ['-'] else []) ++ (ds ++ '.' :: fs)) ∧
      l.power = none ∧ l.fraction.isSome ∧
      l.significand = Nat.ofDigitChars 10 (ds ++ fs) 0 := by
  refine ⟨assemble negative ds fs none hds hdigits hzero, ?_, rfl, ?_, significand_assemble ..⟩
  · simp [bytes_assemble, powerText, hfs]
  · simp [assemble, hfs]

/-- Digits spell a number below the power of ten of their count. -/
theorem ofDigitChars_lt {ds : List Char} (hdigits : ∀ c ∈ ds, c.isDigit = true) (n : Nat) :
    Nat.ofDigitChars 10 ds n < (n + 1) * 10 ^ ds.length := by
  induction ds generalizing n with
  | nil => simp
  | cons c ds ih =>
    have hc : c.toNat ≤ 57 := by
      have h := hdigits c (List.mem_cons_self ..)
      simp only [Char.isDigit, ge_iff_le, Bool.and_eq_true, decide_eq_true_eq,
        UInt32.le_iff_toNat_le] at h
      exact h.2
    rw [Nat.ofDigitChars_cons]
    calc Nat.ofDigitChars 10 ds (10 * n + (c.toNat - '0'.toNat))
        < (10 * n + (c.toNat - '0'.toNat) + 1) * 10 ^ ds.length :=
          ih (fun d hd => hdigits d (List.mem_cons_of_mem _ hd)) _
      _ ≤ ((n + 1) * 10) * 10 ^ ds.length := by
          refine Nat.mul_le_mul_right _ ?_
          simp only [Char.reduceToNat]
          omega
      _ = (n + 1) * 10 ^ (c :: ds).length := by
          rw [List.length_cons, Nat.pow_succ, Nat.mul_assoc, Nat.mul_comm 10]

section Positional

variable (negative : Bool) {ds : List Char} {lead : Int} (hne : ds ≠ [])
  (hdigits : ∀ c ∈ ds, c.isDigit = true)

theorem isDigit_replicate (k : Nat) : ∀ c ∈ List.replicate k '0', c.isDigit = true := by
  intro c hc
  rw [List.eq_of_mem_replicate hc]
  rfl

include hne hdigits

/-- Where the point stands in front of all digits, there are zeros between them. -/
theorem exists_positional_before (hneg : lead < 0) :
    ∃ l : Literal, l.bytes = utf8 ((if negative then ['-'] else []) ++ Style.positional ds lead) ∧
      l.power = none ∧ l.fraction.isSome ∧ l.significand = Nat.ofDigitChars 10 ds 0 := by
  have htext : Style.positional ds lead =
      ['0'] ++ '.' :: (List.replicate (-lead - 1).toNat '0' ++ ds) := by
    simp [Style.positional, hneg]
  have hall : ∀ c ∈ ['0'] ++ (List.replicate (-lead - 1).toNat '0' ++ ds),
      c.isDigit = true := by
    simp only [List.forall_mem_append]
    exact ⟨isDigit_replicate 1, isDigit_replicate _, hdigits⟩
  obtain ⟨l, hbytes, hpower, hfraction, hsignificand⟩ := exists_pointed negative
    ['0'] (List.replicate (-lead - 1).toNat '0' ++ ds) (by simp) (by simp [hne]) hall fun _ => rfl
  refine ⟨l, htext ▸ hbytes, hpower, hfraction, ?_⟩
  rw [hsignificand, Nat.ofDigitChars_append, Nat.ofDigitChars_append, Nat.ofDigitChars_cons,
    Nat.ofDigitChars_nil, Nat.ofDigitChars_replicate_zero]
  simp

/-- Where the point stands behind all digits, zeros fill the places up to it. -/
theorem exists_positional_behind (hneg : ¬ lead < 0) (hlong : ds.length ≤ lead.toNat + 1)
    (hzero : ds.head? = some '0' → ds = ['0'] ∧ lead ≤ 0) :
    ∃ l : Literal, l.bytes = utf8 ((if negative then ['-'] else []) ++ Style.positional ds lead) ∧
      l.power = none ∧ l.fraction.isSome ∧ l.significand < 10 ^ (lead.toNat + 2) := by
  obtain ⟨zeros, hzeros⟩ : ∃ zeros, zeros = List.replicate (lead.toNat + 1 - ds.length) '0' :=
    ⟨_, rfl⟩
  have htext : Style.positional ds lead = (ds ++ zeros) ++ '.' :: ['0'] := by
    simp [Style.positional, hneg, hlong, hzeros]
  have hall : ∀ c ∈ (ds ++ zeros) ++ ['0'], c.isDigit = true := by
    simp only [List.forall_mem_append]
    exact ⟨⟨hdigits, hzeros ▸ isDigit_replicate _⟩, isDigit_replicate 1⟩
  have halone : (ds ++ zeros).head? = some '0' → ds ++ zeros = ['0'] := by
    intro h
    rw [List.head?_append_of_ne_nil _ hne] at h
    obtain ⟨hds, hlead⟩ := hzero h
    rw [hzeros, hds, show lead.toNat = 0 by omega]
    rfl
  obtain ⟨l, hbytes, hpower, hfraction, hsignificand⟩ := exists_pointed negative
    (ds ++ zeros) ['0'] (by simp [hne]) (by simp) hall halone
  refine ⟨l, htext ▸ hbytes, hpower, hfraction, ?_⟩
  have hlength : ((ds ++ zeros) ++ ['0']).length = lead.toNat + 2 := by
    rw [hzeros, List.length_append, List.length_append, List.length_replicate,
      List.length_singleton]
    omega
  have hlt := ofDigitChars_lt hall 0
  rwa [← hsignificand, Nat.zero_add, Nat.one_mul, hlength] at hlt

/-- Where the point stands among the digits, they are just parted. -/
theorem exists_positional_among (hneg : ¬ lead < 0) (hlong : ¬ ds.length ≤ lead.toNat + 1)
    (hzero : ds.head? = some '0' → ds = ['0']) :
    ∃ l : Literal, l.bytes = utf8 ((if negative then ['-'] else []) ++ Style.positional ds lead) ∧
      l.power = none ∧ l.fraction.isSome ∧ l.significand = Nat.ofDigitChars 10 ds 0 := by
  have htext : Style.positional ds lead =
      ds.take (lead.toNat + 1) ++ '.' :: ds.drop (lead.toNat + 1) := by
    simp [Style.positional, hneg, hlong]
  have hfront : (ds.take (lead.toNat + 1)).head? = some '0' →
      ds.take (lead.toNat + 1) = ['0'] := by
    intro h
    rw [List.head?_take, if_neg (Nat.succ_ne_zero _)] at h
    rw [hzero h] at hlong
    exact absurd hlong (by simp)
  have hbehind : ds.drop (lead.toNat + 1) ≠ [] := by
    rw [Ne, List.drop_eq_nil_iff]
    exact hlong
  obtain ⟨l, hbytes, hpower, hfraction, hsignificand⟩ := exists_pointed negative
    (ds.take (lead.toNat + 1)) (ds.drop (lead.toNat + 1)) (by simp [hne]) hbehind
    (by rwa [List.take_append_drop]) hfront
  refine ⟨l, htext ▸ hbytes, hpower, hfraction, ?_⟩
  rw [hsignificand, List.take_append_drop]

end Positional

/-- A decimal around its point is a literal without a power, of the same digits or of few digits. -/
theorem exists_positional (negative : Bool) (n : Nat) (lead : Int) (hn : n = 0 → lead ≤ 0) :
    ∃ l : Literal, l.bytes = utf8 ((if negative then ['-'] else []) ++
        Style.positional (Nat.toDigits 10 n) lead) ∧
      l.power = none ∧ l.fraction.isSome ∧
      (l.significand = n ∨ l.significand < 10 ^ (lead.toNat + 2)) := by
  have hspelled := Nat.ofDigitChars_ten_toDigits (n := n)
  have hne : Nat.toDigits 10 n ≠ [] := Nat.toDigits_ne_nil
  by_cases hneg : lead < 0
  · obtain ⟨l, hbytes, hpower, hfraction, hsame⟩ :=
      exists_positional_before negative hne (isDigit_toDigits n) hneg
    exact ⟨l, hbytes, hpower, hfraction, Or.inl (hsame.trans hspelled)⟩
  by_cases hlong : (Nat.toDigits 10 n).length ≤ lead.toNat + 1
  · obtain ⟨l, hbytes, hpower, hfraction, hfew⟩ :=
      exists_positional_behind negative hne (isDigit_toDigits n) hneg hlong fun h =>
        ⟨toDigits_of_head? n h, hn (eq_zero_of_head?_toDigits n h)⟩
    exact ⟨l, hbytes, hpower, hfraction, Or.inr hfew⟩
  · obtain ⟨l, hbytes, hpower, hfraction, hsame⟩ :=
      exists_positional_among negative hne (isDigit_toDigits n) hneg hlong (toDigits_of_head? n)
    exact ⟨l, hbytes, hpower, hfraction, Or.inl (hsame.trans hspelled)⟩

/-- A decimal in front of its power is a literal with the same digits. -/
theorem exists_scientific (negative : Bool) (style : Style) (signed : style.signedPower = true)
    (n : Nat) (lead : Int) :
    ∃ l : Literal, l.bytes = utf8 ((if negative then ['-'] else []) ++
        style.scientific (Nat.toDigits 10 n) lead) ∧
      (lead.natAbs ≤ powerLimit → n < wordBound → l.Countable) ∧ l.power.isSome ∧
      l.significand = n ∧ l.exponent = lead - ((Nat.toDigits 10 n).length - 1 : Nat) := by
  have hdigits := isDigit_toDigits n
  have hspelled := Nat.ofDigitChars_ten_toDigits (n := n)
  have hzero : (Nat.toDigits 10 n).head? = some '0' → Nat.toDigits 10 n = ['0'] :=
    toDigits_of_head? n
  have hne : Nat.toDigits 10 n ≠ [] := Nat.toDigits_ne_nil
  generalize Nat.toDigits 10 n = ds at *
  have htext : style.scientific ds lead =
      ds.take 1 ++
        ((if ds.drop 1 = [] then [] else '.' :: ds.drop 1) ++ powerText (some lead)) := by
    have hpower : (if style.signedPower && 0 ≤ lead then ['e', '+'] else ['e']) ++
        (toString lead).toList = powerText (some lead) := by
      rw [toList_toString, signed]
      by_cases hlead : lead < 0
      · simp [powerText, hlead, Int.not_le.mpr hlead]
      · simp [powerText, hlead, Int.not_lt.mp hlead]
    obtain _ | ⟨c, _ | ⟨d, ds⟩⟩ := ds
    · exact absurd rfl hne
    · simp [Style.scientific, ← hpower]
    · simp [Style.scientific, ← hpower]
  have hall : ∀ c ∈ ds.take 1 ++ ds.drop 1, c.isDigit = true := by rwa [List.take_append_drop]
  have hhead : (ds.take 1).head? = some '0' → ds.take 1 = ['0'] := by
    intro h
    rw [List.head?_take, if_neg (by decide)] at h
    rw [hzero h]
    rfl
  refine ⟨assemble negative (ds.take 1) (ds.drop 1) (some lead) (by simp [hne]) hall hhead,
    ?_, ?_, rfl, ?_, ?_⟩
  · rw [bytes_assemble, htext]
  · intro hlead hn
    refine countable_assemble _ _ _ _ _ _ _ ?_ ?_
    · rwa [List.take_append_drop, hspelled]
    · intro p hp
      cases hp
      exact hlead
  · rw [significand_assemble, List.take_append_drop, hspelled]
  · rw [exponent_assemble, List.length_drop]
    rfl

/-- What a decimal must satisfy so that its text can be read. -/
structure Readable (d : Numeral) : Prop where
  /-- Its digits have 64 bits, with room for zeros. -/
  digits : d.digits < 10 ^ 18
  /-- Its power can be counted. -/
  exponent : d.exponent.natAbs ≤ 0x7FFFFF00
  /-- It is not too large. -/
  scaled : 0 ≤ d.exponent → (scaled? d.digits d.exponent).isSome

/-- Numbers below one are never too large. -/
theorem isSome_scaled? {digits : Nat} {exponent : Int} (h : exponent < 0) :
    (scaled? digits exponent).isSome := by
  simp [scaled?, h]

/-- A literal with a point or a power is read as its digits times the power of the last one. -/
theorem isSome_number? {l : Literal} (h : l.fraction.isSome ∨ l.power.isSome) :
    l.number?.isSome = (scaled? l.significand l.exponent).isSome := by
  have hneither : (l.fraction.isNone && l.power.isNone) = false := by
    rcases h with h | h <;> simp [Option.isNone_eq_false_iff.mpr h]
  rw [number?, hneither]
  exact Option.isSome_map

/-- In either layout a decimal is a literal, which can be read if the decimal can. -/
theorem exists_unsigned (negative : Bool) {style : Style} (signed : style.signedPower = true)
    (plain : style.plainTo ≤ 17) {d : Numeral} (hzero : d.digits = 0 → d.exponent = 0) :
    ∃ l : Literal, l.bytes = utf8 ((if negative then ['-'] else []) ++ style.unsigned d) ∧
      (Readable d → l.Countable ∧ l.number?.isSome) := by
  have hlength : Readable d → (Nat.toDigits 10 d.digits).length ≤ 18 := fun h =>
    (Nat.length_toDigits_le_iff (by decide) (by decide)).mpr h.digits
  have hpositive := Nat.length_toDigits_pos (b := 10) (n := d.digits)
  have hbound : 10 ^ 19 < wordBound := by decide
  obtain ⟨lead, hlead⟩ : ∃ lead, lead = d.exponent + (Nat.toDigits 10 d.digits).length - 1 :=
    ⟨_, rfl⟩
  by_cases hplain : style.plainFrom ≤ lead ∧ lead ≤ style.plainTo
  · have htext : style.unsigned d = Style.positional (Nat.toDigits 10 d.digits) lead := by
      simp [Style.unsigned, ← hlead, hplain]
    obtain ⟨l, hbytes, hpower, hfraction, hsignificand⟩ := exists_positional negative d.digits lead
      (by
        intro h
        rw [hlead, hzero h, h, Nat.toDigits_zero]
        decide)
    refine ⟨l, htext ▸ hbytes, fun h => ⟨⟨?_, ?_⟩, ?_⟩⟩
    · have hpow : 10 ^ (lead.toNat + 2) ≤ 10 ^ 19 := Nat.pow_le_pow_right (by decide) (by omega)
      have hdigits := h.digits
      omega
    · simp [hpower]
    · have hexponent : l.exponent < 0 := by
        obtain ⟨digits, hdigits⟩ := Option.isSome_iff_exists.mp hfraction
        have := List.length_pos_iff.mpr digits.ne_nil
        simp [exponent, hpower, fractionDigits, hdigits]
        omega
      rw [isSome_number? (Or.inl hfraction)]
      exact isSome_scaled? hexponent
  · have htext : style.unsigned d = style.scientific (Nat.toDigits 10 d.digits) lead := by
      simp [Style.unsigned, ← hlead, hplain]
    obtain ⟨l, hbytes, hcountable, hpower, hsignificand, hexponent⟩ := exists_scientific negative
      style signed d.digits lead
    refine ⟨l, htext ▸ hbytes, fun h => ⟨hcountable ?_ ?_, ?_⟩⟩
    · have := h.exponent
      have := hlength h
      rw [powerLimit]
      omega
    · have := h.digits
      omega
    · have hexponent : l.exponent = d.exponent := by omega
      rw [isSome_number? (Or.inr hpower), hsignificand, hexponent]
      by_cases hsign : d.exponent < 0
      · exact isSome_scaled? hsign
      · exact h.scaled (Int.not_lt.mp hsign)

end Literal

end NavStream.Json
