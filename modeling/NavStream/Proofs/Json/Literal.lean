import NavStream.Json.Number
import Mathlib.Data.List.Basic

/-!
# Numbers that are written can be read

A number is written as digits, perhaps digits behind a point, and perhaps a power of ten. Readers
take its digits one by one into a value, and stop in front of whatever cannot continue it.

* `Digits`, `Literal` — runs of digits, and the numbers that are put together from them;
* `Delimited` — a text that continues no number;
* `Literal.readNumber_bytes`, `Literal.skipNumber_bytes` — a literal in front of such a text is read
  as its value, and is passed over.
-/

namespace NavStream.Json

/-! ## Runs of digits -/

/-- The number that digits spell behind those that spell `n`. -/
def spelled (n : Nat) (digits : List UInt8) : Nat :=
  digits.foldl (fun n b => 10 * n + (b.toNat - 48)) n

@[simp] theorem spelled_nil (n : Nat) : spelled n [] = n := List.foldl_nil

theorem spelled_cons (n : Nat) (b : UInt8) (digits : List UInt8) :
    spelled n (b :: digits) = spelled (10 * n + (b.toNat - 48)) digits := List.foldl_cons

theorem spelled_append (n : Nat) (front back : List UInt8) :
    spelled n (front ++ back) = spelled (spelled n front) back := List.foldl_append

/-- More digits spell no smaller number. -/
theorem le_spelled (n : Nat) (digits : List UInt8) : n ≤ spelled n digits := by
  induction digits generalizing n with
  | nil => exact Nat.le_refl n
  | cons b digits ih =>
    rw [spelled_cons]
    exact Nat.le_trans (by omega) (ih _)

/-- A run of at least one digit. -/
structure Digits where
  /-- The digits. -/
  bytes : List UInt8
  /-- There is one. -/
  ne_nil : bytes ≠ []
  /-- Nothing else is among them. -/
  digit : ∀ b ∈ bytes, isDigit b = true

namespace Digits

/-- The number that digits spell. -/
def value (digits : Digits) : Nat := spelled 0 digits.bytes

end Digits

/-- Whether a byte cannot follow the digits of a power or of a fraction. -/
def Undigited (rest : List UInt8) : Prop := ∀ b ∈ rest.head?, isDigit b = false

/-- A text that continues no number. -/
def Delimited (rest : List UInt8) : Prop :=
  ∀ b ∈ rest.head?, isDigit b = false ∧ b ≠ 46 ∧ isPowerMark b = false

namespace Delimited

variable {rest : List UInt8}

theorem undigited (h : Delimited rest) : Undigited rest := fun b hb => (h b hb).1

@[simp] theorem nil : Delimited [] := by simp [Delimited]

/-- What ends an array or an object, or separates its parts, continues no number. -/
theorem cons {b : UInt8} (rest : List UInt8) (h : b = 44 ∨ b = 93 ∨ b = 125) :
    Delimited (b :: rest) := by
  intro c hc
  cases hc
  rcases h with rfl | rfl | rfl <;> decide

end Delimited

/-! ## Reading runs of digits -/

section Runs

variable (negative : Bool) {digits : List UInt8} {n : Nat}

/-- Digits in front of the point are taken in as long as their number has 64 bits. -/
theorem readWhole_append (hd : ∀ b ∈ digits, isDigit b = true) (fits : spelled n digits < wordBound)
    (rest : List UInt8) :
    readWhole negative n (digits ++ rest) = readWhole negative (spelled n digits) rest := by
  induction digits generalizing n with
  | nil => rfl
  | cons b digits ih =>
    have hb := hd b (List.mem_cons_self ..)
    rw [spelled_cons] at fits ⊢
    have hnext : ¬ wordBound ≤ 10 * n + (b.toNat - 48) :=
      Nat.not_le.mpr (Nat.lt_of_le_of_lt (le_spelled _ digits) fits)
    simp only [List.cons_append, readWhole, hb, hnext, if_true, if_false]
    exact ih (fun c hc => hd c (List.mem_cons_of_mem _ hc)) fits

/-- So are digits behind the point, each of which is worth a power. -/
theorem readFraction_append (hd : ∀ b ∈ digits, isDigit b = true)
    (fits : spelled n digits < wordBound) (exponent : Int) (any : Bool) (rest : List UInt8) :
    readFraction negative n exponent any (digits ++ rest) =
      readFraction negative (spelled n digits) (exponent - digits.length)
        (any || !digits.isEmpty) rest := by
  induction digits generalizing n exponent any with
  | nil =>
    have hexponent : exponent - (([] : List UInt8).length : Int) = exponent := Int.sub_zero _
    have hany : (any || !([] : List UInt8).isEmpty) = any := Bool.or_false _
    rw [hexponent, hany, spelled_nil, List.nil_append]
  | cons b digits ih =>
    have hb := hd b (List.mem_cons_self ..)
    rw [spelled_cons] at fits ⊢
    have hnext : ¬ wordBound ≤ 10 * n + (b.toNat - 48) :=
      Nat.not_le.mpr (Nat.lt_of_le_of_lt (le_spelled _ digits) fits)
    simp only [List.cons_append, readFraction, hb, hnext, if_true, if_false]
    have hexponent : exponent - 1 - (digits.length : Int) = exponent - (b :: digits).length := by
      rw [List.length_cons]
      omega
    have hany : (true || !digits.isEmpty) = (any || !(b :: digits).isEmpty) := by
      rw [List.isEmpty_cons, Bool.true_or, Bool.not_false, Bool.or_true]
    rw [ih (fun c hc => hd c (List.mem_cons_of_mem _ hc)) fits, hexponent, hany]

/-- The digits of a power are taken in as long as the power can be counted. -/
theorem readPowerDigits_append (hd : ∀ b ∈ digits, isDigit b = true) {power : Nat}
    (fits : spelled power digits ≤ powerLimit) (exponent : Int) (down : Bool) (rest : List UInt8) :
    readPowerDigits negative n exponent down power (digits ++ rest) =
      readPowerDigits negative n exponent down (spelled power digits) rest := by
  induction digits generalizing power with
  | nil => rfl
  | cons b digits ih =>
    have hb := hd b (List.mem_cons_self ..)
    rw [spelled_cons] at fits ⊢
    have hnext : ¬ powerLimit < 10 * power + (b.toNat - 48) :=
      Nat.not_lt.mpr (Nat.le_trans (le_spelled _ digits) fits)
    simp only [List.cons_append, readPowerDigits, hb, hnext, if_true, if_false]
    exact ih (fun c hc => hd c (List.mem_cons_of_mem _ hc)) fits

/-- Digits are dropped up to what is none. -/
theorem dropWhile_digits (hd : ∀ b ∈ digits, isDigit b = true) {rest : List UInt8}
    (end' : Undigited rest) : (digits ++ rest).dropWhile isDigit = rest := by
  rw [List.dropWhile_append_of_pos hd]
  cases rest with
  | nil => rfl
  | cons b rest => rw [List.dropWhile_cons_of_neg (by simp [end' b rfl])]

/-- What continues no number ends one that is read as an integer. -/
theorem readWhole_of_delimited {rest : List UInt8} (h : Delimited rest) :
    readWhole negative n rest = .ok (integerOf negative n, rest) := by
  cases rest with
  | nil => rfl
  | cons b rest =>
    obtain ⟨hdigit, hpoint, hpower⟩ := h b rfl
    simp [readWhole, hdigit, hpoint, hpower]

/-- Behind the point, what is no digit may be a power. -/
theorem readFraction_of_undigited {rest : List UInt8} (h : Undigited rest) (exponent : Int) :
    readFraction negative n exponent true rest =
      readOptionalPower negative n exponent rest := by
  cases rest with
  | nil => rfl
  | cons b rest => simp [readFraction, h b rfl]

/-- What continues no number ends one without a power. -/
theorem readOptionalPower_of_delimited {rest : List UInt8} (h : Delimited rest) (exponent : Int) :
    readOptionalPower negative n exponent rest = finishFloat negative n exponent rest := by
  cases rest with
  | nil => rfl
  | cons b rest => simp [readOptionalPower, (h b rfl).2.2]

/-- What is no digit ends a power. -/
theorem readPowerDigits_of_undigited {rest : List UInt8} (h : Undigited rest) (exponent : Int)
    (down : Bool) (power : Nat) :
    readPowerDigits negative n exponent down power rest =
      finishFloat negative n (if down then exponent - power else exponent + power) rest := by
  cases rest with
  | nil => rfl
  | cons b rest => simp [readPowerDigits, readPowerDigits.finishPower, h b rfl]

/-- A sign and digits are read as a power. -/
theorem readPower_digits (power : Digits) (fits : power.value ≤ powerLimit) (exponent : Int)
    (down : Bool) {rest : List UInt8} (h : Undigited rest) :
    readPower negative n exponent ((if down then 45 else 43) :: (power.bytes ++ rest)) =
      finishFloat negative n (if down then exponent - power.value else exponent + power.value)
        rest := by
  obtain ⟨_ | ⟨b, digits⟩, hne, hd⟩ := power
  · exact absurd rfl hne
  have hb := hd b (List.mem_cons_self ..)
  have hvalue : spelled (b.toNat - 48) digits = spelled 0 (b :: digits) := by
    rw [spelled_cons, Nat.mul_zero, Nat.zero_add]
  rw [Digits.value, ← hvalue] at *
  have hrun := readPowerDigits_append negative (n := n)
    (fun c hc => hd c (List.mem_cons_of_mem _ hc)) fits exponent down rest
  rw [readPowerDigits_of_undigited _ h] at hrun
  cases down <;> simpa [readPower, hb] using hrun

end Runs

/-! ## Literals -/

/-- A number as it is written. -/
structure Literal where
  /-- Whether a minus sign stands in front. -/
  negative : Bool
  /-- The digits in front of the point. -/
  whole : Digits
  /-- A zero stands in front of no other digit. -/
  canonical : whole.bytes.head? = some 48 → whole.bytes = [48]
  /-- The digits behind the point, if there is one. -/
  fraction : Option Digits
  /-- The power of ten, if there is one, and whether it is negative. -/
  power : Option (Bool × Digits)

namespace Literal

/-- The point and the digits behind it. -/
def pointed : Option Digits → List UInt8
  | none => []
  | some digits => 46 :: digits.bytes

/-- The mark of a power, its sign and its digits. -/
def marked : Option (Bool × Digits) → List UInt8
  | none => []
  | some (down, digits) => 101 :: (if down then 45 else 43) :: digits.bytes

/-- What stands behind the sign. -/
def unsigned (l : Literal) : List UInt8 := l.whole.bytes ++ (pointed l.fraction ++ marked l.power)

/-- The text of a literal. -/
def bytes (l : Literal) : List UInt8 := if l.negative then 45 :: l.unsigned else l.unsigned

/-- The digits behind the point. -/
def fractionDigits (l : Literal) : List UInt8 := (l.fraction.map (·.bytes)).getD []

/-- All digits in front of the power, as one number. -/
def significand (l : Literal) : Nat := spelled 0 (l.whole.bytes ++ l.fractionDigits)

/-- The power of ten that the last digit in front of the power is worth. -/
def exponent (l : Literal) : Int :=
  match l.power with
  | none => -(l.fractionDigits.length : Int)
  | some (down, digits) =>
    if down then -(l.fractionDigits.length : Int) - digits.value
    else -(l.fractionDigits.length : Int) + digits.value

/-- The number that a literal is read as, unless it is too large. -/
def number? (l : Literal) : Option Number :=
  if l.fraction.isNone && l.power.isNone then some (integerOf l.negative l.significand)
  else (scaled? l.significand l.exponent).map fun x => .float (signed l.negative x)

/-- A literal can be counted where its digits have 64 bits and its power is not absurd. -/
structure Countable (l : Literal) : Prop where
  /-- The digits have 64 bits. -/
  digits : l.significand < wordBound
  /-- The power is one that readers count. -/
  power : ∀ down digits, l.power = some (down, digits) → digits.value ≤ powerLimit

variable {l : Literal} {rest : List UInt8}

theorem undigited_marked (power : Option (Bool × Digits)) (h : Delimited rest) :
    Undigited (marked power ++ rest) := by
  obtain _ | ⟨down, digits⟩ := power
  · exact h.undigited
  · intro b hb
    cases hb
    rfl

theorem undigited_pointed (fraction : Option Digits) (power : Option (Bool × Digits))
    (h : Delimited rest) : Undigited (pointed fraction ++ (marked power ++ rest)) := by
  obtain _ | digits := fraction
  · exact undigited_marked power h
  · intro b hb
    cases hb
    rfl

/-- The digits in front of the point spell no larger number than all digits. -/
theorem value_whole_le (l : Literal) : l.whole.value ≤ l.significand := by
  rw [significand, spelled_append]
  exact le_spelled _ _

/-- The digits in front of the point are read. -/
theorem readUnsigned_whole (l : Literal) (fits : l.significand < wordBound) (negative : Bool)
    {tail : List UInt8} (h : Undigited tail) :
    readUnsigned negative (l.whole.bytes ++ tail) = readWhole negative l.whole.value tail := by
  have hle := l.value_whole_le
  have hcanonical := l.canonical
  generalize l.whole = whole at hle hcanonical ⊢
  obtain ⟨_ | ⟨b, digits⟩, hne, hd⟩ := whole
  · exact absurd rfl hne
  rw [Digits.value, spelled_cons, Nat.mul_zero, Nat.zero_add] at *
  by_cases hzero : b = 48
  · subst hzero
    have hnil : digits = [] := by simpa using hcanonical rfl
    subst hnil
    cases tail with
    | nil => rfl
    | cons c tail => simp [readUnsigned, h c rfl]
  · have hb := hd b (List.mem_cons_self ..)
    have hrun := readWhole_append negative
      (fun c hc => hd c (List.mem_cons_of_mem _ hc)) (Nat.lt_of_le_of_lt hle fits) tail
    simpa [readUnsigned, hzero, hb] using hrun

/-- A power, where there is one, is read; otherwise the number ends. -/
theorem readOptionalPower_marked (l : Literal) (countable : l.Countable) (negative : Bool)
    (h : Delimited rest) :
    readOptionalPower negative l.significand (-(l.fractionDigits.length : Int))
        (marked l.power ++ rest) =
      finishFloat negative l.significand l.exponent rest := by
  cases hpower : l.power with
  | none => rw [marked, List.nil_append, readOptionalPower_of_delimited _ h, exponent, hpower]
  | some power =>
    obtain ⟨down, digits⟩ := power
    have hread := readPower_digits negative (n := l.significand) digits
      (countable.power down digits hpower) (-(l.fractionDigits.length : Int)) down h.undigited
    rw [exponent, hpower, ← hread]
    rfl

/-- The sign is read. -/
theorem readNumber_sign (l : Literal) (tail : List UInt8) :
    Json.readNumber (l.bytes ++ tail) = readUnsigned l.negative (l.unsigned ++ tail) := by
  cases hneg : l.negative with
  | true => simp [bytes, hneg, Json.readNumber]
  | false =>
    obtain ⟨b, digits, hb⟩ := List.exists_cons_of_ne_nil l.whole.ne_nil
    have hne : b ≠ 45 := by
      rintro rfl
      have hd := l.whole.digit 45 (hb ▸ List.mem_cons_self ..)
      cases hd
    simp [bytes, hneg, unsigned, hb, Json.readNumber, hne]

/-- A number that is not too large is finished. -/
theorem finishFloat_of_scaled {negative : Bool} {digits : Nat} {exponent : Int} {x : Number}
    (hx : ((scaled? digits exponent).map fun x => Number.float (signed negative x)) = some x) :
    finishFloat negative digits exponent rest = .ok (x, rest) := by
  obtain ⟨y, hy, rfl⟩ := Option.map_eq_some_iff.mp hx
  rw [finishFloat, hy]

/-- A countable literal is read as its value, if that is not too large. -/
theorem readNumber_bytes (l : Literal) (countable : l.Countable) {x : Number}
    (hx : l.number? = some x) (h : Delimited rest) :
    Json.readNumber (l.bytes ++ rest) = .ok (x, rest) := by
  have hpower := l.readOptionalPower_marked countable l.negative h
  rw [readNumber_sign, unsigned, List.append_assoc, List.append_assoc,
    l.readUnsigned_whole countable.digits _ (undigited_pointed _ _ h)]
  cases hfraction : l.fraction with
  | some fraction =>
    have hdigits : l.fractionDigits = fraction.bytes := by simp [fractionDigits, hfraction]
    have hsignificand : spelled l.whole.value fraction.bytes = l.significand := by
      rw [significand, hdigits, spelled_append]
      rfl
    have hrun := readFraction_append l.negative fraction.digit
      (hsignificand ▸ countable.digits) 0 false (marked l.power ++ rest)
    have hany : (false || !fraction.bytes.isEmpty) = true := by simp [fraction.ne_nil]
    rw [hany, readFraction_of_undigited _ (undigited_marked _ h), hsignificand, Int.zero_sub,
      ← hdigits, hpower] at hrun
    have hread : readWhole l.negative l.whole.value
        (pointed (some fraction) ++ (marked l.power ++ rest)) =
          readFraction l.negative l.whole.value 0 false
            (fraction.bytes ++ (marked l.power ++ rest)) := rfl
    rw [hread, ← hdigits, hrun, finishFloat_of_scaled]
    simpa [number?, hfraction] using hx
  | none =>
    have hdigits : l.fractionDigits = [] := by simp [fractionDigits, hfraction]
    have hsignificand : l.significand = l.whole.value := by
      rw [significand, hdigits, List.append_nil]
      rfl
    cases hmarked : l.power with
    | none =>
      have hx : integerOf l.negative l.significand = x := by
        simpa [number?, hfraction, hmarked] using hx
      rw [← hx, hsignificand]
      exact readWhole_of_delimited _ h
    | some power =>
      rw [hsignificand, hdigits, hmarked] at hpower
      have hread : readWhole l.negative l.whole.value
            (pointed none ++ (marked (some power) ++ rest)) =
          readOptionalPower l.negative l.whole.value (-(([] : List UInt8).length : Int))
            (marked (some power) ++ rest) := rfl
      rw [hread, hpower, ← hsignificand, finishFloat_of_scaled]
      simpa [number?, hfraction, hmarked] using hx

/-- The digits in front of the point are passed over. -/
theorem skipNumber_whole (l : Literal) {tail : List UInt8} (h : Undigited tail) :
    Json.skipNumber ((if l.negative then 45 :: l.whole.bytes else l.whole.bytes) ++ tail) =
      skipTail tail := by
  have hcanonical := l.canonical
  generalize l.whole = whole at hcanonical ⊢
  obtain ⟨_ | ⟨b, digits⟩, hne, hd⟩ := whole
  · exact absurd rfl hne
  have hb := hd b (List.mem_cons_self ..)
  have hminus : b ≠ 45 := by
    rintro rfl
    cases hb
  have hdrop := dropWhile_digits (fun c hc => hd c (List.mem_cons_of_mem _ hc)) h
  by_cases hzero : b = 48
  · subst hzero
    have hnil : digits = [] := by simpa using hcanonical rfl
    subst hnil
    cases tail with
    | nil => cases l.negative <;> rfl
    | cons c tail => cases l.negative <;> simp [Json.skipNumber, h c rfl]
  · cases l.negative <;> simp [Json.skipNumber, hminus, hzero, hb, hdrop]

/-- A power, where there is one, is passed over. -/
theorem skipTail_marked (power : Option (Bool × Digits)) (h : Delimited rest) :
    skipTail (marked power ++ rest) = .ok rest := by
  obtain _ | ⟨down, ⟨_ | ⟨b, digits⟩, hne, hd⟩⟩ := power
  · cases rest with
    | nil => rfl
    | cons b rest =>
      obtain ⟨_, hpoint, hpower⟩ := h b rfl
      simp [marked, skipTail, hpower]
  · exact absurd rfl hne
  · have hb := hd b (List.mem_cons_self ..)
    have hdrop := dropWhile_digits (fun c hc => hd c (List.mem_cons_of_mem _ hc)) h.undigited
    cases down <;> simp [marked, skipTail, isPowerMark, skipPower, hb, hdrop]

/-- A literal is passed over, however large it is. -/
theorem skipNumber_bytes (l : Literal) (h : Delimited rest) :
    Json.skipNumber (l.bytes ++ rest) = .ok rest := by
  have hbytes : l.bytes ++ rest = (if l.negative then 45 :: l.whole.bytes else l.whole.bytes) ++
      (pointed l.fraction ++ (marked l.power ++ rest)) := by
    cases hneg : l.negative <;> simp [bytes, unsigned, hneg]
  rw [hbytes, l.skipNumber_whole (undigited_pointed _ _ h)]
  cases l.fraction with
  | none => exact skipTail_marked l.power h
  | some fraction =>
    have hlength : (marked l.power ++ rest).length ≠
        (fraction.bytes ++ (marked l.power ++ rest)).length := by
      simp [fraction.ne_nil]
    have hdrop := dropWhile_digits fraction.digit (undigited_marked l.power h)
    simp only [pointed, List.cons_append, skipTail, hdrop, if_neg hlength]
    -- what stands behind the fraction is passed over as it would be without one
    cases l.power with
    | none =>
      cases rest with
      | nil => rfl
      | cons b rest => simp [marked, (h b rfl).2.2]
    | some power => simpa [marked, skipTail, isPowerMark] using skipTail_marked (some power) h

end Literal

end NavStream.Json
