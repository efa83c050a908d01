import Mathlib.Data.List.Induction
import NavStream.Decimal.Reading

/-!
# What whole numbers are read from

The readers of whole numbers accept just the texts of their grammar, which is stated here apart from
them: digits, the most significant one in front, behind an optional plus sign.

* `Digit` — the characters of a value;
* `Spells` — digits and the number that they spell;
* `natural?_eq_some_iff` — the number of one or more digits;
* `word32?_eq_some_iff`, `hexWord8?_eq_some_iff` — words and bytes.
-/

namespace NavStream.Decimal

/-! ## Digits -/

/-- A character is the digit of a value, in either case. -/
def Digit (base : Nat) (c : Char) (value : Nat) : Prop :=
  value < base ∧ (c = Nat.digitChar value ∨ c = (Nat.digitChar value).toUpper)

/-- Digits are characters of their own values. -/
theorem digitValue?_digitChar : ∀ value < 16,
    digitValue? 16 (Nat.digitChar value) = some value ∧
      digitValue? 16 (Nat.digitChar value).toUpper = some value := by
  decide

/-- Smaller bases have fewer digits, of the same values. -/
theorem digitValue?_of_le {base : Nat} (hbase : base ≤ 16) (c : Char) :
    digitValue? base c = (digitValue? 16 c).filter (· < base) := by
  unfold digitValue?
  dsimp only
  rw [Option.filter_filter]
  congr 1
  funext value
  by_cases h : value < base
  · simp [h, Nat.lt_of_lt_of_le h hbase]
  · simp [h]

/-- A character that has a value as a digit is one of its two digits. -/
theorem digit_of_digitValue? {c : Char} {value : Nat} (h : digitValue? 16 c = some value) :
    Digit 16 c value := by
  obtain ⟨hvalue, hlt⟩ := Option.filter_eq_some_iff.1 h
  have hlt : value < 16 := of_decide_eq_true hlt
  have hchar : ∀ n, c.toNat = n → c = Char.ofNat n := by
    intro n hn
    rw [← hn, Char.ofNat_toNat]
  have hcode : c.toNat = 48 + value ∧ value < 10 ∨ c.toNat = 55 + value ∧ 10 ≤ value ∨
      c.toNat = 87 + value ∧ 10 ≤ value := by
    grind
  refine ⟨hlt, ?_⟩
  rcases hcode with ⟨hc, hsmall⟩ | ⟨hc, hlarge⟩ | ⟨hc, hlarge⟩
  · have hdigit : ∀ value < 10, Char.ofNat (48 + value) = Nat.digitChar value := by decide
    exact .inl ((hchar _ hc).trans (hdigit value hsmall))
  · have hdigit : ∀ value < 16, 10 ≤ value →
        Char.ofNat (55 + value) = (Nat.digitChar value).toUpper := by decide
    exact .inr ((hchar _ hc).trans (hdigit value hlt hlarge))
  · have hdigit : ∀ value < 16, 10 ≤ value → Char.ofNat (87 + value) = Nat.digitChar value := by
      decide
    exact .inl ((hchar _ hc).trans (hdigit value hlt hlarge))

/-- **The value of a digit** is read from its two characters, and from no other. -/
theorem digitValue?_eq_some_iff {base : Nat} (hbase : base ≤ 16) {c : Char} {value : Nat} :
    digitValue? base c = some value ↔ Digit base c value := by
  rw [digitValue?_of_le hbase, Option.filter_eq_some_iff, decide_eq_true_iff]
  constructor
  · rintro ⟨hvalue, hlt⟩
    exact ⟨hlt, (digit_of_digitValue? hvalue).2⟩
  · rintro ⟨hlt, hc⟩
    obtain ⟨hlower, hupper⟩ := digitValue?_digitChar value (Nat.lt_of_lt_of_le hlt hbase)
    rcases hc with rfl | rfl
    · exact ⟨hlower, hlt⟩
    · exact ⟨hupper, hlt⟩

/-- Digits that spell a number, the most significant one in front. -/
inductive Spells (base : Nat) : List Char → Nat → Prop where
  /-- No digits spell zero. -/
  | nil : Spells base [] 0
  /-- One more digit behind a number. -/
  | snoc {digits : List Char} {n : Nat} {c : Char} {value : Nat} (front : Spells base digits n)
    (last : Digit base c value) : Spells base (digits ++ [c]) (base * n + value)

/-- The number that digits spell, if all of them are digits. -/
def spelled? (base : Nat) (digits : List Char) : Option Nat :=
  (digits.mapM (digitValue? base)).map fun values => values.foldl (fun n d => base * n + d) 0

/-- One more digit behind a number. -/
theorem spelled?_concat (base : Nat) (digits : List Char) (c : Char) :
    spelled? base (digits ++ [c]) =
      (spelled? base digits).bind fun n => (digitValue? base c).map (base * n + ·) := by
  unfold spelled?
  rw [List.mapM_append]
  cases digits.mapM (digitValue? base) with
  | none => rfl
  | some values => cases hc : digitValue? base c <;> simp [hc]

/-- What digits spell is calculated from the most significant one on. -/
theorem spelled?_eq_some_iff {base : Nat} (hbase : base ≤ 16) {digits : List Char} {n : Nat} :
    spelled? base digits = some n ↔ Spells base digits n := by
  constructor
  · intro h
    induction digits using List.reverseRecOn generalizing n with
    | nil =>
      cases h
      exact .nil
    | append_singleton digits c ih =>
      rw [spelled?_concat, Option.bind_eq_some_iff] at h
      obtain ⟨front, hfront, hlast⟩ := h
      obtain ⟨value, hvalue, rfl⟩ := Option.map_eq_some_iff.1 hlast
      exact .snoc (ih hfront) ((digitValue?_eq_some_iff hbase).1 hvalue)
  · intro h
    induction h with
    | nil => rfl
    | snoc _ last ih => rw [spelled?_concat, ih, Option.bind_some,
        (digitValue?_eq_some_iff hbase).2 last, Option.map_some]

/-- **A numeral** is at least one digit, and nothing else. -/
theorem natural?_eq_some_iff {base : Nat} (hbase : base ≤ 16) {digits : List Char} {n : Nat} :
    natural? base digits = some n ↔ digits ≠ [] ∧ Spells base digits n := by
  have hnatural :
      natural? base digits = if digits.isEmpty then none else spelled? base digits := rfl
  rw [hnatural, ← spelled?_eq_some_iff hbase]
  cases digits <;> simp

/-- Every character of a numeral is a digit. -/
theorem Spells.digit {base : Nat} {digits : List Char} {n : Nat} (h : Spells base digits n)
    {c : Char} (hc : c ∈ digits) : ∃ value, Digit base c value := by
  induction h with
  | nil => cases hc
  | snoc _ last ih =>
    rcases List.mem_append.1 hc with hfront | hlast
    · exact ih hfront
    · rw [List.mem_singleton.1 hlast]
      exact ⟨_, last⟩

/-- A character that is no hexadecimal digit is no digit of a smaller base either. -/
theorem not_digit {base : Nat} (hbase : base ≤ 16) {c : Char} (hc : digitValue? 16 c = none)
    (value : Nat) : ¬Digit base c value := by
  intro h
  rw [← digitValue?_eq_some_iff hbase, digitValue?_of_le hbase, hc] at h
  cases h

/-! ## Whole numbers -/

/-- A number below a bound: at least one digit, behind an optional plus sign. -/
def Unsigned (base bound : Nat) (text : List Char) (n : Nat) : Prop :=
  n < bound ∧ ∃ digits : List Char, digits ≠ [] ∧ Spells base digits n ∧
    (text = digits ∨ text = '+' :: digits)

/-- A numeral behind an optional plus sign. -/
theorem natural?_dropPlus_iff {base : Nat} (hbase : base ≤ 16) {text : List Char} {n : Nat} :
    natural? base (dropPlus text) = some n ↔
      ∃ digits : List Char, digits ≠ [] ∧ Spells base digits n ∧
        (text = digits ∨ text = '+' :: digits) := by
  rw [natural?_eq_some_iff hbase]
  constructor
  · rintro ⟨hne, hspells⟩
    refine ⟨dropPlus text, hne, hspells, ?_⟩
    unfold dropPlus
    split
    · exact .inr rfl
    · exact .inl rfl
  · rintro ⟨digits, hne, hspells, rfl | rfl⟩
    · have hsame : dropPlus text = text := by
        unfold dropPlus
        split
        · obtain ⟨value, hplus⟩ := hspells.digit (List.mem_cons_self ..)
          exact absurd hplus (not_digit hbase (by decide) value)
        · rfl
      rw [hsame]
      exact ⟨hne, hspells⟩
    · exact ⟨hne, hspells⟩

/-- **A number of 32 bits** is read from its decimal digits. -/
theorem word32?_eq_some_iff {text : List Char} {word : UInt32} :
    word32? text = some word ↔ Unsigned 10 0x100000000 text word.toNat := by
  unfold word32? Unsigned
  rw [Option.map_eq_some_iff, ← natural?_dropPlus_iff (by decide)]
  constructor
  · rintro ⟨n, hn, rfl⟩
    obtain ⟨hread, hlt⟩ := Option.filter_eq_some_iff.1 hn
    rw [UInt32.toNat_ofNat_of_lt' (of_decide_eq_true hlt)]
    exact ⟨of_decide_eq_true hlt, hread⟩
  · rintro ⟨hlt, hread⟩
    refine ⟨word.toNat, ?_, UInt32.ofNat_toNat⟩
    exact Option.filter_eq_some_iff.2 ⟨hread, decide_eq_true hlt⟩

/-- **A byte** is read from its hexadecimal digits. -/
theorem hexWord8?_eq_some_iff {text : List Char} {byte : UInt8} :
    hexWord8? text = some byte ↔ Unsigned 16 256 text byte.toNat := by
  unfold hexWord8? Unsigned
  rw [Option.map_eq_some_iff, ← natural?_dropPlus_iff (by decide)]
  constructor
  · rintro ⟨n, hn, rfl⟩
    obtain ⟨hread, hlt⟩ := Option.filter_eq_some_iff.1 hn
    rw [UInt8.toNat_ofNat_of_lt' (of_decide_eq_true hlt)]
    exact ⟨of_decide_eq_true hlt, hread⟩
  · rintro ⟨hlt, hread⟩
    refine ⟨byte.toNat, ?_, UInt8.ofNat_toNat⟩
    exact Option.filter_eq_some_iff.2 ⟨hread, decide_eq_true hlt⟩

end NavStream.Decimal
