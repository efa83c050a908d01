import NavStream.Proofs.Decimal.Numeral

/-!
# What numbers of double precision are read from

A number of double precision is an optional sign and a magnitude: a word, or digits with an optional
point among them and an optional power of ten behind them. The reader accepts just these texts, and
reads the nearest number to the one that the digits spell.

* `Signed`, `Power`, `Fraction`, `Magnitude`, `Floating` — the grammar, apart from the reader;
* `power?_eq_some_iff`, `unsigned?_eq_some_iff` — powers and magnitudes;
* `float?_eq_some_iff` — what the reader accepts, and what it reads.
-/

namespace NavStream.Decimal

/-! ## The grammar -/

/-- A text behind an optional sign, which may be a minus. -/
inductive Signed : (text rest : List Char) → (negative : Bool) → Prop where
  | bare (rest : List Char) : Signed rest rest false
  | plus (rest : List Char) : Signed ('+' :: rest) rest false
  | minus (rest : List Char) : Signed ('-' :: rest) rest true

/-- What stands behind the digits: nothing, or a power of ten. -/
inductive Power : List Char → Int → Prop where
  /-- No power is written. -/
  | absent : Power [] 0
  /-- An `e` of either case, an optional sign and digits. -/
  | written {mark : Char} {text digits : List Char} {negative : Bool} {n : Nat}
    (hmark : mark = 'e' ∨ mark = 'E') (sign : Signed text digits negative) (hne : digits ≠ [])
    (hspells : Spells 10 digits n) : Power (mark :: text) (if negative then -(n : Int) else n)

/-- The digits behind the point, if there is one. -/
inductive Fraction : (text digits : List Char) → Prop where
  /-- There is no point. -/
  | absent : Fraction [] []
  /-- A point and any number of digits. -/
  | written (digits : List Char) : Fraction ('.' :: digits) digits

/-- A number without its sign. -/
inductive Magnitude : List Char → Float → Prop where
  /-- A word for infinity, in any case. -/
  | infinite {text : List Char}
    (word : text.map Char.toLower = "inf".toList ∨ text.map Char.toLower = "infinity".toList) :
    Magnitude text (1.0 / 0.0)
  /-- The word for no number, in any case. -/
  | notANumber {text : List Char} (word : text.map Char.toLower = "nan".toList) :
    Magnitude text (0.0 / 0.0)
  /-- Digits with an optional point among them, and an optional power of ten behind them. -/
  | digits {whole point fraction behind : List Char} {n : Nat} {power : Int}
    (hpoint : Fraction point fraction) (hne : whole ++ fraction ≠ [])
    (hspells : Spells 10 (whole ++ fraction) n) (hpower : Power behind power) :
    Magnitude (whole ++ point ++ behind) (nearest n (power - fraction.length))

/-- A number of double precision. -/
inductive Floating : List Char → Float → Prop where
  /-- A magnitude behind an optional sign. -/
  | intro {text rest : List Char} {negative : Bool} {magnitude : Float}
    (sign : Signed text rest negative) (hmagnitude : Magnitude rest magnitude) :
    Floating text (if negative then -magnitude else magnitude)

/-! ## Signs and digits -/

/-- A text stands behind the sign that is split off. -/
theorem signed_splitSign (text : List Char) :
    Signed text (splitSign text).2 (splitSign text).1 := by
  unfold splitSign
  split
  · exact .minus _
  · exact .plus _
  · exact .bare _

/-- A sign is split off, and nothing of a text that begins with no sign. -/
theorem splitSign_of_signed {text rest : List Char} {negative : Bool}
    (h : Signed text rest negative) (hrest : ∀ c ∈ rest.head?, c ≠ '+' ∧ c ≠ '-') :
    splitSign text = (negative, rest) := by
  cases h with
  | bare =>
    unfold splitSign
    split
    · exact absurd rfl (hrest '-' rfl).2
    · exact absurd rfl (hrest '+' rfl).1
    · rfl
  | plus => rfl
  | minus => rfl

/-- What counts as a digit is one. -/
theorem isDigit_iff {c : Char} : isDigit c = true ↔ ∃ value, Digit 10 c value := by
  unfold isDigit
  rw [Option.isSome_iff_exists]
  constructor
  · rintro ⟨value, hvalue⟩
    exact ⟨value, (digitValue?_eq_some_iff (by decide)).1 hvalue⟩
  · rintro ⟨value, hvalue⟩
    exact ⟨value, (digitValue?_eq_some_iff (by decide)).2 hvalue⟩

/-- Digits spell the number that they are taken for. -/
theorem digitsValue_of_spells {digits : List Char} {n : Nat} (h : Spells 10 digits n) :
    digitsValue digits = n := by
  unfold digitsValue
  by_cases hne : digits = []
  · subst hne
    have hzero := (spelled?_eq_some_iff (by decide)).2 h
    cases hzero
    rfl
  · rw [(natural?_eq_some_iff (by decide)).2 ⟨hne, h⟩]
    rfl

/-- Any run of digits spells a number. -/
theorem spells_digitsValue {digits : List Char} (h : ∀ c ∈ digits, isDigit c = true) :
    Spells 10 digits (digitsValue digits) := by
  have hexists : ∃ n, Spells 10 digits n := by
    induction digits using List.reverseRecOn with
    | nil => exact ⟨0, .nil⟩
    | append_singleton digits c ih =>
      obtain ⟨n, hfront⟩ := ih fun d hd => h d (List.mem_append_left _ hd)
      obtain ⟨value, hlast⟩ := isDigit_iff.1 (h c List.mem_concat_self)
      exact ⟨_, .snoc hfront hlast⟩
  obtain ⟨n, hspells⟩ := hexists
  rw [digitsValue_of_spells hspells]
  exact hspells

/-- A run of characters ends in front of the first that does not belong to it. -/
theorem span_append {p : Char → Bool} {front rest : List Char} (hfront : ∀ c ∈ front, p c = true)
    (hrest : ∀ c ∈ rest.head?, p c = false) :
    (front ++ rest).takeWhile p = front ∧ (front ++ rest).dropWhile p = rest := by
  rw [List.takeWhile_append_of_pos hfront, List.dropWhile_append_of_pos hfront]
  cases rest with
  | nil => simp
  | cons c rest => simp [hrest c rfl]

/-! ## Powers and magnitudes -/

/-- Behind the mark of a power an optional sign and digits are read. -/
theorem power?_cons (mark : Char) (rest : List Char) :
    power? (mark :: rest) =
      if mark = 'e' ∨ mark = 'E' then
        (natural? 10 (splitSign rest).2).map fun (n : Nat) =>
          if (splitSign rest).1 then -(n : Int) else n
      else none := by
  unfold power?
  simp only [Bool.or_eq_true, decide_eq_true_eq]
  cases natural? 10 (splitSign rest).2 <;> rfl

/-- **A power of ten** is read from what stands behind the digits. -/
theorem power?_eq_some_iff {text : List Char} {power : Int} :
    power? text = some power ↔ Power text power := by
  constructor
  · intro h
    cases text with
    | nil =>
      cases h
      exact .absent
    | cons mark rest =>
      rw [power?_cons] at h
      by_cases hmark : mark = 'e' ∨ mark = 'E'
      · rw [if_pos hmark] at h
        obtain ⟨n, hn, rfl⟩ := Option.map_eq_some_iff.1 h
        obtain ⟨hne, hspells⟩ := (natural?_eq_some_iff (by decide)).1 hn
        exact .written hmark (signed_splitSign rest) hne hspells
      · rw [if_neg hmark] at h
        cases h
  · intro h
    cases h with
    | absent => rfl
    | @written mark text digits negative n hmark sign hne hspells =>
      have hunsigned : ∀ c ∈ digits.head?, c ≠ '+' ∧ c ≠ '-' := by
        intro c hc
        obtain ⟨value, hvalue⟩ := hspells.digit (List.mem_of_mem_head? hc)
        constructor <;> rintro rfl <;> exact not_digit (by decide) (by decide) value hvalue
      have hnatural := (natural?_eq_some_iff (by decide)).2 ⟨hne, hspells⟩
      rw [power?_cons, if_pos hmark, splitSign_of_signed sign hunsigned, hnatural]
      rfl

/-- Neither a digit nor a point stands in front of a power. -/
theorem Power.head {text : List Char} {power : Int} (h : Power text power) :
    ∀ c ∈ text.head?, isDigit c = false ∧ c ≠ '.' := by
  intro c hc
  cases h with
  | absent => cases hc
  | written hmark =>
    obtain rfl := Option.some.inj hc
    rcases hmark with rfl | rfl <;> decide

/-- Splits a point and the digits behind it off, if there is a point. -/
def splitFraction : List Char → List Char × List Char
  | '.' :: tail => (tail.takeWhile isDigit, tail.dropWhile isDigit)
  | rest => ([], rest)

/-- A magnitude is digits, a fraction and a power. -/
theorem magnitude?_eq (text : List Char) :
    magnitude? text =
      let whole := text.takeWhile isDigit
      let (fraction, behind) := splitFraction (text.dropWhile isDigit)
      if whole.isEmpty && fraction.isEmpty then none
      else (power? behind).map fun power =>
        nearest (digitsValue (whole ++ fraction)) (power - fraction.length) := by
  unfold magnitude?
  generalize text.dropWhile isDigit = rest
  dsimp only
  split
  · rfl
  · next hpoint => rw [splitFraction.eq_2 rest hpoint]

/-- What is split off is a fraction. -/
theorem fraction_splitFraction (rest : List Char) :
    ∃ point, Fraction point (splitFraction rest).1 ∧ point ++ (splitFraction rest).2 = rest ∧
      ∀ c ∈ (splitFraction rest).1, isDigit c = true := by
  unfold splitFraction
  split
  · next tail =>
    refine ⟨_, .written _, ?_, List.all_eq_true.1 List.all_takeWhile⟩
    rw [List.cons_append, List.takeWhile_append_dropWhile]
  · exact ⟨[], .absent, rfl, nofun⟩

/-- A fraction is split off where neither a digit nor a point follows. -/
theorem splitFraction_append {point fraction behind : List Char} (h : Fraction point fraction)
    (hfraction : ∀ c ∈ fraction, isDigit c = true)
    (hbehind : ∀ c ∈ behind.head?, isDigit c = false ∧ c ≠ '.') :
    splitFraction (point ++ behind) = (fraction, behind) := by
  cases h with
  | absent =>
    rw [List.nil_append]
    unfold splitFraction
    split
    · exact absurd rfl (hbehind '.' rfl).2
    · rfl
  | written =>
    obtain ⟨htake, hdrop⟩ := span_append hfraction fun c hc => (hbehind c hc).1
    rw [List.cons_append, splitFraction, htake, hdrop]

/-- A fraction and what follows it begin with no digit. -/
theorem Fraction.head {point fraction behind : List Char} (h : Fraction point fraction)
    (hbehind : ∀ c ∈ behind.head?, isDigit c = false) :
    ∀ c ∈ (point ++ behind).head?, isDigit c = false := by
  cases h with
  | absent => exact hbehind
  | written =>
    intro c hc
    obtain rfl := Option.some.inj hc
    decide

/-- Digits with a point and a power are read as the number that they spell. -/
theorem magnitude?_of_digits {whole point fraction behind : List Char} {n : Nat} {power : Int}
    (hpoint : Fraction point fraction) (hne : whole ++ fraction ≠ [])
    (hspells : Spells 10 (whole ++ fraction) n) (hpower : Power behind power) :
    magnitude? (whole ++ point ++ behind) = some (nearest n (power - fraction.length)) := by
  have hdigit : ∀ c ∈ whole ++ fraction, isDigit c = true := fun c hc =>
    isDigit_iff.2 (hspells.digit hc)
  have hwhole : ∀ c ∈ whole, isDigit c = true := fun c hc =>
    hdigit c (List.mem_append_left _ hc)
  have hfraction : ∀ c ∈ fraction, isDigit c = true := fun c hc =>
    hdigit c (List.mem_append_right _ hc)
  have hempty : ¬(whole.isEmpty && fraction.isEmpty) = true := by
    rw [Bool.and_eq_true, List.isEmpty_iff, List.isEmpty_iff, ← List.append_eq_nil_iff]
    exact hne
  obtain ⟨htake, hdrop⟩ :=
    span_append hwhole (hpoint.head fun c hc => (hpower.head c hc).1)
  rw [magnitude?_eq, List.append_assoc, htake, hdrop,
    splitFraction_append hpoint hfraction hpower.head]
  dsimp only
  rw [if_neg hempty, power?_eq_some_iff.2 hpower, digitsValue_of_spells hspells, Option.map_some]

/-- What is read as digits is digits with an optional point and an optional power. -/
theorem magnitude_of_magnitude? {text : List Char} {value : Float}
    (h : magnitude? text = some value) : Magnitude text value := by
  have hsplit := List.takeWhile_append_dropWhile (p := isDigit) (l := text)
  have hwhole : ∀ c ∈ text.takeWhile isDigit, isDigit c = true :=
    List.all_eq_true.1 List.all_takeWhile
  obtain ⟨point, hpoint, hrest, hfraction⟩ := fraction_splitFraction (text.dropWhile isDigit)
  rw [magnitude?_eq] at h
  dsimp only at h
  split at h
  · cases h
  · next hempty =>
    rw [Bool.and_eq_true, List.isEmpty_iff, List.isEmpty_iff, ← List.append_eq_nil_iff] at hempty
    obtain ⟨power, hpower, rfl⟩ := Option.map_eq_some_iff.1 h
    have hspells := spells_digitsValue fun c hc =>
      (List.mem_append.1 hc).elim (hwhole c) (hfraction c)
    have hmagnitude := Magnitude.digits hpoint hempty hspells (power?_eq_some_iff.1 hpower)
    rwa [List.append_assoc, hrest, hsplit] at hmagnitude

/-! ## Words and signs -/

/-- A number in digits begins with a digit or a point. -/
theorem head_of_digits {whole point fraction : List Char} {n : Nat}
    (hpoint : Fraction point fraction) (hne : whole ++ fraction ≠ [])
    (hspells : Spells 10 (whole ++ fraction) n) (behind : List Char) :
    ∃ c rest, whole ++ point ++ behind = c :: rest ∧ (isDigit c = true ∨ c = '.') := by
  cases whole with
  | cons c whole =>
    exact ⟨c, _, rfl, .inl (isDigit_iff.2 (hspells.digit (List.mem_append_left _
      (List.mem_cons_self ..))))⟩
  | nil =>
    cases hpoint with
    | absent => exact absurd rfl hne
    | written => exact ⟨'.', _, rfl, .inr rfl⟩

/-- What begins a number in digits is neither a sign nor a letter of a word. -/
theorem ne_of_leads {c : Char} (h : isDigit c = true ∨ c = '.') :
    c.toLower ≠ 'i' ∧ c.toLower ≠ 'n' ∧ c ≠ '+' ∧ c ≠ '-' := by
  rcases h with hdigit | rfl
  · obtain ⟨value, hlt, hc⟩ := isDigit_iff.1 hdigit
    have hdigits : ∀ value < 10, (Nat.digitChar value).toUpper = Nat.digitChar value ∧
        (Nat.digitChar value).toLower ≠ 'i' ∧ (Nat.digitChar value).toLower ≠ 'n' ∧
        Nat.digitChar value ≠ '+' ∧ Nat.digitChar value ≠ '-' := by
      decide
    obtain ⟨hupper, hothers⟩ := hdigits value hlt
    rw [hupper, or_self] at hc
    rw [hc]
    exact hothers
  · decide

/-- No magnitude begins with a sign. -/
theorem Magnitude.unsigned {text : List Char} {value : Float} (h : Magnitude text value) :
    ∀ c ∈ text.head?, c ≠ '+' ∧ c ≠ '-' := by
  intro c hc
  cases h with
  | infinite word | notANumber word =>
    cases text with
    | nil => cases hc
    | cons d rest =>
      obtain rfl := Option.some.inj hc
      constructor <;> rintro rfl <;> simp at word
  | @digits whole point fraction behind n power hpoint hne hspells hpower =>
    obtain ⟨d, rest, htext, hlead⟩ := head_of_digits hpoint hne hspells behind
    rw [htext] at hc
    obtain rfl := Option.some.inj hc
    exact (ne_of_leads hlead).2.2

/-- Reads a number without its sign. -/
def unsigned? (text : List Char) : Option Float :=
  let word := String.ofList (text.map Char.toLower)
  if word = "inf" || word = "infinity" then some (1.0 / 0.0)
  else if word = "nan" then some (0.0 / 0.0)
  else magnitude? text

/-- A number of double precision is a number behind a sign. -/
theorem float?_eq (text : List Char) :
    float? text =
      (unsigned? (splitSign text).2).map fun value =>
        if (splitSign text).1 then -value else value := rfl

/-- **Magnitudes** are what is read behind a sign. -/
theorem unsigned?_eq_some_iff {text : List Char} {value : Float} :
    unsigned? text = some value ↔ Magnitude text value := by
  have hword (word : String) :
      String.ofList (text.map Char.toLower) = word ↔ text.map Char.toLower = word.toList := by
    rw [← String.toList_inj, String.toList_ofList]
  unfold unsigned?
  simp only [hword, Bool.or_eq_true, decide_eq_true_eq]
  constructor
  · intro h
    split at h
    · next word =>
      cases h
      exact .infinite word
    · split at h
      · next word =>
        cases h
        exact .notANumber word
      · exact magnitude_of_magnitude? h
  · intro h
    cases h with
    | infinite word => rw [if_pos word]
    | notANumber word =>
      rw [if_neg (by rw [word]; decide), if_pos word]
    | @digits whole point fraction behind n power hpoint hne hspells hpower =>
      -- a word begins with a letter, and digits do not
      obtain ⟨c, rest, htext, hlead⟩ := head_of_digits hpoint hne hspells behind
      obtain ⟨hi, hn, -⟩ := ne_of_leads hlead
      have hread := magnitude?_of_digits hpoint hne hspells hpower
      rw [htext] at hread ⊢
      rw [if_neg (by simp [hi]), if_neg (by simp [hn])]
      exact hread

/-- **A number of double precision** is read from a magnitude behind an optional sign. -/
theorem float?_eq_some_iff {text : List Char} {value : Float} :
    float? text = some value ↔ Floating text value := by
  rw [float?_eq, Option.map_eq_some_iff]
  constructor
  · rintro ⟨magnitude, hmagnitude, rfl⟩
    exact .intro (signed_splitSign text) (unsigned?_eq_some_iff.1 hmagnitude)
  · rintro ⟨sign, hmagnitude⟩
    rw [splitSign_of_signed sign hmagnitude.unsigned]
    exact ⟨_, unsigned?_eq_some_iff.2 hmagnitude, rfl⟩

end NavStream.Decimal
