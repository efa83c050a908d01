import NavStream.Proofs.Decimal.Floating
import NavStream.Sentence.Record

/-!
# What items are read as

An item stands between two commas, and each column reads its items as one of five types. What the
types read is stated here apart from the columns. Numbers may be padded with white space; only a
coordinate may be left out, and then nothing at all may stand in its place.

* `Trimmed`, `trim_eq_iff` — text and the same text without its padding;
* `ItemType.Reads` — what an item of a type is read as;
* `ItemType.read?_eq_some_iff` — reading an item finds just this.
-/

namespace NavStream.Sentence

open NavStream.Decimal NavStream.Text

/-! ## Padding -/

/-- A text is another one with white space at both ends, and this other one has none there. -/
structure Trimmed (text body : List Char) : Prop where
  /-- There is white space in front and behind. -/
  padded : ∃ front back, text = front ++ body ++ back ∧ (∀ c ∈ front, isBlank c = true) ∧
    ∀ c ∈ back, isBlank c = true
  /-- The body begins with something else. -/
  head : ∀ c ∈ body.head?, isBlank c = false
  /-- And it ends in something else. -/
  last : ∀ c ∈ body.getLast?, isBlank c = false

/-- What is not dropped begins with what is kept. -/
theorem isBlank_head_dropWhile (text : List Char) :
    ∀ c ∈ (text.dropWhile isBlank).head?, isBlank c = false := by
  intro c hc
  have hkept := List.head?_dropWhile_not isBlank text
  rw [Option.mem_def.1 hc] at hkept
  simpa using hkept

/-- Trimming takes the white space at both ends. -/
theorem trimmed_trim (text : List Char) : Trimmed text (trim text) := by
  unfold trim
  have hfront := List.takeWhile_append_dropWhile (p := isBlank) (l := text)
  have hhead := isBlank_head_dropWhile text
  generalize text.dropWhile isBlank = rest at hfront hhead
  have hback := List.takeWhile_append_dropWhile (p := isBlank) (l := rest.reverse)
  have hsplit : (rest.reverse.dropWhile isBlank).reverse ++
      (rest.reverse.takeWhile isBlank).reverse = rest := by
    rw [← List.reverse_append, hback, List.reverse_reverse]
  refine ⟨⟨text.takeWhile isBlank, (rest.reverse.takeWhile isBlank).reverse, ?_, ?_, ?_⟩, ?_, ?_⟩
  · rw [List.append_assoc, hsplit, hfront]
  · exact List.all_eq_true.1 List.all_takeWhile
  · intro c hc
    exact List.all_eq_true.1 List.all_takeWhile c (List.mem_reverse.1 hc)
  · intro c hc
    refine hhead c ?_
    rw [← hsplit, List.head?_append, hc]
    rfl
  · intro c hc
    rw [List.getLast?_reverse] at hc
    exact isBlank_head_dropWhile _ c hc

/-- **Trimming** leaves the one body that the text is padded around. -/
theorem trim_eq_iff {text body : List Char} : trim text = body ↔ Trimmed text body := by
  constructor
  · rintro rfl
    exact trimmed_trim text
  · rintro ⟨⟨front, back, rfl, hfront, hback⟩, hhead, hlast⟩
    unfold trim
    cases body with
    | nil =>
      have hblank : ∀ c ∈ front ++ [] ++ back, isBlank c = true := by
        intro c hc
        rw [List.append_nil] at hc
        exact (List.mem_append.1 hc).elim (hfront c) (hback c)
      have hempty : ∀ c ∈ ([] : List Char).head?, isBlank c = false := nofun
      have hnothing := (span_append hblank hempty).2
      rw [List.append_nil] at hnothing
      rw [hnothing]
      rfl
    | cons c body =>
      have hstart : ∀ d ∈ (c :: body ++ back).head?, isBlank d = false := hhead
      have hend : ∀ d ∈ (c :: body).reverse.head?, isBlank d = false := by
        rw [List.head?_reverse]
        exact hlast
      have hpadding : ∀ d ∈ back.reverse, isBlank d = true := fun d hd =>
        hback d (List.mem_reverse.1 hd)
      rw [List.append_assoc, (span_append hfront hstart).2, List.reverse_append,
        (span_append hpadding hend).2, List.reverse_reverse]

/-! ## Items -/

/-- The types of items. -/
inductive ItemType where
  /-- A whole number of 32 bits. -/
  | word32
  /-- A byte in hexadecimal digits. -/
  | hexWord8
  /-- A number of double precision. -/
  | float
  /-- A number of double precision that may be left out. -/
  | coordinate
  /-- Any text. -/
  | text
deriving DecidableEq, Repr

/-- What an item is read as. -/
inductive Cell where
  | word32 (value : UInt32)
  | word8 (value : UInt8)
  | float (value : Float)
  | text (value : String)

namespace ItemType

/-- What an item of a type is read as. -/
inductive Reads : ItemType → List Char → Cell → Prop where
  /-- Decimal digits of a number below two to the power of 32, behind an optional plus sign. -/
  | word32 {item body : List Char} {value : UInt32} (htrim : Trimmed item body)
    (hvalue : Unsigned 10 0x100000000 body value.toNat) : Reads .word32 item (.word32 value)
  /-- Hexadecimal digits of a number below 256, behind an optional plus sign. -/
  | hexWord8 {item body : List Char} {value : UInt8} (htrim : Trimmed item body)
    (hvalue : Unsigned 16 256 body value.toNat) : Reads .hexWord8 item (.word8 value)
  /-- A number of double precision. -/
  | float {item body : List Char} {value : Float} (htrim : Trimmed item body)
    (hvalue : Floating body value) : Reads .float item (.float value)
  /-- A coordinate that is there. -/
  | coordinate {item body : List Char} {value : Float} (htrim : Trimmed item body)
    (hvalue : Floating body value) : Reads .coordinate item (.float value)
  /-- A coordinate that is left out is no number. -/
  | absent : Reads .coordinate [] (.float (0.0 / 0.0))
  /-- A text stands for itself, with its padding. -/
  | text (item : List Char) : Reads .text item (.text (String.ofList item))

/-- What a column of a type has where the sentence has no item for it. -/
def default : ItemType → Cell
  | word32 => .word32 0
  | hexWord8 => .word8 0
  | float | coordinate => .float 0.0
  | text => .text ""

/-- Reads an item of a type. -/
def read? : ItemType → List Char → Option Cell
  | word32, item => (word32? (trim item)).map .word32
  | hexWord8, item => (hexWord8? (trim item)).map .word8
  | float, item => (float? (trim item)).map .float
  | coordinate, item => (if item.isEmpty then some (0.0 / 0.0) else float? (trim item)).map .float
  | text, item => some (.text (String.ofList item))

/-- No number is spelled by nothing. -/
theorem not_floating_nil {value : Float} : ¬Floating [] value := by
  rw [← float?_eq_some_iff]
  have hnone : float? [] = none := rfl
  rw [hnone]
  nofun

/-- **Reading an item** finds what its type reads, and nothing where the type reads nothing. -/
theorem read?_eq_some_iff {type : ItemType} {item : List Char} {cell : Cell} :
    type.read? item = some cell ↔ type.Reads item cell := by
  constructor
  · intro h
    cases type with
    | word32 =>
      obtain ⟨value, hvalue, rfl⟩ := Option.map_eq_some_iff.1 h
      exact .word32 (trimmed_trim item) (word32?_eq_some_iff.1 hvalue)
    | hexWord8 =>
      obtain ⟨value, hvalue, rfl⟩ := Option.map_eq_some_iff.1 h
      exact .hexWord8 (trimmed_trim item) (hexWord8?_eq_some_iff.1 hvalue)
    | float =>
      obtain ⟨value, hvalue, rfl⟩ := Option.map_eq_some_iff.1 h
      exact .float (trimmed_trim item) (float?_eq_some_iff.1 hvalue)
    | coordinate =>
      obtain ⟨value, hvalue, rfl⟩ := Option.map_eq_some_iff.1 h
      cases item with
      | nil =>
        cases hvalue
        exact .absent
      | cons c item => exact .coordinate (trimmed_trim _) (float?_eq_some_iff.1 hvalue)
    | text =>
      cases h
      exact .text item
  · intro h
    cases h with
    | word32 htrim hvalue =>
      rw [read?, trim_eq_iff.2 htrim, word32?_eq_some_iff.2 hvalue, Option.map_some]
    | hexWord8 htrim hvalue =>
      rw [read?, trim_eq_iff.2 htrim, hexWord8?_eq_some_iff.2 hvalue, Option.map_some]
    | float htrim hvalue =>
      rw [read?, trim_eq_iff.2 htrim, float?_eq_some_iff.2 hvalue, Option.map_some]
    | coordinate htrim hvalue =>
      have hitem : ¬item.isEmpty = true := by
        intro hempty
        rw [List.isEmpty_iff.1 hempty] at htrim
        rw [← trim_eq_iff.2 htrim] at hvalue
        exact not_floating_nil hvalue
      rw [read?, if_neg hitem, trim_eq_iff.2 htrim, float?_eq_some_iff.2 hvalue, Option.map_some]
    | absent => rfl
    | text => rfl

/-- An item is read as one cell only. -/
theorem Reads.unique {type : ItemType} {item : List Char} {first second : Cell}
    (hfirst : type.Reads item first) (hsecond : type.Reads item second) : first = second := by
  rw [← read?_eq_some_iff] at hfirst hsecond
  exact Option.some.inj (hfirst.symm.trans hsecond)

end ItemType

end NavStream.Sentence
