import NavStream.Bytes.Fields

/-!
# Readers of fixed width

A reader of fixed width takes a certain number of bytes, fails only where there are fewer, and does
not look at what follows. Fields are such readers, and so is one reader after the other.

* `FixedWidth`, `FixedWidth.bind` — such readers, and their sequence;
* `FixedWidth.decode?_append`, `FixedWidth.isSome_decode?` — what follows does not matter, and when
  reading succeeds;
* `Forward` — readers whose result is decided by the bytes that they take;
* `Yields` — what all results of a reader have in common;
* `word8_cons`, `word16_leBytes`, … — fields read back what was written;
* `exists_word16`, `exists_word32` — and are written as they were read.
-/

namespace NavStream.Bytes.FieldReader

variable {α β : Type}

/-- One reader after the other, applied to bytes. -/
theorem bind_apply (reader : FieldReader α) (next : α → FieldReader β) (bytes : List UInt8) :
    (reader >>= next) bytes = (reader bytes).bind fun result => next result.1 result.2 := rfl

/-- A reader that reads nothing, applied to bytes. -/
theorem pure_apply (value : α) (bytes : List UInt8) :
    (pure value : FieldReader α) bytes = some (value, bytes) := rfl

/-- Where the first reader reads, the next one goes on with what it has left. -/
theorem bind_of_eq {reader : FieldReader α} {next : α → FieldReader β} {value : α}
    {bytes rest : List UInt8} (h : reader bytes = some (value, rest)) :
    (reader >>= next) bytes = next value rest := by
  rw [bind_apply, h]
  rfl

/-- A reader that takes exactly `width` bytes. -/
structure FixedWidth (reader : FieldReader α) (width : Nat) : Prop where
  /-- It fails where there are fewer. -/
  short : ∀ bytes : List UInt8, bytes.length < width → reader bytes = none
  /-- It reads those bytes, and not what follows. -/
  reads : ∀ front : List UInt8, front.length = width →
    ∃ value, ∀ rest, reader (front ++ rest) = some (value, rest)

/-- A reader that reads nothing takes no bytes. -/
theorem FixedWidth.pure (value : α) : FixedWidth (Pure.pure value) 0 where
  short _ h := absurd h (Nat.not_lt_zero _)
  reads front h := ⟨value, fun rest => by rw [List.eq_nil_of_length_eq_zero h]; rfl⟩

/-- Readers one after the other take the bytes of both. -/
theorem FixedWidth.bind {reader : FieldReader α} {next : α → FieldReader β} {width more : Nat}
    (h : FixedWidth reader width) (hnext : ∀ value, FixedWidth (next value) more) :
    FixedWidth (reader >>= next) (width + more) where
  short bytes hshort := by
    rw [bind_apply]
    by_cases hw : bytes.length < width
    · rw [h.short bytes hw, Option.bind_none]
    · have htake : (bytes.take width).length = width := List.length_take_of_le (by omega)
      obtain ⟨value, hvalue⟩ := h.reads _ htake
      have hread := hvalue (bytes.drop width)
      rw [List.take_append_drop] at hread
      rw [hread, Option.bind_some]
      exact (hnext value).short _ (by rw [List.length_drop]; omega)
  reads front hfront := by
    have htake : (front.take width).length = width := List.length_take_of_le (by omega)
    have hdrop : (front.drop width).length = more := by rw [List.length_drop]; omega
    obtain ⟨first, hfirst⟩ := h.reads _ htake
    obtain ⟨second, hsecond⟩ := (hnext first).reads _ hdrop
    refine ⟨second, fun rest => ?_⟩
    rw [bind_apply, ← List.take_append_drop width front, List.append_assoc, hfirst,
      Option.bind_some, hsecond]

/-- A reader of fixed width still takes those bytes when its result is changed. -/
theorem FixedWidth.map {reader : FieldReader α} {width : Nat} (h : FixedWidth reader width)
    (f : α → β) : FixedWidth (do return f (← reader)) width :=
  h.bind fun value => FixedWidth.pure (f value)

/-- Taking gives the bytes in front. -/
theorem take_append {front : List UInt8} {width : Nat} (h : front.length = width)
    (rest : List UInt8) : take width (front ++ rest) = some (front, rest) := by
  subst h
  simp [take]

/-- Taking bytes takes that many. -/
theorem fixedWidth_take (width : Nat) : FixedWidth (take width) width where
  short _ h := if_neg (Nat.not_le_of_lt h)
  reads front h := ⟨front, take_append h⟩

/-- Skipping bytes takes that many. -/
theorem fixedWidth_skip (width : Nat) : FixedWidth (skip width) width :=
  (fixedWidth_take width).map fun _ => ()

/-- A number takes as many bytes as its width says. -/
theorem fixedWidth_number (width : Nat) : FixedWidth (number width) width :=
  (fixedWidth_take width).map leValue

/-- A byte takes one. -/
theorem fixedWidth_word8 : FixedWidth word8 1 := (fixedWidth_number 1).map UInt8.ofNat

/-- A number of two bytes takes two. -/
theorem fixedWidth_word16 : FixedWidth word16 2 := (fixedWidth_number 2).map UInt16.ofNat

/-- A number of four bytes takes four. -/
theorem fixedWidth_word32 : FixedWidth word32 4 := (fixedWidth_number 4).map UInt32.ofNat

/-- A signed number of four bytes takes four. -/
theorem fixedWidth_int32 : FixedWidth int32 4 := fixedWidth_word32.map UInt32.toInt32

/-- A single precision number takes four bytes. -/
theorem fixedWidth_float32 : FixedWidth float32 4 := fixedWidth_word32.map Float32.ofBits

/-- A double precision number takes eight bytes. -/
theorem fixedWidth_float64 : FixedWidth float64 8 :=
  (fixedWidth_number 8).map fun bits => Float.ofBits (UInt64.ofNat bits)

/-- Double precision numbers take eight bytes each. -/
theorem fixedWidth_floats (n : Nat) : FixedWidth (floats n) (8 * n) := by
  induction n with
  | zero => exact .pure _
  | succ n ih => exact ih.bind fun init => fixedWidth_float64.map init.push

/-- Reading succeeds exactly where there are enough bytes. -/
theorem FixedWidth.isSome_decode? {reader : FieldReader α} {width : Nat}
    (h : FixedWidth reader width) (bytes : List UInt8) :
    (decode? reader bytes).isSome ↔ width ≤ bytes.length := by
  by_cases hw : bytes.length < width
  · rw [decode?, h.short bytes hw]
    simp [hw]
  · obtain ⟨value, hvalue⟩ := h.reads (bytes.take width) (List.length_take_of_le (by omega))
    have hread := hvalue (bytes.drop width)
    rw [List.take_append_drop] at hread
    rw [decode?, hread]
    simpa using hw

/-- What was read does not change when more bytes arrive. -/
theorem FixedWidth.decode?_append {reader : FieldReader α} {width : Nat}
    (h : FixedWidth reader width) {bytes : List UInt8} (hw : width ≤ bytes.length)
    (later : List UInt8) : decode? reader (bytes ++ later) = decode? reader bytes := by
  obtain ⟨value, hvalue⟩ := h.reads (bytes.take width) (List.length_take_of_le hw)
  have hshort := hvalue (bytes.drop width)
  have hlong := hvalue (bytes.drop width ++ later)
  rw [← List.append_assoc, List.take_append_drop] at hlong
  rw [List.take_append_drop] at hshort
  rw [decode?, decode?, hlong, hshort]
  rfl

/-! ## Readers that do not look ahead -/

/-- A reader whose result is decided by the bytes that it takes. -/
def Forward (reader : FieldReader α) : Prop :=
  ∀ bytes value rest, reader bytes = some (value, rest) →
    ∃ front, bytes = front ++ rest ∧ ∀ later, reader (front ++ later) = some (value, later)

/-- A reader that reads nothing does not look ahead. -/
theorem Forward.pure (value : α) : Forward (Pure.pure value) := by
  intro bytes read rest hread
  rw [pure_apply, Option.some.injEq, Prod.mk.injEq] at hread
  obtain ⟨rfl, rfl⟩ := hread
  exact ⟨[], rfl, fun later => rfl⟩

/-- A reader of fixed width does not look ahead. -/
theorem FixedWidth.forward {reader : FieldReader α} {width : Nat} (h : FixedWidth reader width) :
    Forward reader := by
  intro bytes value rest hread
  have hwidth : width ≤ bytes.length := by
    rcases Nat.lt_or_ge bytes.length width with hshort | hlong
    · rw [h.short bytes hshort] at hread
      cases hread
    · exact hlong
  obtain ⟨first, hfirst⟩ := h.reads (bytes.take width) (List.length_take_of_le hwidth)
  have hsame := hfirst (bytes.drop width)
  rw [List.take_append_drop, hread, Option.some.injEq, Prod.mk.injEq] at hsame
  obtain ⟨rfl, rfl⟩ := hsame
  exact ⟨bytes.take width, (List.take_append_drop width bytes).symm, hfirst⟩

/-- Readers one after the other do not look ahead if none of them does. -/
theorem Forward.bind {reader : FieldReader α} {next : α → FieldReader β} (h : Forward reader)
    (hnext : ∀ value, Forward (next value)) : Forward (reader >>= next) := by
  intro bytes value rest hread
  rw [bind_apply, Option.bind_eq_some_iff] at hread
  obtain ⟨⟨first, between⟩, hfirst, hsecond⟩ := hread
  obtain ⟨front, rfl, hfront⟩ := h _ _ _ hfirst
  obtain ⟨back, rfl, hback⟩ := hnext first _ _ _ hsecond
  refine ⟨front ++ back, (List.append_assoc front back rest).symm, fun later => ?_⟩
  rw [List.append_assoc, bind_of_eq (hfront (back ++ later))]
  exact hback later

/-! ## What readers give -/

/-- A reader all of whose results satisfy `holds`. -/
def Yields (reader : FieldReader α) (holds : α → Prop) : Prop :=
  ∀ bytes value rest, reader bytes = some (value, rest) → holds value

/-- A reader that reads nothing gives its value. -/
theorem Yields.pure {holds : α → Prop} {value : α} (h : holds value) :
    Yields (Pure.pure value) holds := by
  intro bytes read rest hread
  rw [pure_apply, Option.some.injEq, Prod.mk.injEq] at hread
  rw [← hread.1]
  exact h

/-- The results of readers one after the other are those of the last. -/
theorem Yields.bind {reader : FieldReader α} {next : α → FieldReader β} {holds : β → Prop}
    (h : ∀ value, Yields (next value) holds) : Yields (reader >>= next) holds := by
  intro bytes read rest hread
  rw [bind_apply, Option.bind_eq_some_iff] at hread
  obtain ⟨first, -, hsecond⟩ := hread
  exact h first.1 first.2 read rest hsecond

/-- What is read satisfies what all results do. -/
theorem Yields.of_decode? {reader : FieldReader α} {holds : α → Prop} (h : Yields reader holds)
    {bytes : List UInt8} {value : α} (hread : decode? reader bytes = some value) :
    holds value := by
  obtain ⟨⟨read, rest⟩, hreader, rfl⟩ := Option.map_eq_some_iff.1 hread
  exact h bytes read rest hreader

/-! ## Fields read back what was written -/

/-- A number reads back as far as its width reaches. -/
theorem number_leBytes (width value : Nat) (rest : List UInt8) :
    number width (leBytes width value ++ rest) = some (value % Nat.pow 256 width, rest) := by
  rw [number, bind_apply, take_append (leBytes_length width value), Option.bind_some,
    leValue_leBytes]
  rfl

/-- A byte reads back. -/
@[simp] theorem word8_cons (byte : UInt8) (rest : List UInt8) :
    word8 (byte :: rest) = some (byte, rest) := by
  have hnumber : number 1 (byte :: rest) = some (byte.toNat, rest) := by
    have htake : take 1 (byte :: rest) = some ([byte], rest) :=
      take_append (show [byte].length = 1 from rfl) rest
    rw [number, bind_apply, htake]
    simp [leValue, pure_apply]
  rw [word8, bind_apply, hnumber, Option.bind_some, UInt8.ofNat_toNat]
  rfl

/-- A number of two bytes reads back. -/
@[simp] theorem word16_leBytes (value : UInt16) (rest : List UInt8) :
    word16 (leBytes 2 value.toNat ++ rest) = some (value, rest) := by
  have hmod : value.toNat % Nat.pow 256 2 = value.toNat := Nat.mod_eq_of_lt value.toNat_lt
  rw [word16, bind_apply, number_leBytes, hmod, Option.bind_some, UInt16.ofNat_toNat]
  rfl

/-- A number of four bytes reads back. -/
@[simp] theorem word32_leBytes (value : UInt32) (rest : List UInt8) :
    word32 (leBytes 4 value.toNat ++ rest) = some (value, rest) := by
  have hmod : value.toNat % Nat.pow 256 4 = value.toNat := Nat.mod_eq_of_lt value.toNat_lt
  rw [word32, bind_apply, number_leBytes, hmod, Option.bind_some, UInt32.ofNat_toNat]
  rfl

/-- Skipping leaves the bytes behind. -/
theorem skip_append {front : List UInt8} {width : Nat} (h : front.length = width)
    (rest : List UInt8) : skip width (front ++ rest) = some ((), rest) := by
  rw [skip, bind_apply, take_append h, Option.bind_some]
  rfl

/-- Skipping one byte leaves the others. -/
@[simp] theorem skip_one_cons (byte : UInt8) (rest : List UInt8) :
    skip 1 (byte :: rest) = some ((), rest) :=
  skip_append (show [byte].length = 1 from rfl) rest

/-- Skipping two bytes leaves the others. -/
@[simp] theorem skip_two_cons (first second : UInt8) (rest : List UInt8) :
    skip 2 (first :: second :: rest) = some ((), rest) :=
  skip_append (show [first, second].length = 2 from rfl) rest

/-! ## Fields are written as they were read -/

/-- Two bytes are read as a number that is written as them. -/
theorem exists_word16 (low high : UInt8) :
    ∃ value : UInt16, leBytes 2 value.toNat = [low, high] ∧
      ∀ rest, word16 (low :: high :: rest) = some (value, rest) := by
  have hlow := low.toNat_lt
  have hhigh := high.toNat_lt
  have hfits : leValue [low, high] < 2 ^ 16 := by
    simp only [leValue]
    omega
  refine ⟨UInt16.ofNat (leValue [low, high]), ?_, fun rest => rfl⟩
  rw [UInt16.toNat_ofNat_of_lt' hfits]
  exact leBytes_leValue [low, high]

/-- Four bytes are read as a number that is written as them. -/
theorem exists_word32 (first second third fourth : UInt8) :
    ∃ value : UInt32, leBytes 4 value.toNat = [first, second, third, fourth] ∧
      ∀ rest, word32 (first :: second :: third :: fourth :: rest) = some (value, rest) := by
  have h1 := first.toNat_lt
  have h2 := second.toNat_lt
  have h3 := third.toNat_lt
  have h4 := fourth.toNat_lt
  have hfits : leValue [first, second, third, fourth] < 2 ^ 32 := by
    simp only [leValue]
    omega
  refine ⟨UInt32.ofNat (leValue [first, second, third, fourth]), ?_, fun rest => rfl⟩
  rw [UInt32.toNat_ofNat_of_lt' hfits]
  exact leBytes_leValue [first, second, third, fourth]

end NavStream.Bytes.FieldReader
