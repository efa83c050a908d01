import NavStream.Json.Quoted
import Mathlib.Data.List.Basic

/-!
# Strings that are written are read again

A string is written character by character, each as its own bytes or as an escape. What stands
behind the opening quote then spells the bytes of the string, in one of four forms a step.

* `utf8` — the bytes of characters;
* `Spells` — what a text behind an opening quote spells;
* `Spells.skip`, `Spells.read` — both ways of passing over it;
* `readString_quoted`, `skipString_quoted` — they invert the writer.
-/

namespace NavStream.Json

open NavStream.Checksum

/-! ## Text as bytes -/

/-- The bytes of characters. -/
def utf8 (chars : List Char) : List UInt8 := chars.flatMap String.utf8EncodeChar

@[simp] theorem utf8_nil : utf8 [] = [] := rfl

@[simp] theorem utf8_cons (c : Char) (chars : List Char) :
    utf8 (c :: chars) = String.utf8EncodeChar c ++ utf8 chars := rfl

@[simp] theorem utf8_append (front back : List Char) :
    utf8 (front ++ back) = utf8 front ++ utf8 back := List.flatMap_append

/-- Listing the bytes of an array from one place on puts them behind what was listed. -/
theorem toList_loop (array : ByteArray) (i : Nat) (listed : List UInt8) :
    ByteArray.toList.loop array i listed = listed.reverse ++ array.data.toList.drop i := by
  fun_induction ByteArray.toList.loop array i listed with
  | case1 i listed h ih =>
    have hi : i < array.data.toList.length := by simpa using h
    rw [ih, List.drop_eq_getElem_cons hi, List.reverse_cons, List.append_assoc]
    simp [ByteArray.get!, h]
  | case2 i listed h =>
    have hi : array.data.toList.length ≤ i := by simpa using h
    simp [List.drop_eq_nil_of_le hi]

/-- The bytes of a string are those of its characters. -/
theorem toList_toUTF8 (s : String) : s.toUTF8.toList = utf8 s.toList := by
  rw [ByteArray.toList, toList_loop, String.toUTF8_eq_toByteArray, ← String.utf8Encode_toList]
  simp [List.utf8Encode, utf8]

/-- The bytes of a string spell it. -/
theorem decode?_utf8 (s : String) : Text.decode? (utf8 s.toList) = some s := by
  have hbytes : (⟨(utf8 s.toList).toArray⟩ : ByteArray) = s.toByteArray := by
    rw [← String.utf8Encode_toList]
    ext1
    simp [List.utf8Encode, utf8]
  rw [Text.decode?, hbytes, String.fromUTF8?, dif_pos s.isValidUTF8]
  rfl

/-! ## Steps that succeed -/

/-- A step that succeeds hands its value on. -/
@[simp] theorem ok_bind {ε α β : Type} (a : α) (next : α → Except ε β) :
    (Except.ok a >>= next) = next a := rfl

/-! ## What a text spells -/

/-- Behind an opening quote a text spells `bytes`, and `rest` follows the closing quote. -/
inductive Spells (rest : List UInt8) : (text bytes : List UInt8) → Prop where
  /-- The closing quote. -/
  | close : Spells rest (34 :: rest) []
  /-- A byte that stands for itself. -/
  | plain {b : UInt8} {text bytes : List UInt8} (quote : b ≠ 34) (mark : b ≠ 92)
      (control : 32 ≤ b) (tail : Spells rest text bytes) : Spells rest (b :: text) (b :: bytes)
  /-- An escape of one letter. -/
  | letter {letter b : UInt8} {text bytes : List UInt8} (known : escaped? letter = some b)
      (tail : Spells rest text bytes) : Spells rest (92 :: letter :: text) (b :: bytes)
  /-- An escape by a code point outside the surrogates. -/
  | point {a b c d : UInt8} {n : Nat} {text bytes : List UInt8}
      (spelled : hexUnit? a b c d = some n) (low : n < 0xD800) (tail : Spells rest text bytes) :
      Spells rest (92 :: 117 :: a :: b :: c :: d :: text) (pointBytes n ++ bytes)

/-- A letter that is an escape does not mark a code point. -/
theorem ne_point {letter b : UInt8} (known : escaped? letter = some b) : letter ≠ 117 := by
  rintro rfl
  cases known

/-- A code point outside the surrogates is complete after four digits. -/
theorem readPoint_of_low {a b c d : UInt8} {n : Nat} (spelled : hexUnit? a b c d = some n)
    (low : n < 0xD800) (text : List UInt8) :
    readPoint (a :: b :: c :: d :: text) = .ok (n, text) := by
  have htrailing : isTrailing n = false := by simp [isTrailing]; omega
  have hleading : isLeading n = false := by simp [isLeading]; omega
  simp only [readPoint, readUnit, spelled, ok_bind, htrailing, hleading]
  rfl

namespace Spells

variable {rest text bytes : List UInt8}

/-- A string that spells something is passed over. -/
theorem skip (h : Spells rest text bytes) : skipString text = .ok rest := by
  induction h with
  | close => rfl
  | plain quote mark control tail ih =>
    rw [skipString, if_neg (UInt8.not_lt.mpr control), ih]
    all_goals simp_all
  | letter known tail ih =>
    rw [skipString, if_neg (ne_point known), known, if_pos (Option.isSome_some), ih]
    exact fun _ _ _ _ _ h => absurd h (ne_point known)
  | point spelled low tail ih =>
    rw [skipString, spelled, if_pos (Option.isSome_some), ih]

/-- A string that spells something is read, one step for each byte at most. -/
theorem readBytes (h : Spells rest text bytes) :
    ∀ fuel, text.length < fuel → readStringBytes fuel text = .ok (bytes, rest) := by
  induction h with
  | close =>
    rintro (_ | fuel) hf
    · exact absurd hf (Nat.not_lt_zero _)
    · rfl
  | @plain b text bytes quote mark control tail ih =>
    rintro (_ | fuel) hf
    · exact absurd hf (Nat.not_lt_zero _)
    · simp only [readStringBytes, quote, mark, UInt8.not_lt.mpr control, if_false,
        ih fuel (by simpa using hf)]
      rfl
  | letter known tail ih =>
    rintro (_ | fuel) hf
    · exact absurd hf (Nat.not_lt_zero _)
    · simp only [List.length_cons] at hf
      simp only [readStringBytes, if_neg (ne_point known), known, ih fuel (by omega)]
      rfl
  | point spelled low tail ih =>
    rintro (_ | fuel) hf
    · exact absurd hf (Nat.not_lt_zero _)
    · simp only [List.length_cons] at hf
      simp only [readStringBytes, readPoint_of_low spelled low, ok_bind, ih fuel (by omega)]
      rfl

end Spells

/-! ## What the writer writes -/

/-- Whether a text is the escape of a code point below 128. -/
def isEscape (n : Nat) : (text : List UInt8) → Bool
  | [92, letter] => escaped? letter == some (UInt8.ofNat n)
  | [92, 117, a, b, c, d] => hexUnit? a b c d == some n
  | _ => false

/-- Control characters, quotes and the mark of escapes are written as escapes. -/
theorem isEscape_escape :
    ∀ n < 128, (n < 32 ∨ n = 34 ∨ n = 92) → isEscape n (utf8 (escape (Char.ofNat n)).toList) := by
  decide +kernel

/-- An escape spells its character. -/
theorem Spells.append_escape {rest text bytes escape : List UInt8} {c : Char}
    (small : c.toNat < 128) (h : isEscape c.toNat escape) (tail : Spells rest text bytes) :
    Spells rest (escape ++ text) (String.utf8EncodeChar c ++ bytes) := by
  have hbyte : String.utf8EncodeChar c = [UInt8.ofNat c.toNat] := if_pos (Nat.le_of_lt_succ small)
  unfold isEscape at h
  split at h
  next letter =>
    rw [hbyte]
    exact .letter (by simpa using h) tail
  next =>
    rw [← Char.ofNat_toNat c]
    exact .point (by simpa using h) (by omega) tail
  next => cases h

/-- Bytes that can all stand for themselves spell themselves. -/
theorem Spells.append_plain {rest text bytes plain : List UInt8}
    (h : ∀ b ∈ plain, b ≠ 34 ∧ b ≠ 92 ∧ 32 ≤ b) (tail : Spells rest text bytes) :
    Spells rest (plain ++ text) (plain ++ bytes) := by
  induction plain with
  | nil => exact tail
  | cons b plain ih =>
    have hb := h b (List.mem_cons_self ..)
    exact .plain hb.1 hb.2.1 hb.2.2 (ih fun c hc => h c (List.mem_cons_of_mem _ hc))

/-- The bytes of a character are its own code point or lie beyond all code points of one byte. -/
theorem mem_utf8EncodeChar {c : Char} {b : UInt8} (h : b ∈ String.utf8EncodeChar c) :
    b.toNat = c.toNat ∨ 128 ≤ b.toNat := by
  have hc : c.val.toNat = c.toNat := rfl
  unfold String.utf8EncodeChar at h
  simp only [hc] at h
  split at h
  · left
    have hlt : c.toNat < UInt8.size := by simp only [UInt8.size]; omega
    rw [List.mem_singleton.mp h, UInt8.toNat_ofNat_of_lt' hlt]
  · right
    split at h
    · simp only [List.mem_cons, List.not_mem_nil, or_false] at h
      rcases h with rfl | rfl <;> simp <;> omega
    · split at h
      · simp only [List.mem_cons, List.not_mem_nil, or_false] at h
        rcases h with rfl | rfl | rfl <;> simp <;> omega
      · simp only [List.mem_cons, List.not_mem_nil, or_false] at h
        rcases h with rfl | rfl | rfl | rfl <;> simp <;> omega

/-- Every character is written so that it spells its bytes. -/
theorem Spells.append_char {rest text bytes : List UInt8} (c : Char)
    (tail : Spells rest text bytes) :
    Spells rest (utf8 (escape c).toList ++ text) (String.utf8EncodeChar c ++ bytes) := by
  by_cases special : c.toNat < 32 ∨ c.toNat = 34 ∨ c.toNat = 92
  · have hsmall : c.toNat < 128 := by omega
    have h := isEscape_escape c.toNat hsmall special
    rw [Char.ofNat_toNat] at h
    exact append_escape hsmall h tail
  · have ne : ∀ d : Char, (d.toNat < 32 ∨ d.toNat = 34 ∨ d.toNat = 92) → c ≠ d := by
      rintro d hd rfl
      exact special hd
    have hescape : escape c = c.toString := by
      rw [escape, if_neg (ne _ (by decide)), if_neg (ne _ (by decide)), if_neg (ne _ (by decide)),
        if_neg (ne _ (by decide)), if_neg (ne _ (by decide)), if_neg (ne _ (by decide)),
        if_neg (ne _ (by decide)), if_neg (by omega), if_neg (by omega)]
    rw [hescape, Char.toString, String.toList_singleton, utf8_cons, utf8_nil, List.append_nil]
    refine append_plain (fun b hb => ?_) tail
    have hb := mem_utf8EncodeChar hb
    have hge : 32 ≤ b.toNat := by omega
    refine ⟨?_, ?_, by simpa [UInt8.le_iff_toNat_le] using hge⟩
    all_goals
      rintro rfl
      simp only [UInt8.reduceToNat] at hb
      omega

/-- The characters of a string are written so that they spell its bytes. -/
theorem spells_escaped (rest : List UInt8) (chars : List Char) :
    Spells rest (utf8 (chars.flatMap fun c => (escape c).toList) ++ 34 :: rest) (utf8 chars) := by
  induction chars with
  | nil => exact .close
  | cons c chars ih =>
    rw [List.flatMap_cons, utf8_append, List.append_assoc]
    exact ih.append_char c

/-- The bytes of a string behind its opening quote, up to the closing one. -/
def quoted (s : String) : List UInt8 := utf8 (s.toList.flatMap fun c => (escape c).toList) ++ [34]

/-- A string is written as an opening quote and its bytes behind it. -/
theorem utf8_string (s : String) : utf8 (string s).toList = 34 :: quoted s := by
  rw [string, String.toList_append, String.toList_append, String.toList_join, List.flatMap_map]
  simp [quoted, String.utf8EncodeChar]

/-- A string that was written is passed over. -/
@[simp] theorem skipString_quoted (s : String) (rest : List UInt8) :
    skipString (quoted s ++ rest) = .ok rest := by
  rw [quoted, List.append_assoc]
  exact (spells_escaped rest s.toList).skip

/-- A string that was written is read. -/
@[simp] theorem readString_quoted (s : String) (rest : List UInt8) :
    readString (quoted s ++ rest) = .ok (s, rest) := by
  rw [quoted, List.append_assoc]
  have h := (spells_escaped rest s.toList).readBytes _ (Nat.lt_succ_self _)
  simp only [List.singleton_append, readString, h, ok_bind, decode?_utf8]
  rfl

end NavStream.Json
