/-!
# Searching for byte patterns

A frame is found by a fixed sequence of bytes in front of it. This module looks for such sequences
in the bytes that wait to be read.

* `findOffset` — the first offset from which the remaining bytes satisfy a test;
* `offsetOf?` — the first occurrence of one pattern;
* `firstToken?` — the earliest occurrence of any of several tokens, the token listed first winning
  where two start at the same offset.
-/

namespace NavStream.Bytes

/-- The first offset at which the remaining, non-empty, bytes satisfy `p`. -/
def findOffset (p : List UInt8 → Bool) : List UInt8 → Option Nat
  | bytes => go 0 bytes
where
  /-- The search from offset `i` on, where `bytes` remain. -/
  go (i : Nat) : List UInt8 → Option Nat
    | [] => none
    | b :: rest => if p (b :: rest) then some i else go (i + 1) rest

/-- The offset of the first occurrence of `pattern`; an empty pattern occurs nowhere. -/
def offsetOf? (pattern bytes : List UInt8) : Option Nat :=
  if pattern.isEmpty then none else findOffset (pattern.isPrefixOf ·) bytes

/-- The index of the first non-empty token that `bytes` begin with. -/
def leadingToken? (tokens : List (List UInt8)) (bytes : List UInt8) : Option Nat :=
  tokens.findIdx? fun token => !token.isEmpty && token.isPrefixOf bytes

/-- The earliest offset at which one of `tokens` occurs, with the index of that token. -/
def firstToken? (tokens : List (List UInt8)) (bytes : List UInt8) : Option (Nat × Nat) :=
  (findOffset (fun rest => (leadingToken? tokens rest).isSome) bytes).bind fun offset =>
    (leadingToken? tokens (bytes.drop offset)).map fun index => (offset, index)

/-! ## What the search finds -/

/-- Nothing is found where there is nothing. -/
@[simp] theorem findOffset_nil (p : List UInt8 → Bool) : findOffset p [] = none := rfl

/-- A search that starts to count later finds the same place. -/
theorem findOffset_go_eq (p : List UInt8 → Bool) (i : Nat) (bytes : List UInt8) :
    findOffset.go p i bytes = (findOffset.go p 0 bytes).map (· + i) := by
  induction bytes generalizing i with
  | nil => rfl
  | cons b rest ih =>
    unfold findOffset.go
    split
    · simp
    · rw [ih (i + 1), ih (0 + 1), Option.map_map]
      congr 1
      funext n
      simp only [Function.comp_apply]
      omega

/-- The search steps over a byte at which the test fails. -/
theorem findOffset_cons (p : List UInt8 → Bool) (b : UInt8) (rest : List UInt8) :
    findOffset p (b :: rest) =
      if p (b :: rest) then some 0 else (findOffset p rest).map (· + 1) := by
  show findOffset.go p 0 (b :: rest) = _
  rw [findOffset.go]
  split
  · rfl
  · exact findOffset_go_eq p 1 rest

/-- What is found lies inside the bytes and satisfies the test, and nothing before it does. -/
theorem findOffset_eq_some {p : List UInt8 → Bool} {bytes : List UInt8} {offset : Nat}
    (h : findOffset p bytes = some offset) :
    offset < bytes.length ∧ p (bytes.drop offset) = true ∧
      ∀ i < offset, p (bytes.drop i) = false := by
  induction bytes generalizing offset with
  | nil => simp at h
  | cons b rest ih =>
    rw [findOffset_cons] at h
    split at h
    next hp =>
      cases h
      exact ⟨by simp, hp, by simp⟩
    next hp =>
      obtain ⟨n, hn, rfl⟩ := Option.map_eq_some_iff.1 h
      obtain ⟨h₁, h₂, h₃⟩ := ih hn
      refine ⟨by simpa using h₁, by simpa using h₂, fun i hi => ?_⟩
      cases i with
      | zero => simpa using hp
      | succ i => simpa using h₃ i (by omega)

/-- Nothing is found exactly when the test fails at every offset. -/
theorem findOffset_eq_none_iff {p : List UInt8 → Bool} {bytes : List UInt8} :
    findOffset p bytes = none ↔ ∀ i < bytes.length, p (bytes.drop i) = false := by
  induction bytes with
  | nil => simp
  | cons b rest ih =>
    rw [findOffset_cons]
    constructor
    · intro h i hi
      split at h
      next => simp at h
      next hp =>
        cases i with
        | zero => simpa using hp
        | succ i => simpa using ih.1 (Option.map_eq_none_iff.1 h) i (by simpa using hi)
    · intro h
      have h0 := h 0 (by simp)
      simp only [List.drop_zero] at h0
      rw [if_neg (by simp [h0]), Option.map_eq_none_iff, ih]
      intro i hi
      simpa using h (i + 1) (by simpa using hi)

end NavStream.Bytes
