import NavStream.Bytes.Search

/-!
# Searching bytes that are still arriving

A search that looks through a window of some bytes at a time may be interrupted: what it has found
stays found when more bytes arrive, and where it has found nothing it can go on behind the bytes
whose windows were complete.

* `findOffset_eq_some_iff` — what a search finds;
* `findOffset_drop` — bytes at which the test fails may be left out;
* `Windowed` — tests that look at so many bytes and no further;
* `findOffset_append_of_some`, `findOffset_append_of_none` — the search after more bytes.
-/

namespace NavStream.Bytes

variable {p : List UInt8 → Bool} {bytes : List UInt8}

/-- Bytes at which the test fails may be left out of the search. -/
theorem findOffset_drop {count : Nat} (h : ∀ i < count, p (bytes.drop i) = false)
    (hcount : count ≤ bytes.length) :
    findOffset p bytes = (findOffset p (bytes.drop count)).map (· + count) := by
  induction count generalizing bytes with
  | zero => simp
  | succ count ih =>
    cases bytes with
    | nil => simp at hcount
    | cons b rest =>
      have hhead : p (b :: rest) = false := h 0 (Nat.succ_pos _)
      have hrest : findOffset p rest = (findOffset p (rest.drop count)).map (· + count) :=
        ih (fun i hi => h (i + 1) (Nat.succ_lt_succ hi)) (Nat.le_of_succ_le_succ hcount)
      rw [findOffset_cons, if_neg (by simp [hhead]), hrest, List.drop_succ_cons, Option.map_map]
      congr 1

/-- A search finds the first offset at which the test succeeds. -/
theorem findOffset_eq_some_iff {offset : Nat} :
    findOffset p bytes = some offset ↔
      offset < bytes.length ∧ p (bytes.drop offset) = true ∧
        ∀ i < offset, p (bytes.drop i) = false := by
  refine ⟨findOffset_eq_some, fun ⟨hlt, hp, hbefore⟩ => ?_⟩
  rw [findOffset_drop hbefore (Nat.le_of_lt hlt), List.drop_eq_getElem_cons hlt, findOffset_cons,
    ← List.drop_eq_getElem_cons hlt, if_pos hp]
  simp

/-- Where the test succeeds at once, nothing is skipped. -/
theorem findOffset_eq_zero (hp : p bytes = true) (hne : bytes ≠ []) :
    findOffset p bytes = some 0 := by
  refine findOffset_eq_some_iff.2 ⟨List.length_pos_iff.2 hne, hp, fun i hi => ?_⟩
  exact absurd hi (Nat.not_lt_zero i)

/-- A test that does not look beyond the first `width` bytes. -/
def Windowed (p : List UInt8 → Bool) (width : Nat) : Prop :=
  ∀ front back : List UInt8, width ≤ front.length → p (front ++ back) = p front

/-- Whether bytes begin with a pattern does not depend on what stands behind it. -/
theorem windowed_isPrefixOf {pattern : List UInt8} {width : Nat} (h : pattern.length ≤ width) :
    Windowed (pattern.isPrefixOf ·) width := by
  intro front back hwidth
  rw [Bool.eq_iff_iff, List.isPrefixOf_iff_prefix, List.isPrefixOf_iff_prefix]
  constructor
  · intro hlong
    exact List.prefix_of_prefix_length_le hlong (List.prefix_append front back)
      (Nat.le_trans h hwidth)
  · intro hfront
    exact hfront.trans (List.prefix_append front back)

/-- What was found stays found when more bytes arrive, provided all windows in front of it were
complete. -/
theorem findOffset_append_of_some {width offset : Nat} (hwindow : Windowed p (width + 1))
    {front back : List UInt8} (h : findOffset p front = some offset)
    (hwidth : offset + width ≤ front.length) (hp : p (front.drop offset ++ back) = true) :
    findOffset p (front ++ back) = some offset := by
  obtain ⟨hlt, -, hbefore⟩ := findOffset_eq_some h
  refine findOffset_eq_some_iff.2 ⟨?_, ?_, fun i hi => ?_⟩
  · rw [List.length_append]
    exact Nat.lt_of_lt_of_le hlt (Nat.le_add_right _ _)
  · rw [List.drop_append_of_le_length (Nat.le_of_lt hlt)]
    exact hp
  · rw [List.drop_append_of_le_length (Nat.le_of_lt (Nat.lt_trans hi hlt)), hwindow]
    · exact hbefore i hi
    · rw [List.length_drop]
      omega

/-- Where nothing was found the search goes on with the bytes whose windows were incomplete. -/
theorem findOffset_append_of_none {width : Nat} (hwindow : Windowed p (width + 1))
    {front : List UInt8} (h : findOffset p front = none) (back : List UInt8) :
    findOffset p (front ++ back) =
      (findOffset p (front.drop (front.length - width) ++ back)).map
        (· + (front.length - width)) := by
  have hle : front.length - width ≤ front.length := Nat.sub_le _ _
  rw [← List.drop_append_of_le_length hle]
  refine findOffset_drop (fun i hi => ?_) ?_
  · have hi' : i < front.length := Nat.lt_of_lt_of_le hi hle
    rw [List.drop_append_of_le_length (Nat.le_of_lt hi'), hwindow]
    · exact findOffset_eq_none_iff.1 h i hi'
    · rw [List.length_drop]
      omega
  · rw [List.length_append]
    omega

end NavStream.Bytes
