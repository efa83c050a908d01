import Mathlib.Data.List.Induction
import NavStream.Proofs.Bytes.Windows

/-!
# The first of several tokens

Several tokens may occur in the same bytes, each of them more than once, and where one token
continues another both begin at the same place. The first place is the one that begins earliest, and
among those that begin there the one of the token that is listed first. Empty tokens do not count.

* `OccursAt`, `TokenAt` — the places of a token, and of any among several;
* `IsFirst` — the least place, by offset and then by index;
* `firstToken?_eq_some_iff`, `firstToken?_eq_none_iff` — what the search for tokens finds;
* `closer`, `scanTokens` — looking for each token on its own and keeping the best place;
* `firstToken?_concat` — what one more token changes;
* `firstToken?_least` — the first place, found either way.
-/

namespace NavStream.Bytes

variable {tokens : List (List UInt8)} {bytes token : List UInt8} {offset index : Nat}

/-! ## Places of tokens -/

/-- A token that is not empty occurs at an offset. -/
def OccursAt (token bytes : List UInt8) (offset : Nat) : Prop :=
  token ≠ [] ∧ token <+: bytes.drop offset

/-- The token with an index occurs at an offset. -/
def TokenAt (tokens : List (List UInt8)) (bytes : List UInt8) (offset index : Nat) : Prop :=
  ∃ token, tokens[index]? = some token ∧ OccursAt token bytes offset

/-- The least of some places, by offset and then by index. -/
structure IsFirst (places : Nat → Nat → Prop) (offset index : Nat) : Prop where
  /-- It is one of the places. -/
  here : places offset index
  /-- There is none at an earlier offset. -/
  earliest : ∀ earlier < offset, ∀ other, ¬places earlier other
  /-- There is none of an index before at the same offset. -/
  foremost : ∀ other < index, ¬places offset other

/-- A token that occurs begins inside the bytes. -/
theorem OccursAt.offset_lt (h : OccursAt token bytes offset) : offset < bytes.length := by
  obtain ⟨hne, hprefix⟩ := h
  have hlength := hprefix.length_le
  have hpositive := List.length_pos_iff.2 hne
  rw [List.length_drop] at hlength
  omega

/-- A token that is not empty occurs somewhere exactly where it is part of the bytes. -/
theorem exists_occursAt_iff :
    (∃ offset, OccursAt token bytes offset) ↔ token ≠ [] ∧ token <:+: bytes := by
  constructor
  · rintro ⟨offset, hne, hprefix⟩
    exact ⟨hne, hprefix.isInfix.trans (List.drop_suffix offset bytes).isInfix⟩
  · rintro ⟨hne, front, back, rfl⟩
    refine ⟨front.length, hne, ?_⟩
    rw [List.append_assoc, List.drop_left]
    exact List.prefix_append token back

/-- The index of a token that occurs is one of the list. -/
theorem TokenAt.index_lt (h : TokenAt tokens bytes offset index) : index < tokens.length := by
  obtain ⟨token, htoken, -⟩ := h
  exact (List.getElem?_eq_some_iff.1 htoken).1

/-- A token that occurs begins inside the bytes, whichever it is. -/
theorem TokenAt.offset_lt (h : TokenAt tokens bytes offset index) : offset < bytes.length := by
  obtain ⟨token, -, hoccurs⟩ := h
  exact hoccurs.offset_lt

/-- With one more token there are its places too. -/
theorem tokenAt_concat :
    TokenAt (tokens ++ [token]) bytes offset index ↔
      TokenAt tokens bytes offset index ∨ index = tokens.length ∧ OccursAt token bytes offset := by
  unfold TokenAt
  rcases Nat.lt_trichotomy index tokens.length with hlt | rfl | hgt
  · rw [List.getElem?_append_left hlt]
    simp [Nat.ne_of_lt hlt]
  · simp
  · simp [List.getElem?_append_right (Nat.le_of_lt hgt), List.getElem?_eq_none (Nat.le_of_lt hgt),
      Nat.ne_of_gt hgt, Nat.sub_ne_zero_of_lt hgt]

/-! ## What the search finds -/

/-- A token occurs exactly where the search tests it with success. -/
theorem test_iff_occursAt :
    (!token.isEmpty && token.isPrefixOf (bytes.drop offset)) = true ↔
      OccursAt token bytes offset := by
  simp [OccursAt]

/-- The same of the token with an index. -/
theorem tokenAt_iff_getElem (h : index < tokens.length) :
    TokenAt tokens bytes offset index ↔ OccursAt tokens[index] bytes offset := by
  simp [TokenAt, List.getElem?_eq_getElem h]

/-- Of the tokens that stand at an offset the one that is listed first counts. -/
theorem leadingToken?_drop_eq_some_iff :
    leadingToken? tokens (bytes.drop offset) = some index ↔
      TokenAt tokens bytes offset index ∧ ∀ other < index, ¬TokenAt tokens bytes offset other := by
  rw [leadingToken?, List.findIdx?_eq_some_iff_getElem]
  simp only [test_iff_occursAt]
  constructor
  · rintro ⟨hlt, hoccurs, hbefore⟩
    refine ⟨(tokenAt_iff_getElem hlt).2 hoccurs, fun other hother => ?_⟩
    rw [tokenAt_iff_getElem (Nat.lt_trans hother hlt)]
    exact hbefore other hother
  · rintro ⟨hstands, hbefore⟩
    have hlt := hstands.index_lt
    refine ⟨hlt, (tokenAt_iff_getElem hlt).1 hstands, fun other hother => ?_⟩
    rw [← tokenAt_iff_getElem (Nat.lt_trans hother hlt)]
    exact hbefore other hother

/-- Some token counts exactly where one stands. -/
theorem isSome_leadingToken?_drop_iff :
    (leadingToken? tokens (bytes.drop offset)).isSome = true ↔
      ∃ index, TokenAt tokens bytes offset index := by
  rw [leadingToken?, List.findIdx?_isSome, List.any_eq_true]
  simp only [test_iff_occursAt]
  constructor
  · rintro ⟨token, hmem, hoccurs⟩
    obtain ⟨index, htoken⟩ := List.getElem?_of_mem hmem
    exact ⟨index, token, htoken, hoccurs⟩
  · rintro ⟨index, token, htoken, hoccurs⟩
    exact ⟨token, List.mem_of_getElem? htoken, hoccurs⟩

/-- None counts exactly where none stands. -/
theorem isSome_leadingToken?_drop_eq_false_iff :
    (leadingToken? tokens (bytes.drop offset)).isSome = false ↔
      ∀ index, ¬TokenAt tokens bytes offset index := by
  rw [Bool.eq_false_iff, Ne, isSome_leadingToken?_drop_iff, not_exists]

/-- **The search for tokens finds the first place**, and no other. -/
theorem firstToken?_eq_some_iff :
    firstToken? tokens bytes = some (offset, index) ↔
      IsFirst (TokenAt tokens bytes) offset index := by
  rw [firstToken?, Option.bind_eq_some_iff]
  constructor
  · rintro ⟨place, hfind, hmap⟩
    obtain ⟨found, hfound, hplace⟩ := Option.map_eq_some_iff.1 hmap
    cases hplace
    obtain ⟨hhere, hforemost⟩ := leadingToken?_drop_eq_some_iff.1 hfound
    refine ⟨hhere, fun earlier hearlier => ?_, hforemost⟩
    exact isSome_leadingToken?_drop_eq_false_iff.1 ((findOffset_eq_some hfind).2.2 earlier hearlier)
  · intro h
    refine ⟨offset, findOffset_eq_some_iff.2 ⟨h.here.offset_lt, ?_, ?_⟩, ?_⟩
    · exact isSome_leadingToken?_drop_iff.2 ⟨index, h.here⟩
    · intro earlier hearlier
      exact isSome_leadingToken?_drop_eq_false_iff.2 (h.earliest earlier hearlier)
    · rw [leadingToken?_drop_eq_some_iff.2 ⟨h.here, h.foremost⟩]
      rfl

/-- **The search finds nothing exactly where no token occurs.** -/
theorem firstToken?_eq_none_iff :
    firstToken? tokens bytes = none ↔ ∀ offset index, ¬TokenAt tokens bytes offset index := by
  constructor
  · intro hnone offset index h
    rw [firstToken?, Option.bind_eq_none_iff] at hnone
    have hfind : findOffset (fun rest => (leadingToken? tokens rest).isSome) bytes = none := by
      rw [Option.eq_none_iff_forall_ne_some]
      intro place hfind
      have hfound := (findOffset_eq_some hfind).2.1
      rw [Option.map_eq_none_iff.1 (hnone place hfind)] at hfound
      cases hfound
    have hhere := findOffset_eq_none_iff.1 hfind offset h.offset_lt
    exact isSome_leadingToken?_drop_eq_false_iff.1 hhere index h
  · intro h
    rw [Option.eq_none_iff_forall_ne_some]
    rintro ⟨offset, index⟩ hsome
    exact h offset index (firstToken?_eq_some_iff.1 hsome).here

/-! ## Token by token -/

/-- The better of the best place so far and the first place of one more token, which has to begin
earlier. -/
def closer (best : Option (Nat × Nat)) (offset? : Option Nat) (index : Nat) : Option (Nat × Nat) :=
  match best, offset? with
  | best, none => best
  | none, some offset => some (offset, index)
  | some place, some offset => if place.1 ≤ offset then some place else some (offset, index)

/-- Looks for each token on its own, in the order of the list, and keeps the best place. -/
def scanTokens (tokens : List (List UInt8)) (bytes : List UInt8) : Option (Nat × Nat) :=
  tokens.zipIdx.foldl (fun best listed => closer best (offsetOf? listed.1 bytes) listed.2) none

/-- A single token is found at its first occurrence. -/
theorem offsetOf?_eq_some_iff :
    offsetOf? token bytes = some offset ↔
      OccursAt token bytes offset ∧ ∀ earlier < offset, ¬OccursAt token bytes earlier := by
  by_cases hne : token = []
  · simp [offsetOf?, OccursAt, hne]
  · have htest (place : Nat) : token.isPrefixOf (bytes.drop place) = true ↔
        OccursAt token bytes place := by simp [OccursAt, hne]
    rw [offsetOf?, if_neg (by simp [hne]), findOffset_eq_some_iff]
    simp only [← Bool.not_eq_true, htest]
    exact and_iff_right_of_imp fun h => h.1.offset_lt

/-- A single token that is not found occurs nowhere. -/
theorem offsetOf?_eq_none_iff :
    offsetOf? token bytes = none ↔ ∀ offset, ¬OccursAt token bytes offset := by
  by_cases hne : token = []
  · simp [offsetOf?, OccursAt, hne]
  · have htest (place : Nat) : token.isPrefixOf (bytes.drop place) = true ↔
        OccursAt token bytes place := by simp [OccursAt, hne]
    rw [offsetOf?, if_neg (by simp [hne]), findOffset_eq_none_iff]
    simp only [← Bool.not_eq_true, htest]
    exact forall_congr' fun place => ⟨fun h hoccurs => h hoccurs.offset_lt hoccurs, fun h _ => h⟩

/-- One more token stands first where it begins before all the others. -/
theorem isFirst_concat (hfirst : offsetOf? token bytes = some offset)
    (hothers : ∀ place ≤ offset, ∀ other, ¬TokenAt tokens bytes place other) :
    IsFirst (TokenAt (tokens ++ [token]) bytes) offset tokens.length := by
  obtain ⟨hhere, hbefore⟩ := offsetOf?_eq_some_iff.1 hfirst
  refine ⟨tokenAt_concat.2 (.inr ⟨rfl, hhere⟩), fun earlier hearlier other h => ?_,
    fun other hother h => ?_⟩
  · rcases tokenAt_concat.1 h with hold | ⟨-, hnew⟩
    · exact hothers earlier (Nat.le_of_lt hearlier) other hold
    · exact hbefore earlier hearlier hnew
  · rcases tokenAt_concat.1 h with hold | ⟨rfl, -⟩
    · exact hothers offset (Nat.le_refl _) other hold
    · exact Nat.lt_irrefl _ hother

/-- What stands first still does with one more token that does not begin earlier. -/
theorem IsFirst.concat (h : IsFirst (TokenAt tokens bytes) offset index)
    (hnew : ∀ earlier < offset, ¬OccursAt token bytes earlier) :
    IsFirst (TokenAt (tokens ++ [token]) bytes) offset index := by
  refine ⟨tokenAt_concat.2 (.inl h.here), fun earlier hearlier other hplace => ?_,
    fun other hother hplace => ?_⟩
  · rcases tokenAt_concat.1 hplace with hold | ⟨-, hoccurs⟩
    · exact h.earliest earlier hearlier other hold
    · exact hnew earlier hearlier hoccurs
  · rcases tokenAt_concat.1 hplace with hold | ⟨rfl, -⟩
    · exact h.foremost other hother hold
    · exact Nat.lt_asymm hother h.here.index_lt

/-- **One more token changes the first place only if it begins earlier.** -/
theorem firstToken?_concat (tokens : List (List UInt8)) (token bytes : List UInt8) :
    firstToken? (tokens ++ [token]) bytes =
      closer (firstToken? tokens bytes) (offsetOf? token bytes) tokens.length := by
  cases hbest : firstToken? tokens bytes with
  | none =>
    have hnone := firstToken?_eq_none_iff.1 hbest
    cases hnew : offsetOf? token bytes with
    | none =>
      refine firstToken?_eq_none_iff.2 fun offset index h => ?_
      rcases tokenAt_concat.1 h with hold | ⟨-, hoccurs⟩
      · exact hnone offset index hold
      · exact offsetOf?_eq_none_iff.1 hnew offset hoccurs
    | some offset =>
      exact firstToken?_eq_some_iff.2 (isFirst_concat hnew fun place _ => hnone place)
  | some place =>
    have hfirst : IsFirst (TokenAt tokens bytes) place.1 place.2 := firstToken?_eq_some_iff.1 hbest
    cases hnew : offsetOf? token bytes with
    | none =>
      refine firstToken?_eq_some_iff.2 (hfirst.concat fun earlier _ => ?_)
      exact offsetOf?_eq_none_iff.1 hnew earlier
    | some offset =>
      by_cases hle : place.1 ≤ offset
      · rw [closer, if_pos hle]
        refine firstToken?_eq_some_iff.2 (hfirst.concat fun earlier hearlier => ?_)
        exact (offsetOf?_eq_some_iff.1 hnew).2 earlier (Nat.lt_of_lt_of_le hearlier hle)
      · rw [closer, if_neg hle]
        refine firstToken?_eq_some_iff.2 (isFirst_concat hnew fun earlier hearlier => ?_)
        exact hfirst.earliest earlier (Nat.lt_of_le_of_lt hearlier (Nat.lt_of_not_le hle))

/-- Looking for one token after the other finds the same place. -/
theorem scanTokens_eq (tokens : List (List UInt8)) (bytes : List UInt8) :
    scanTokens tokens bytes = firstToken? tokens bytes := by
  induction tokens using List.reverseRecOn with
  | nil => exact (firstToken?_eq_none_iff.2 (by simp [TokenAt])).symm
  | append_singleton tokens token ih =>
    have hscan : scanTokens (tokens ++ [token]) bytes =
        closer (scanTokens tokens bytes) (offsetOf? token bytes) tokens.length := by
      simp [scanTokens, List.zipIdx_append]
    rw [hscan, ih, firstToken?_concat]

/-- **The search for tokens finds the least place of any.** Among tokens of any number, which may be
empty, repeated or parts of each other, nothing is found exactly where no token that is not empty is
part of the bytes. What is found is the place of a token that is not empty, such that none begins at
an earlier offset and none that is listed before begins at the same one. It is what remains of
looking for each token on its own, in the order of the list, if a later one has to begin earlier to
take the place of the best so far. -/
theorem firstToken?_least (tokens : List (List UInt8)) (bytes : List UInt8) :
    (firstToken? tokens bytes = none ↔ ∀ token ∈ tokens, token ≠ [] → ¬token <:+: bytes) ∧
      (∀ offset index, firstToken? tokens bytes = some (offset, index) ↔
        IsFirst (TokenAt tokens bytes) offset index) ∧
      scanTokens tokens bytes = firstToken? tokens bytes := by
  refine ⟨?_, fun offset index => firstToken?_eq_some_iff, scanTokens_eq tokens bytes⟩
  rw [firstToken?_eq_none_iff]
  constructor
  · intro hnone token hmem hne hinfix
    obtain ⟨index, htoken⟩ := List.getElem?_of_mem hmem
    obtain ⟨offset, hoccurs⟩ := exists_occursAt_iff.2 ⟨hne, hinfix⟩
    exact hnone offset index ⟨token, htoken, hoccurs⟩
  · rintro hnone offset index ⟨token, htoken, hoccurs⟩
    obtain ⟨hne, hinfix⟩ := exists_occursAt_iff.1 ⟨offset, hoccurs⟩
    exact hnone token (List.mem_of_getElem? htoken) hne hinfix

/-- Earlier tokens of the list give way to one that begins earlier in the bytes. -/
example : firstToken? [[1, 2, 3], [], [1, 2], [1]] [0, 1, 2, 1, 2, 3] = some (1, 2) := by decide

end NavStream.Bytes
