import NavStream.Proofs.Frame.Contract
import NavStream.Proofs.Sentence.Intact

/-!
# The sentence decoder honours its contract

The sentence decoder records the kind of a sentence when it has located its token, and forgets it
when it is done with the sentence. No sentence is shorter than the shortest token, since none ends
inside its token. The place of its asterisk is therefore always a place inside the sentence.

* `recording` — what the decoder records;
* `honors_decoder` — the contract;
* `starOf_add`, `token_length_le_starOf` — where the asterisk of a sentence belongs.
-/

namespace NavStream.Sentence

open NavStream.Bytes NavStream.Frame

/-- The decoder records the kind of the sentence at the front. -/
def recording : Recording State where
  Record := Kind
  record? := id
  Begins kind bytes := kind.token <+: bytes

/-- The length of the shortest token. -/
def shortestToken : Nat := Kind.gpchc.token.length

/-- No token is shorter than the shortest. -/
theorem shortestToken_le (kind : Kind) : shortestToken ≤ kind.token.length := by
  cases kind <;> decide

/-- What is located is the token that the bytes begin with, behind those that are skipped. -/
theorem seek_of_located {state : State} {bytes : List UInt8}
    (h : (seek state bytes).located = true) :
    ∃ kind : Kind, (seek state bytes).state = some kind ∧
      kind.token <+: bytes.drop (seek state bytes).discard := by
  rw [seek_eq] at h ⊢
  cases hfind : findOffset startsWithToken bytes with
  | none =>
    rw [hfind] at h
    cases h
  | some offset =>
    obtain ⟨kind, hkind⟩ := Option.isSome_iff_exists.1 (findOffset_eq_some hfind).2.1
    exact ⟨kind, hkind, prefix_of_leading? hkind⟩

/-- Where no token is located no kind is recorded. -/
theorem seek_of_unlocated {state : State} {bytes : List UInt8}
    (h : (seek state bytes).located = false) : (seek state bytes).state = none := by
  rw [seek_eq] at h ⊢
  cases hfind : findOffset startsWithToken bytes with
  | none => rfl
  | some offset =>
    rw [hfind] at h
    cases h

/-- As long as the sentence has not ended, no byte is used up and its kind is kept. -/
theorem extract_of_needMore {kind : Kind} {bytes : List UInt8}
    (h : (extract (some kind) bytes).outcome = .needMore) :
    (extract (some kind) bytes).discard = 0 ∧ (extract (some kind) bytes).state = some kind := by
  rw [extract_eq_ending] at h ⊢
  cases hending : ending bytes with
  | pending => exact ⟨rfl, rfl⟩
  | endless => simp [hending] at h
  | closed length => simp [hending] at h

/-- A sentence that has ended is used up, or its token is if it will not end, and its kind is
forgotten. -/
theorem extract_of_done {kind : Kind} {bytes : List UInt8} {messages : List Message}
    (htoken : kind.token <+: bytes) (h : (extract (some kind) bytes).outcome = .done messages) :
    (shortestToken ≤ (extract (some kind) bytes).discard ∧
        (extract (some kind) bytes).discard ≤ bytes.length) ∧
      (extract (some kind) bytes).state = none := by
  have hshortest := shortestToken_le kind
  rw [extract_eq_ending] at h ⊢
  cases hending : ending bytes with
  | pending => simp [hending] at h
  | endless => exact ⟨⟨hshortest, htoken.length_le⟩, rfl⟩
  | closed length =>
    have hbehind := token_length_le_of_closed htoken hending
    exact ⟨⟨by dsimp only; omega, (length_le_of_closed hending).1⟩, rfl⟩

/-! ## Reports -/

/-- Looking for a sentence reports how many bytes were skipped, and nothing else. -/
theorem stalled_not_mem_seek (state : State) (bytes : List UInt8) (name : String) :
    .stalled name ∉ (seek state bytes).diagnostics := by
  rw [seek_eq]
  cases findOffset startsWithToken bytes <;> dsimp only <;> split <;> simp

/-- The checks report nothing that is for the session to report. -/
theorem stalled_not_mem_checkFrame (kind : Kind) (frame : List UInt8) (name : String) :
    .stalled name ∉ (checkFrame kind frame).2 := by
  rw [checkFrame_eq]
  split
  next => simp
  next =>
    split
    next => simp
    next =>
      split
      next => simp
      next =>
        unfold interpret
        cases kind with
        | gpgga => exact List.not_mem_nil
        | gpchc | gpchcx =>
          dsimp only
          cases Text.decode? (bodyOf frame) with
          | none => simp
          | some sentence =>
            dsimp only
            cases Record.parse sentence <;> simp

/-- Extracting a sentence reports nothing that is for the session to report. -/
theorem stalled_not_mem_extract (state : State) (bytes : List UInt8) (name : String) :
    .stalled name ∉ (extract state bytes).diagnostics := by
  cases state with
  | none => exact List.not_mem_nil
  | some kind =>
    rw [extract_eq_ending]
    cases ending bytes with
    | pending => exact List.not_mem_nil
    | endless => simp
    | closed length => exact stalled_not_mem_checkFrame kind (bytes.take length) name

/-- **The sentence decoder honours its contract.** -/
theorem honors_decoder : decoder.Honors recording shortestToken where
  initial := rfl
  begins_append := fun h later => h.trans (List.prefix_append _ later)
  nonempty := fun {kind _} h =>
    Nat.lt_of_lt_of_le (by cases kind <;> exact Nat.succ_pos _) (List.IsPrefix.length_le h)
  located := fun h => seek_of_located h
  unlocated := fun h => seek_of_unlocated h
  needMore := by
    rintro state bytes kind rfl - houtcome
    exact extract_of_needMore houtcome
  done := by
    rintro state bytes kind messages rfl htoken houtcome
    exact extract_of_done htoken houtcome
  stalled_not_mem := by
    intro state bytes name
    rw [List.mem_append, not_or]
    exact ⟨stalled_not_mem_seek state bytes name, stalled_not_mem_extract state bytes name⟩

/-! ## The place of the asterisk -/

/-- **The asterisk of a sentence belongs three bytes in front of the terminator**, and there are
three bytes in front of it. -/
theorem starOf_add {kind : Kind} {bytes : List UInt8} {offset : Nat} (htoken : kind.token <+: bytes)
    (hoffset : offsetOf? terminator (bytes.take maxFrameLength) = some offset) :
    starOf (bytes.take (offset + terminator.length)) + (digitCount + 1) = offset := by
  have hclosed := ending_eq_closed_iff.2 ⟨offset, hoffset, rfl⟩
  have hinside := (length_le_of_closed hclosed).1
  have hbehind := token_length_le_of_closed htoken hclosed
  have hlong : digitCount + 1 ≤ kind.token.length := by cases kind <;> decide
  unfold starOf
  rw [List.length_take, Nat.min_eq_left hinside]
  omega

/-- A sentence that is long enough for its token has the place of the asterisk behind the token. -/
theorem token_length_le_starOf {kind : Kind} {frame : List UInt8}
    (hlong : kind.token.length + 1 + digitCount + terminator.length ≤ frame.length) :
    kind.token.length ≤ starOf frame := by
  unfold starOf
  omega

end NavStream.Sentence
