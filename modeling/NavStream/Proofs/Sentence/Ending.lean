import Mathlib.Data.List.Infix
import NavStream.Proofs.Frame.Effect
import NavStream.Proofs.Sentence.Tokens

/-!
# Where sentences end

A located sentence ends with the first terminator, unless this is too far away. How it ends is told
by as many bytes as the longest sentence has, however many more are there, and it does not depend on
the token that was located.

* `ending` — how the sentence at the front ends;
* `ending_append_of_settled` — an ending that is known stays when more bytes arrive;
* `token_length_le_of_closed` — a sentence ends behind its token;
* `Terminated` — a sentence whose only terminator is its end;
* `terminated_iff`, `terminated_of_closed` — sentences that end are just those;
* `extract_eq_ending`, `extractEffect_eq` — what extracting a sentence does.
-/

namespace NavStream.Sentence

open NavStream.Bytes NavStream.Frame

/-- How a sentence ends. -/
inductive Ending where
  /-- Its terminator has not come yet. -/
  | pending
  /-- It has no terminator within the longest length. -/
  | endless
  /-- It is `length` bytes long, its terminator included. -/
  | closed (length : Nat)
deriving DecidableEq

/-- How the sentence at the front ends. -/
def ending (bytes : List UInt8) : Ending :=
  match offsetOf? terminator (bytes.take maxFrameLength) with
  | none => if maxFrameLength ≤ bytes.length then .endless else .pending
  | some offset => .closed (offset + terminator.length)

/-- A sentence ends with its terminator. -/
theorem ending_eq_closed_iff {bytes : List UInt8} {length : Nat} :
    ending bytes = .closed length ↔ ∃ offset,
      offsetOf? terminator (bytes.take maxFrameLength) = some offset ∧
        offset + terminator.length = length := by
  unfold ending
  cases offsetOf? terminator (bytes.take maxFrameLength) with
  | none =>
    by_cases hlong : maxFrameLength ≤ bytes.length
    · simp [hlong]
    · simp [hlong]
  | some offset => simp

/-- A sentence is given up where the longest one would have its place and no terminator is there. -/
theorem ending_eq_endless_iff {bytes : List UInt8} :
    ending bytes = .endless ↔
      offsetOf? terminator (bytes.take maxFrameLength) = none ∧ maxFrameLength ≤ bytes.length := by
  unfold ending
  cases offsetOf? terminator (bytes.take maxFrameLength) with
  | none =>
    by_cases hlong : maxFrameLength ≤ bytes.length
    · simp [hlong]
    · simp [hlong]
  | some offset => simp

/-- Searching for the terminator is searching for bytes that begin with it. -/
theorem offsetOf?_terminator (bytes : List UInt8) :
    offsetOf? terminator bytes = findOffset (terminator.isPrefixOf ·) bytes := rfl

/-- Whether the terminator stands at the front is told by two bytes. -/
theorem windowed_terminator : Windowed (terminator.isPrefixOf ·) (1 + 1) :=
  windowed_isPrefixOf (by decide)

/-- The terminator that was found lies inside the bytes. -/
theorem le_length_of_offsetOf? {bytes : List UInt8} {offset : Nat}
    (h : offsetOf? terminator bytes = some offset) :
    offset + terminator.length ≤ bytes.length := by
  obtain ⟨hlt, hterminator, -⟩ := findOffset_eq_some h
  have hlength := (List.isPrefixOf_iff_prefix.1 hterminator).length_le
  rw [List.length_drop] at hlength
  omega

/-- The terminator that was found stays the first one. -/
theorem offsetOf?_append {bytes : List UInt8} {offset : Nat}
    (h : offsetOf? terminator bytes = some offset) (later : List UInt8) :
    offsetOf? terminator (bytes ++ later) = some offset := by
  have hlength : offset + 2 ≤ bytes.length := le_length_of_offsetOf? h
  rw [offsetOf?_terminator] at h ⊢
  have hterminator := List.isPrefixOf_iff_prefix.1 (findOffset_eq_some h).2.1
  refine findOffset_append_of_some windowed_terminator h (by omega) ?_
  exact List.isPrefixOf_iff_prefix.2 (hterminator.trans (List.prefix_append _ later))

/-- **An ending that is known stays** when more bytes arrive. -/
theorem ending_append_of_settled {bytes : List UInt8} (h : ending bytes ≠ .pending)
    (later : List UInt8) : ending (bytes ++ later) = ending bytes := by
  cases hending : ending bytes with
  | pending => exact absurd hending h
  | endless =>
    obtain ⟨hnone, hlong⟩ := ending_eq_endless_iff.1 hending
    refine ending_eq_endless_iff.2 ⟨?_, ?_⟩
    · rw [List.take_append_of_le_length hlong]
      exact hnone
    · rw [List.length_append]
      exact Nat.le_add_right_of_le hlong
  | closed length =>
    obtain ⟨offset, hoffset, hlength⟩ := ending_eq_closed_iff.1 hending
    refine ending_eq_closed_iff.2 ⟨offset, ?_, hlength⟩
    rw [List.take_append]
    exact offsetOf?_append hoffset _

/-- A sentence that ends lies inside the bytes, and is no longer than the longest. -/
theorem length_le_of_closed {bytes : List UInt8} {length : Nat}
    (h : ending bytes = .closed length) : length ≤ bytes.length ∧ length ≤ maxFrameLength := by
  obtain ⟨offset, hoffset, rfl⟩ := ending_eq_closed_iff.1 h
  have hle := le_length_of_offsetOf? hoffset
  rw [List.length_take] at hle
  omega

/-- No terminator begins inside a token. -/
theorem not_terminator_in_token {bytes : List UInt8} {kind : Kind} (h : kind.token <+: bytes)
    {i : Nat} (hi : i < kind.token.length) : terminator.isPrefixOf (bytes.drop i) = false := by
  obtain ⟨rest, rfl⟩ := h
  have hlt : i < (kind.token ++ rest).length := by
    rw [List.length_append]
    exact Nat.lt_of_lt_of_le hi (Nat.le_add_right _ _)
  have hbyte : kind.token[i] ≠ 13 := by
    have hall : kind.token.contains 13 = false := by cases kind <;> rfl
    intro heq
    have hmem : (13 : UInt8) ∈ kind.token := heq ▸ List.getElem_mem hi
    rw [List.contains_eq_mem, decide_eq_false_iff_not] at hall
    exact hall hmem
  rw [List.drop_eq_getElem_cons hlt, List.getElem_append_left hi, terminator,
    List.isPrefixOf_cons_cons]
  simp [Ne.symm hbyte]

/-- **A sentence ends behind its token.** -/
theorem token_length_le_of_closed {bytes : List UInt8} {kind : Kind} {length : Nat}
    (h : kind.token <+: bytes) (hclosed : ending bytes = .closed length) :
    kind.token.length + terminator.length ≤ length := by
  obtain ⟨offset, hoffset, rfl⟩ := ending_eq_closed_iff.1 hclosed
  have hfits : kind.token.length ≤ maxFrameLength :=
    Nat.le_trans (token_length_le kind) (by decide)
  have hwindow : kind.token <+: bytes.take maxFrameLength := List.prefix_take_iff.2 ⟨h, hfits⟩
  have hfound := (findOffset_eq_some hoffset).2.1
  refine Nat.add_le_add_right (Nat.le_of_not_lt fun hlt => ?_) _
  rw [not_terminator_in_token hwindow hlt] at hfound
  cases hfound

/-- Where the ending is known, so is the kind. -/
theorem longestToken_le_of_settled {bytes : List UInt8} {kind : Kind} (h : kind.token <+: bytes)
    (hsettled : ending bytes ≠ .pending) : longestToken ≤ bytes.length := by
  cases hending : ending bytes with
  | pending => exact absurd hending hsettled
  | endless =>
    have hlimit : longestToken ≤ maxFrameLength := by decide
    exact Nat.le_trans hlimit (ending_eq_endless_iff.1 hending).2
  | closed length =>
    have htoken := le_token_length kind
    have hbehind : kind.token.length + 2 ≤ length := token_length_le_of_closed h hending
    have hinside := (length_le_of_closed hending).1
    omega

/-! ## Whole sentences -/

/-- A sentence that ends with its terminator, has no other one in it, and is no longer than the
longest. -/
structure Terminated (frame : List UInt8) : Prop where
  /-- The terminator stands at its end. -/
  ends : terminator <:+ frame
  /-- No terminator stands anywhere else. -/
  once : ∀ i, terminator <+: frame.drop i → i + terminator.length = frame.length
  /-- It does not exceed the longest length. -/
  fits : frame.length ≤ maxFrameLength

/-- **A terminated sentence ends where it does**, whatever stands behind it. -/
theorem ending_append_of_terminated {frame : List UInt8} (h : Terminated frame)
    (later : List UInt8) : ending (frame ++ later) = .closed frame.length := by
  have hclosed : ending frame = .closed frame.length := by
    obtain ⟨body, hbody⟩ := h.ends
    have hlength : body.length + terminator.length = frame.length := by
      rw [← List.length_append, hbody]
    refine ending_eq_closed_iff.2 ⟨body.length, ?_, hlength⟩
    rw [List.take_of_length_le h.fits, offsetOf?_terminator]
    refine findOffset_eq_some_iff.2 ⟨?_, ?_, fun i hi => ?_⟩
    · exact hlength ▸ Nat.lt_add_of_pos_right (by decide)
    · rw [← hbody, List.drop_left]
      exact List.isPrefixOf_iff_prefix.2 (List.prefix_refl _)
    · rw [Bool.eq_false_iff]
      intro hterminator
      have hplace := h.once i (List.isPrefixOf_iff_prefix.1 hterminator)
      omega
  rw [ending_append_of_settled (by rw [hclosed]; exact Ending.noConfusion), hclosed]

/-- **A sentence as long as the longest one that has no terminator does not end**, whatever stands
behind it. -/
theorem ending_append_of_unterminated {bytes : List UInt8} (hlong : maxFrameLength ≤ bytes.length)
    (h : ¬terminator <:+: bytes) (later : List UInt8) : ending (bytes ++ later) = .endless := by
  have hendless : ending bytes = .endless := by
    refine ending_eq_endless_iff.2 ⟨?_, hlong⟩
    rw [offsetOf?_terminator]
    refine findOffset_eq_none_iff.2 fun i _ => ?_
    rw [Bool.eq_false_iff]
    intro hterminator
    have hinfix := (List.drop_suffix i (bytes.take maxFrameLength)).isInfix
    exact h (((List.isPrefixOf_iff_prefix.1 hterminator).isInfix.trans hinfix).trans
      (List.take_prefix _ _).isInfix)
  rw [ending_append_of_settled (by rw [hendless]; exact Ending.noConfusion), hendless]

/-- **A sentence that ends is terminated.** -/
theorem terminated_of_closed {bytes : List UInt8} {length : Nat}
    (h : ending bytes = .closed length) : Terminated (bytes.take length) := by
  obtain ⟨hinside, hfits⟩ := length_le_of_closed h
  obtain ⟨offset, hoffset, rfl⟩ := ending_eq_closed_iff.1 h
  have hlength : (bytes.take (offset + terminator.length)).length = offset + terminator.length :=
    List.length_take_of_le hinside
  have hwindow : bytes.take (offset + terminator.length) <+: bytes.take maxFrameLength :=
    List.take_prefix_take_left hfits
  obtain ⟨-, hfound, hbefore⟩ := findOffset_eq_some hoffset
  refine ⟨?_, fun i hi => ?_, by rw [hlength]; exact hfits⟩
  · -- the terminator that was found is all that stands behind its offset
    have hrest : ((bytes.take (offset + terminator.length)).drop offset).length =
        terminator.length := by
      rw [List.length_drop, hlength, Nat.add_sub_cancel_left]
    have hlast : (bytes.take (offset + terminator.length)).drop offset = terminator :=
      (List.prefix_of_prefix_length_le (hwindow.drop offset)
        (List.isPrefixOf_iff_prefix.1 hfound) (Nat.le_of_eq hrest)).eq_of_length hrest
    have hsuffix := List.drop_suffix offset (bytes.take (offset + terminator.length))
    rw [hlast] at hsuffix
    exact hsuffix
  · have hroom := hi.length_le
    have hpositive : 0 < terminator.length := by decide
    have hnot : ¬i < offset := by
      intro hlt
      have hnone := hbefore i hlt
      rw [List.isPrefixOf_iff_prefix.2 (hi.trans (hwindow.drop i))] at hnone
      cases hnone
    rw [List.length_drop] at hroom
    omega

/-- A sentence is terminated where it ends with its last byte. -/
theorem terminated_iff {frame : List UInt8} :
    Terminated frame ↔ ending frame = .closed frame.length := by
  constructor
  · intro h
    have hclosed := ending_append_of_terminated h []
    rw [List.append_nil] at hclosed
    exact hclosed
  · intro h
    have hterminated := terminated_of_closed h
    rw [List.take_length] at hterminated
    exact hterminated

instance (frame : List UInt8) : Decidable (Terminated frame) :=
  decidable_of_iff _ terminated_iff.symm

namespace Ending

/-- Whether no more bytes are needed to decide what to do. -/
def settled : Ending → Bool
  | pending => false
  | endless | closed _ => true

/-- How many bytes are used up: the sentence if it ends, and only its token if it does not. -/
def used (kind : Kind) : Ending → Nat
  | pending => 0
  | endless => kind.token.length
  | closed length => length

/-- The messages of a sentence. -/
def messages (kind : Kind) (bytes : List UInt8) : Ending → List Message
  | pending | endless => []
  | closed length => (checkFrame kind (bytes.take length)).1

/-- What extracting a sentence of some kind does. -/
def effect (kind : Kind) (bytes : List UInt8) : Ending → Effect State
  | pending => ⟨.extractPayload, some kind, 0, [], [], .wait⟩
  | endless =>
    ⟨.seekHeader, none, kind.token.length, [],
      [.noTerminator kind bytes.length, .frameDecoded "huace" 0], .continue⟩
  | closed length =>
    let (messages, diagnostics) := checkFrame kind (bytes.take length)
    ⟨.seekHeader, none, length, messages,
      diagnostics ++ [.frameDecoded "huace" messages.length], .continue⟩

variable (kind : Kind) (bytes : List UInt8) (ending : Ending)

/-- Extracting goes on behind a sentence whose ending is known. -/
theorem effect_next :
    (ending.effect kind bytes).next = if ending.settled then .continue else .wait := by
  cases ending <;> rfl

/-- Extracting uses up what the ending tells. -/
theorem effect_consumed : (ending.effect kind bytes).consumed = ending.used kind := by
  cases ending <;> rfl

/-- Extracting gives the messages of the sentence. -/
theorem effect_messages : (ending.effect kind bytes).messages = ending.messages kind bytes := by
  cases ending <;> rfl

/-- Behind a sentence whose ending is known the next one is looked for. -/
theorem effect_phase :
    (ending.effect kind bytes).phase = if ending.settled then .seekHeader else .extractPayload := by
  cases ending <;> rfl

/-- The kind is kept as long as the ending is not known. -/
theorem effect_state :
    (ending.effect kind bytes).state = if ending.settled then none else some kind := by
  cases ending <;> rfl

/-- An ending is known where it is not pending. -/
theorem settled_iff : ending.settled = true ↔ ending ≠ pending := by
  cases ending <;> simp [settled]

end Ending

/-- What is used up was there. -/
theorem used_le_length {bytes : List UInt8} {kind : Kind} (h : kind.token <+: bytes) :
    (ending bytes).used kind ≤ bytes.length := by
  cases hending : ending bytes with
  | pending => exact Nat.zero_le _
  | endless => exact h.length_le
  | closed length => exact (length_le_of_closed hending).1

/-- The decoder's answer is told by the ending of the sentence. -/
theorem extract_eq_ending (kind : Kind) (bytes : List UInt8) :
    extract (some kind) bytes =
      match ending bytes with
      | .pending => ⟨some kind, 0, .needMore, []⟩
      | .endless => ⟨none, kind.token.length, .done [], [.noTerminator kind bytes.length]⟩
      | .closed length =>
        let (messages, diagnostics) := checkFrame kind (bytes.take length)
        ⟨none, length, .done messages, diagnostics⟩ := by
  unfold extract ending
  dsimp only
  cases offsetOf? terminator (bytes.take maxFrameLength) with
  | none =>
    dsimp only
    by_cases hlong : maxFrameLength ≤ bytes.length
    · rw [if_pos hlong, if_pos hlong]
    · rw [if_neg hlong, if_neg hlong]
  | some offset => rfl

/-- **Extracting a sentence does what its ending calls for.** -/
theorem extractEffect_eq {bytes : List UInt8} {kind : Kind} (h : kind.token <+: bytes) :
    decoder.extractEffect (some kind) bytes = (ending bytes).effect kind bytes := by
  have hextract : decoder.extract (some kind) bytes = extract (some kind) bytes := rfl
  have hname : decoder.name = "huace" := rfl
  have hle := used_le_length h
  unfold FrameDecoder.extractEffect
  rw [hextract, hname, extract_eq_ending]
  cases hending : ending bytes with
  | pending => simp [Ending.effect]
  | endless =>
    have hpositive : kind.token.length ≠ 0 := by cases kind <;> decide
    rw [hending, Ending.used] at hle
    simp [Ending.effect, Nat.min_eq_left hle, hpositive]
  | closed length =>
    have hbehind := token_length_le_of_closed h hending
    have hpositive : length ≠ 0 := by
      have hterminator : 0 < terminator.length := by decide
      omega
    rw [hending, Ending.used] at hle
    simp [Ending.effect, Nat.min_eq_left hle, hpositive]

/-- **What is done with a sentence whose ending is known** is the same when more bytes arrive. The
reports may differ, since one of them tells how many bytes there are. -/
theorem effect_append_isBehind {bytes : List UInt8} (h : ending bytes ≠ .pending) (kind : Kind)
    (later : List UInt8) :
    ((ending (bytes ++ later)).effect kind (bytes ++ later)).IsBehind 0
      ((ending bytes).effect kind bytes) := by
  rw [ending_append_of_settled h]
  cases hending : ending bytes with
  | pending => exact absurd hending h
  | endless => exact ⟨rfl, rfl, (Nat.zero_add _).symm, rfl, rfl⟩
  | closed length =>
    have htake : (bytes ++ later).take length = bytes.take length :=
      List.take_append_of_le_length (length_le_of_closed hending).1
    rw [Ending.effect, htake]
    exact Effect.isBehind_zero _

end NavStream.Sentence
