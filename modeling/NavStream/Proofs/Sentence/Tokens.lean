import NavStream.Proofs.Bytes.Windows
import NavStream.Sentence.Decoder

/-!
# Tokens in front of sentences

The token of one kind continues that of another. Which kind of sentence begins at the front of the
unread bytes may therefore be seen too early: the longer token is known only when one more byte has
come.

* `leading?` — the kind whose token bytes begin with;
* `leading?_of_token` — which kinds may be recorded where a longer token stands;
* `leading?_append` — the kind is settled by as many bytes as the longest token has;
* `seek_eq` — looking for a sentence is searching for the first token.
-/

namespace NavStream.Sentence

open NavStream.Bytes NavStream.Frame

/-- The kind of the sentence that bytes begin with. -/
def leading? (bytes : List UInt8) : Option Kind := Kind.all.find? (·.token.isPrefixOf bytes)

/-- Whether bytes begin with a token. -/
def startsWithToken (bytes : List UInt8) : Bool := (leading? bytes).isSome

/-- No token is longer than the longest. -/
theorem token_length_le (kind : Kind) : kind.token.length ≤ longestToken := by
  cases kind <;> decide

/-- Every token has six bytes or more. -/
theorem le_token_length (kind : Kind) : longestToken - 1 ≤ kind.token.length := by
  cases kind <;> decide

/-- The index of the token that bytes begin with is that of their kind. -/
theorem leadingToken?_tokens (bytes : List UInt8) :
    (leadingToken? (Kind.all.map Kind.token) bytes).bind (Kind.all[·]?) = leading? bytes := by
  have hlong : Kind.gpchcx.token.isEmpty = false := rfl
  have hshort : Kind.gpchc.token.isEmpty = false := rfl
  have hposition : Kind.gpgga.token.isEmpty = false := rfl
  unfold leadingToken? leading?
  simp only [Kind.all, List.map_cons, List.map_nil, List.findIdx?_cons, List.findIdx?_nil,
    List.find?_cons, List.find?_nil, hlong, hshort, hposition, Bool.not_false, Bool.true_and]
  cases Kind.gpchcx.token.isPrefixOf bytes
  · cases Kind.gpchc.token.isPrefixOf bytes
    · cases Kind.gpgga.token.isPrefixOf bytes <;> rfl
    · rfl
  · rfl

/-- An index of a token is one of a kind. -/
theorem isSome_leadingToken?_tokens (bytes : List UInt8) :
    (leadingToken? (Kind.all.map Kind.token) bytes).isSome = startsWithToken bytes := by
  rw [startsWithToken, ← leadingToken?_tokens]
  cases hindex : leadingToken? (Kind.all.map Kind.token) bytes with
  | none => rfl
  | some index =>
    obtain ⟨hlt, -⟩ := List.findIdx?_eq_some_iff_getElem.1 hindex
    rw [List.length_map] at hlt
    rw [Option.bind_some, List.getElem?_eq_getElem hlt]
    rfl

/-- Bytes begin with the token of their kind. -/
theorem prefix_of_leading? {bytes : List UInt8} {kind : Kind} (h : leading? bytes = some kind) :
    kind.token <+: bytes := by
  have hprefix : kind.token.isPrefixOf bytes = true := by
    unfold leading? at h
    have hfound := List.find?_some h
    exact hfound
  exact List.isPrefixOf_iff_prefix.1 hprefix

/-- Bytes that begin with a token have a kind. -/
theorem startsWithToken_of_token {bytes : List UInt8} {kind : Kind} (h : kind.token <+: bytes) :
    startsWithToken bytes = true := by
  rw [startsWithToken, leading?, List.find?_isSome]
  exact ⟨kind, by cases kind <;> decide, List.isPrefixOf_iff_prefix.2 h⟩

/-- Bytes begin with a token exactly where they begin with that of some kind. -/
theorem startsWithToken_iff {bytes : List UInt8} :
    startsWithToken bytes = true ↔ ∃ kind : Kind, kind.token <+: bytes := by
  constructor
  · intro h
    obtain ⟨kind, hkind⟩ := Option.isSome_iff_exists.1 h
    exact ⟨kind, prefix_of_leading? hkind⟩
  · rintro ⟨kind, h⟩
    exact startsWithToken_of_token h

/-- Every token begins with the dollar sign. -/
theorem eq_dollar_of_startsWithToken {byte : UInt8} {rest : List UInt8}
    (h : startsWithToken (byte :: rest) = true) : byte = 36 := by
  obtain ⟨kind, others, hkind⟩ := startsWithToken_iff.1 h
  cases kind <;> exact (List.cons.inj hkind).1.symm

/-- **Where a token stands its kind is the one that counts**, unless the next byte makes the longer
token of it. -/
theorem leading?_of_token {bytes : List UInt8} {kind : Kind} (h : kind.token <+: bytes) :
    leading? bytes = some kind ∨ kind = .gpchc ∧ leading? bytes = some .gpchcx := by
  obtain ⟨other, hother⟩ := Option.isSome_iff_exists.1 (startsWithToken_of_token h)
  obtain ⟨rest, rfl⟩ := h
  cases kind with
  | gpchcx => exact .inl rfl
  | gpgga => exact .inl rfl
  | gpchc =>
    cases other with
    | gpchcx => exact .inr ⟨rfl, hother⟩
    | gpchc => exact .inl hother
    | gpgga => exact absurd (prefix_of_leading? hother) (by simp [Kind.token])

/-! ## When more bytes arrive -/

/-- The kind is settled by as many bytes as the longest token has. -/
theorem leading?_append {bytes : List UInt8} (h : longestToken ≤ bytes.length)
    (later : List UInt8) : leading? (bytes ++ later) = leading? bytes := by
  have hsame : ∀ kind : Kind, kind.token.isPrefixOf (bytes ++ later) =
      kind.token.isPrefixOf bytes :=
    fun kind => windowed_isPrefixOf (token_length_le kind) bytes later h
  simp only [leading?, hsame]

/-- Whether a token stands at the front is told by as many bytes as the longest one has. -/
theorem windowed_startsWithToken : Windowed startsWithToken (longestToken - 1 + 1) := by
  intro front back h
  rw [startsWithToken, startsWithToken, leading?_append h]

/-- A token has six bytes or more. -/
theorem length_of_startsWithToken {bytes : List UInt8} (h : startsWithToken bytes = true) :
    longestToken - 1 ≤ bytes.length := by
  obtain ⟨kind, hkind⟩ := startsWithToken_iff.1 h
  exact Nat.le_trans (le_token_length kind) hkind.length_le

/-- The token that was found stays the first one. -/
theorem findOffset_startsWithToken_append {bytes : List UInt8} {offset : Nat}
    (h : findOffset startsWithToken bytes = some offset) (later : List UInt8) :
    findOffset startsWithToken (bytes ++ later) = some offset := by
  obtain ⟨hlt, htoken, -⟩ := findOffset_eq_some h
  have hlength := length_of_startsWithToken htoken
  refine findOffset_append_of_some windowed_startsWithToken h ?_ ?_
  · rw [List.length_drop] at hlength
    omega
  · obtain ⟨kind, hkind⟩ := startsWithToken_iff.1 htoken
    exact startsWithToken_of_token (hkind.trans (List.prefix_append _ later))

/-! ## Looking for a sentence -/

/-- Looking for a sentence is searching for the first token. -/
theorem seek_eq (state : State) (bytes : List UInt8) :
    seek state bytes =
      match findOffset startsWithToken bytes with
      | none =>
        ⟨none, bytes.length - (longestToken - 1), false,
          if 0 < bytes.length - (longestToken - 1) then
            [.noSentence (bytes.length - (longestToken - 1))] else []⟩
      | some offset =>
        ⟨leading? (bytes.drop offset), offset, true,
          if 0 < offset then [.skippedToSentence offset] else []⟩ := by
  have htest : (fun rest => (leadingToken? (Kind.all.map Kind.token) rest).isSome) =
      startsWithToken := funext isSome_leadingToken?_tokens
  rw [seek, firstToken?, htest]
  cases hfind : findOffset startsWithToken bytes with
  | none => rfl
  | some offset =>
    have hstarts := (findOffset_eq_some hfind).2.1
    have hkind := leadingToken?_tokens (bytes.drop offset)
    have hindexed := hstarts
    rw [← isSome_leadingToken?_tokens] at hindexed
    obtain ⟨index, hindex⟩ := Option.isSome_iff_exists.1 hindexed
    rw [hindex, Option.bind_some] at hkind
    rw [Option.bind_some, hindex, Option.map_some]
    dsimp only
    rw [hkind]
    congr 1

end NavStream.Sentence
