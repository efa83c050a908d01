import NavStream.Proofs.Sentence.Ending

/-!
# Sessions whose token stands at the front

A sentence session either looks for a sentence, or it has located one and keeps its kind. The token
of this kind then stands at the front of the unread bytes, although it need not be the longest that
stands there: the byte that makes the longer token of it may have come after the kind was recorded.

* `Seeks`, `Holds`, `Anchored` — the invariant;
* `Seeks.effect_of_none`, `Seeks.effect_of_some`, `Seeks.effect_of_token`, `Holds.effect` — what the
  next cycle does;
* `Anchored.feed`, `Anchored.cycle` — feeding and cycles keep the invariant.
-/

namespace NavStream.Sentence

open NavStream.Bytes NavStream.Frame

/-- A session that looks for a sentence. -/
structure Seeks (session : Session State) : Prop where
  decoder : session.decoder = Sentence.decoder
  phase : session.phase = .seekHeader
  state : session.state = none

/-- A session that has located a sentence and recorded its kind. -/
structure Holds (session : Session State) (kind : Kind) : Prop where
  decoder : session.decoder = Sentence.decoder
  phase : session.phase = .extractPayload
  state : session.state = some kind
  token : kind.token <+: session.buffer.peek

/-- A sentence session that begins to extract only where a token stands at the front. -/
inductive Anchored (session : Session State) : Prop where
  /-- It looks for a sentence. -/
  | seeks (h : Seeks session)
  /-- It has located one. -/
  | holds (kind : Kind) (h : Holds session kind)

variable {session : Session State}

/-! ## What the next cycle does -/

/-- Where there is no token the next cycle waits. Only bytes leave that cannot begin one. -/
theorem Seeks.effect_of_none (h : Seeks session)
    (hfind : findOffset startsWithToken session.buffer.peek = none) :
    let skip := session.buffer.peek.length - (longestToken - 1)
    session.effect =
      ⟨.seekHeader, none, skip, [], if 0 < skip then [.noSentence skip] else [], .wait⟩ := by
  intro skip
  have hseek : Sentence.decoder.seek session.state session.buffer.peek =
      seek session.state session.buffer.peek := rfl
  rw [Session.effect, h.decoder, h.phase, FrameDecoder.cycleEffect, hseek, seek_eq, hfind]
  dsimp only
  rw [if_neg Bool.false_ne_true, Nat.min_eq_left (Nat.sub_le _ _)]

/-- Where there is a token the next cycle skips what stands in front of it and does what the ending
of the sentence calls for. -/
theorem Seeks.effect_of_some (h : Seeks session) {offset : Nat} {kind : Kind}
    (hfind : findOffset startsWithToken session.buffer.peek = some offset)
    (hkind : leading? (session.buffer.peek.drop offset) = some kind) :
    session.effect.IsBehind offset
      ((ending (session.buffer.peek.drop offset)).effect kind
        (session.buffer.peek.drop offset)) := by
  have hseek : Sentence.decoder.seek session.state session.buffer.peek =
      seek session.state session.buffer.peek := rfl
  have hle : offset ≤ session.buffer.peek.length := Nat.le_of_lt (findOffset_eq_some hfind).1
  rw [Session.effect, h.decoder, h.phase, FrameDecoder.cycleEffect, hseek, seek_eq, hfind,
    ← extractEffect_eq (prefix_of_leading? hkind)]
  dsimp only
  rw [if_pos rfl, hkind, Nat.min_eq_left hle]
  exact ⟨rfl, rfl, rfl, rfl, rfl⟩

/-- Where a token stands at the front nothing is skipped, and nothing is reported but on the
sentence. -/
theorem Seeks.effect_of_token (h : Seeks session) {kind : Kind}
    (hkind : leading? session.buffer.peek = some kind) :
    session.effect = (ending session.buffer.peek).effect kind session.buffer.peek := by
  have hseek : Sentence.decoder.seek session.state session.buffer.peek =
      seek session.state session.buffer.peek := rfl
  have htoken := prefix_of_leading? hkind
  have hpositive : 0 < session.buffer.peek.length :=
    Nat.lt_of_lt_of_le (Nat.lt_of_lt_of_le (by decide) (le_token_length kind)) htoken.length_le
  have hfind : findOffset startsWithToken session.buffer.peek = some 0 :=
    findOffset_eq_some_iff.2 ⟨hpositive, startsWithToken_of_token htoken, nofun⟩
  rw [Session.effect, h.decoder, h.phase, FrameDecoder.cycleEffect, hseek, seek_eq, hfind,
    ← extractEffect_eq htoken]
  dsimp only
  rw [if_pos rfl, List.drop_zero, hkind, Nat.zero_min, Nat.zero_add]
  rfl

/-- With a recorded kind the next cycle does what the ending of the sentence calls for. -/
theorem Holds.effect {kind : Kind} (h : Holds session kind) :
    session.effect = (ending session.buffer.peek).effect kind session.buffer.peek := by
  rw [Session.effect, h.decoder, h.phase, h.state]
  exact extractEffect_eq h.token

/-- With a recorded kind nothing is skipped in front of the sentence. -/
theorem Holds.isBehind {kind : Kind} (h : Holds session kind) :
    session.effect.IsBehind 0
      ((ending session.buffer.peek).effect kind session.buffer.peek) := by
  rw [h.effect]
  exact Effect.isBehind_zero _

/-! ## Cycles keep the invariant -/

section Located

variable {bytes : List UInt8} {kind : Kind} {offset : Nat}
  (heffect : session.effect.IsBehind offset ((ending bytes).effect kind bytes))
  (hdecoder : session.decoder = Sentence.decoder)

include heffect hdecoder

/-- Behind a sentence whose ending is known the session looks for the next one. -/
theorem seeks_cycle (hsettled : (ending bytes).settled = true) : Seeks session.cycle.session where
  decoder := by rw [Session.decoder_cycle, hdecoder]
  phase := by rw [Session.phase_cycle, heffect.phase, Ending.effect_phase, if_pos hsettled]
  state := by rw [Session.state_cycle, heffect.state, Ending.effect_state, if_pos hsettled]

/-- A cycle that has to wait for the end of a sentence records its kind, and leaves the sentence at
the front. -/
theorem holds_cycle (hpending : ending bytes = .pending) (htoken : kind.token <+: bytes)
    (hdrop : session.buffer.peek.drop offset = bytes) :
    Holds session.cycle.session kind ∧ session.cycle.session.buffer.peek = bytes := by
  rw [hpending] at heffect
  have hpeek : session.cycle.session.buffer.peek = bytes := by
    rw [Session.peek_cycle, heffect.consumed, ← hdrop]
    rfl
  refine ⟨⟨?_, ?_, ?_, ?_⟩, hpeek⟩
  · rw [Session.decoder_cycle, hdecoder]
  · rw [Session.phase_cycle, heffect.phase]
    rfl
  · rw [Session.state_cycle, heffect.state]
    rfl
  · rw [hpeek]
    exact htoken

/-- A cycle that meets a sentence leaves an anchored session. -/
theorem anchored_cycle (htoken : kind.token <+: bytes)
    (hdrop : session.buffer.peek.drop offset = bytes) : Anchored session.cycle.session := by
  cases hsettled : (ending bytes).settled with
  | true => exact .seeks (seeks_cycle heffect hdecoder hsettled)
  | false =>
    have hpending : ending bytes = .pending := by
      cases hending : ending bytes <;> simp_all [Ending.settled]
    exact .holds kind (holds_cycle heffect hdecoder hpending htoken hdrop).1

end Located

/-- A cycle that meets no token goes on to look for one. -/
theorem Seeks.cycle_of_none (h : Seeks session)
    (hfind : findOffset startsWithToken session.buffer.peek = none) :
    Seeks session.cycle.session where
  decoder := by rw [Session.decoder_cycle, h.decoder]
  phase := by rw [Session.phase_cycle, h.effect_of_none hfind]
  state := by rw [Session.state_cycle, h.effect_of_none hfind]

/-- A session that looks for a sentence still does so when it is fed. -/
theorem Seeks.feed (h : Seeks session) (chunk : List UInt8) : Seeks (session.feed chunk) :=
  ⟨h.decoder, h.phase, h.state⟩

/-- A session keeps the sentence that it has located when it is fed. -/
theorem Holds.feed {kind : Kind} (h : Holds session kind) (chunk : List UInt8) :
    Holds (session.feed chunk) kind := by
  refine ⟨h.decoder, h.phase, h.state, ?_⟩
  rw [Session.peek_feed]
  exact h.token.trans (List.prefix_append _ chunk)

/-- A session stays anchored when it is fed. -/
theorem Anchored.feed (h : Anchored session) (chunk : List UInt8) :
    Anchored (session.feed chunk) := by
  cases h with
  | seeks h => exact .seeks (h.feed chunk)
  | holds kind h => exact .holds kind (h.feed chunk)

/-- A session stays anchored when it runs a cycle. -/
theorem Anchored.cycle (h : Anchored session) : Anchored session.cycle.session := by
  cases h with
  | holds kind h => exact anchored_cycle h.isBehind h.decoder h.token List.drop_zero
  | seeks h =>
    cases hfind : findOffset startsWithToken session.buffer.peek with
    | none => exact .seeks (h.cycle_of_none hfind)
    | some offset =>
      obtain ⟨kind, hkind⟩ := Option.isSome_iff_exists.1 (findOffset_eq_some hfind).2.1
      exact anchored_cycle (h.effect_of_some hfind hkind) h.decoder (prefix_of_leading? hkind) rfl

end NavStream.Sentence
