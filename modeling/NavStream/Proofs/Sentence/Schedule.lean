import NavStream.Proofs.Frame.NewSession
import NavStream.Proofs.Sentence.Recorded

/-!
# Streams of sentences under every schedule

Sentences may arrive in any pieces: cut inside a token, between the shorter token and the byte that
makes the longer one of it, inside a sentence that never ends, or inside a terminator. None of this
changes what is decoded.

* `Anchored.foresees` — a cycle of a sentence session never acts rashly;
* `sentences_after_eq_oneShot` — every schedule of calls gives what decoding the whole stream at
  once gives.
-/

namespace NavStream.Sentence

open NavStream.Bytes NavStream.Frame

variable {session : Session State}

/-- A session that has located a sentence never acts rashly: it uses up a sentence whose ending is
known, and otherwise changes nothing. -/
theorem Holds.foresees {kind : Kind} (h : Holds session kind) : session.Foresees := by
  intro later
  have heffect := h.effect
  have hfed := (h.feed later).effect
  rw [Session.peek_feed] at hfed
  by_cases hpending : ending session.buffer.peek = .pending
  · obtain ⟨hholds, hpeek⟩ := holds_cycle h.isBehind h.decoder hpending h.token List.drop_zero
    have halike : Session.Alike (session.feed later) (session.cycle.session.feed later) := by
      constructor
      · rw [Session.decoder_feed, Session.decoder_feed, Session.decoder_cycle]
      · rw [Session.phase_feed, Session.phase_feed, h.phase, hholds.phase]
      · rw [Session.state_feed, Session.state_feed, h.state, hholds.state]
      · rw [Session.peek_feed, Session.peek_feed, hpeek]
    rw [heffect, hpending, halike.outcome]
    simp [Outcome.behind, Ending.effect]
  · have hsettled := ((ending session.buffer.peek).settled_iff).2 hpending
    refine Session.outcome_feed_of_continue ?_ ?_ ?_
    · rw [heffect, Ending.effect_next, if_pos hsettled]
    · rw [heffect, Ending.effect_consumed]
      exact used_le_length h.token
    · rw [heffect, hfed]
      exact effect_append_isBehind hpending kind later

/-- A session that looks for a sentence never acts rashly where it finds no token: the bytes that it
skips are skipped after more bytes have come as well. -/
theorem Seeks.foresees_of_none (h : Seeks session)
    (hfind : findOffset startsWithToken session.buffer.peek = none) : session.Foresees := by
  intro later
  have heffect := h.effect_of_none hfind
  have hskip : session.effect.consumed = session.buffer.peek.length - (longestToken - 1) := by
    rw [heffect]
  have hle : session.effect.consumed ≤ session.buffer.peek.length := by
    rw [hskip]
    exact Nat.sub_le _ _
  have hpeek : (session.cycle.session.feed later).buffer.peek =
      session.buffer.peek.drop session.effect.consumed ++ later := by
    rw [Session.peek_feed, Session.peek_cycle]
  have hdrop : (session.cycle.session.feed later).buffer.peek =
      (session.feed later).buffer.peek.drop session.effect.consumed := by
    rw [hpeek, Session.peek_feed, List.drop_append_of_le_length hle]
  have hbehind : (session.feed later).effect.IsBehind session.effect.consumed
      (session.cycle.session.feed later).effect := by
    refine (h.feed later).effect_isBehind ((h.cycle_of_none hfind).feed later) hdrop.symm ?_ ?_
    · rw [hpeek, Session.peek_feed, hskip]
      exact findOffset_append_of_none windowed_startsWithToken hfind later
    · rw [hpeek, Session.peek_feed, List.length_append, List.length_append, List.length_drop, hskip]
      omega
  have hmessages : session.effect.messages = [] := by rw [heffect]
  rw [hmessages]
  exact Session.outcome_of_isBehind (by simp) hdrop hbehind

/-- The token that was found stays where it is when the session is fed. -/
theorem find_feed {offset : Nat}
    (hfind : findOffset startsWithToken session.buffer.peek = some offset) (later : List UInt8) :
    findOffset startsWithToken (session.feed later).buffer.peek = some offset ∧
      (session.feed later).buffer.peek.drop offset =
        session.buffer.peek.drop offset ++ later := by
  have hle : offset ≤ session.buffer.peek.length := Nat.le_of_lt (findOffset_eq_some hfind).1
  rw [Session.peek_feed]
  exact ⟨findOffset_startsWithToken_append hfind later, List.drop_append_of_le_length hle⟩

/-- A session that looks for a sentence never acts rashly where it finds one that has not ended,
even if the kind that it records turns out to be another one. -/
theorem Seeks.foresees_of_pending (h : Seeks session) {offset : Nat}
    (hfind : findOffset startsWithToken session.buffer.peek = some offset)
    (hpending : ending (session.buffer.peek.drop offset) = .pending) : session.Foresees := by
  intro later
  obtain ⟨kind, hkind⟩ := Option.isSome_iff_exists.1 (findOffset_eq_some hfind).2.1
  obtain ⟨hfind', hdrop⟩ := find_feed hfind later
  have heffect := h.effect_of_some hfind hkind
  obtain ⟨hholds, hpeek⟩ :=
    holds_cycle heffect h.decoder hpending (prefix_of_leading? hkind) rfl
  have hpeek' : (session.cycle.session.feed later).buffer.peek =
      (session.feed later).buffer.peek.drop offset := by
    rw [Session.peek_feed, hpeek, hdrop]
  -- the session has recorded a kind before the bytes have come, and looks for it after them
  rw [outcome_eq_of_recorded (h.feed later) (hholds.feed later) hfind' hpeek', heffect.messages,
    heffect.consumed, hpending]
  rfl

/-- A session that looks for a sentence never acts rashly where it finds one whose ending is known:
its kind is known as well. -/
theorem Seeks.foresees_of_settled (h : Seeks session) {offset : Nat}
    (hfind : findOffset startsWithToken session.buffer.peek = some offset)
    (hending : ending (session.buffer.peek.drop offset) ≠ .pending) : session.Foresees := by
  intro later
  obtain ⟨kind, hkind⟩ := Option.isSome_iff_exists.1 (findOffset_eq_some hfind).2.1
  obtain ⟨hfind', hdrop⟩ := find_feed hfind later
  have htoken := prefix_of_leading? hkind
  have heffect := h.effect_of_some hfind hkind
  have hsettled := ((ending (session.buffer.peek.drop offset)).settled_iff).2 hending
  have hkind' : leading? ((session.feed later).buffer.peek.drop offset) = some kind := by
    rw [hdrop, leading?_append (longestToken_le_of_settled htoken hending)]
    exact hkind
  have hfed := (h.feed later).effect_of_some hfind' hkind'
  rw [hdrop] at hfed
  refine Session.outcome_feed_of_continue ?_ ?_ ?_
  · rw [heffect.next, Ending.effect_next, if_pos hsettled]
  · have hlt := (findOffset_eq_some hfind).1
    have hused := used_le_length htoken
    rw [List.length_drop] at hused
    rw [heffect.consumed, Ending.effect_consumed]
    omega
  · have hsame := hfed.trans (effect_append_isBehind hending kind later)
    rw [Nat.add_comm] at hsame
    exact hsame.of_behind heffect

/-- **A cycle of a sentence session never acts rashly.** -/
theorem Anchored.foresees (h : Anchored session) : session.Foresees := by
  cases h with
  | holds kind h => exact h.foresees
  | seeks h =>
    cases hfind : findOffset startsWithToken session.buffer.peek with
    | none => exact h.foresees_of_none hfind
    | some offset =>
      by_cases hpending : ending (session.buffer.peek.drop offset) = .pending
      · exact h.foresees_of_pending hfind hpending
      · exact h.foresees_of_settled hfind hpending

/-- **Every schedule decodes a stream of sentences alike.** Cut into any chunks, with any calls in
between of which the last one decodes, a stream gives the messages, leaves the unread bytes and
discards as many bytes as the whole of it does that is fed to a new session of any capacity and
decoded once. -/
theorem sentences_after_eq_oneShot (config : Config) (capacity : UInt64) (calls : List Call) :
    let scheduled :=
      ({ config with format := .sentences } : Config).session.after (calls ++ [.decode])
    let oneShot := ({ config with format := .sentences, bufferCapacity := capacity } :
      Config).session.after [.feed (streamOf calls), .decode]
    scheduled.messages = oneShot.messages ∧
      scheduled.session.buffer.peek = oneShot.session.buffer.peek ∧
      scheduled.consumed = oneShot.consumed := by
  intro scheduled oneShot
  have halike := ({ config with format := .sentences } : Config).alike_session capacity
  have hanchored : Anchored ({ config with format := .sentences } : Config).session :=
    .seeks ⟨rfl, rfl, rfl⟩
  have houtcome : scheduled.outcome = oneShot.outcome := by
    refine Session.outcome_after_of_foresees ?_ ?_ ?_ hanchored halike calls
    · intro session chunk h
      exact h.feed chunk
    · intro session h
      exact h.cycle
    · intro session h
      exact h.foresees
  rw [Outcome.ext_iff] at houtcome
  exact ⟨houtcome.1, houtcome.2.1, houtcome.2.2⟩

end NavStream.Sentence
