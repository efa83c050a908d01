import NavStream.Proofs.Frame.NewSession
import NavStream.Proofs.Frame.Schedule
import NavStream.Proofs.Oem.Anchored

/-!
# Binary streams under every schedule

A binary frame may arrive in any pieces: cut inside its sync pattern, its header, its payload or its
check value, with garbage in front that is discarded sooner or later. None of this changes what is
decoded.

* `Anchored.foresees` — a cycle of a binary session never acts rashly;
* `binary_after_eq_oneShot` — every schedule of calls gives what decoding the whole stream at once
  gives.
-/

namespace NavStream.Oem

open NavStream.Bytes NavStream.Frame

/-- A frame that is complete is the same frame when more bytes have come. -/
theorem Anchored.foresees_of_settled {settings : Settings} {session : Session State}
    (h : Anchored settings session) (hsettled : (front session.buffer.peek).found.settled = true) :
    session.Foresees := by
  intro later
  have heffect := h.effect
  have hfed := (h.feed later).effect
  rw [Session.peek_feed, Session.state_feed, front_append_of_settled hsettled, ← heffect] at hfed
  refine Session.outcome_feed_of_continue ?_ ?_ ?_
  · rw [heffect, Front.effect_next, if_pos hsettled]
  · rw [heffect, Front.effect_consumed]
    exact skip_add_length_le session.buffer.peek
  · rw [hfed]
    exact Effect.isBehind_zero _

/-- Where more bytes are needed only such bytes are discarded that the first cycle after them skips
as well. -/
theorem Anchored.foresees_of_open {settings : Settings} {session : Session State}
    (h : Anchored settings session) (hopen : (front session.buffer.peek).found.settled = false) :
    session.Foresees := by
  intro later
  have heffect := h.effect
  have hle := skip_add_length_le session.buffer.peek
  obtain ⟨hmessages, hmemory, hlength⟩ :=
    (front session.buffer.peek).effect_of_open settings session.state.memory hopen
  have hconsumed : session.effect.consumed = (front session.buffer.peek).skip := by
    rw [heffect, Front.effect_consumed, hlength, Nat.add_zero]
  have hpeek : (session.cycle.session.feed later).buffer.peek =
      session.buffer.peek.drop (front session.buffer.peek).skip ++ later := by
    rw [Session.peek_feed, Session.peek_cycle, hconsumed]
  have hfed := (h.feed later).effect
  have hwaited := (h.cycle.feed later).effect
  rw [Session.peek_feed, Session.state_feed, front_append] at hfed
  rw [hpeek, Session.state_feed, Session.state_cycle, heffect, hmemory] at hwaited
  have hbehind : (session.feed later).effect.IsBehind (front session.buffer.peek).skip
      (session.cycle.session.feed later).effect := by
    rw [hfed, hwaited]
    exact Front.effect_behind _ _ _ _
  have hdrop : (session.cycle.session.feed later).buffer.peek =
      (session.feed later).buffer.peek.drop (front session.buffer.peek).skip := by
    rw [hpeek, Session.peek_feed, List.drop_append_of_le_length (by omega)]
  rw [hconsumed, heffect, hmessages]
  exact Session.outcome_of_isBehind (by simp) hdrop hbehind

/-- **A cycle of a binary session never acts rashly.** -/
theorem Anchored.foresees {settings : Settings} {session : Session State}
    (h : Anchored settings session) : session.Foresees := by
  cases hsettled : (front session.buffer.peek).found.settled with
  | true => exact h.foresees_of_settled hsettled
  | false => exact h.foresees_of_open hsettled

/-- **Every schedule decodes a binary stream alike.** Cut into any chunks, with any calls in between
of which the last one decodes, a stream gives the messages, leaves the unread bytes and discards as
many bytes as the whole of it does that is fed to a new session of any capacity and decoded once. -/
theorem binary_after_eq_oneShot (config : Config) (capacity : UInt64) (calls : List Call) :
    let scheduled := ({ config with format := .binary } : Config).session.after (calls ++ [.decode])
    let oneShot := ({ config with format := .binary, bufferCapacity := capacity } :
      Config).session.after [.feed (streamOf calls), .decode]
    scheduled.messages = oneShot.messages ∧
      scheduled.session.buffer.peek = oneShot.session.buffer.peek ∧
      scheduled.consumed = oneShot.consumed := by
  intro scheduled oneShot
  have halike := ({ config with format := .binary } : Config).alike_session capacity
  have hanchored : Anchored config.settings ({ config with format := .binary } : Config).session :=
    anchored_of_seekHeader rfl rfl
  have houtcome : scheduled.outcome = oneShot.outcome := by
    refine Session.outcome_after_of_foresees ?_ ?_ ?_ hanchored halike calls
    · intro session chunk h
      exact h.feed chunk
    · intro session h
      exact h.cycle
    · intro session h
      exact h.foresees
  rw [Outcome.ext_iff] at houtcome
  exact ⟨houtcome.1, houtcome.2.1, houtcome.2.2⟩

end NavStream.Oem
